-- What a match puts back: the name that was active whatever it comes to, how deep it is with an
-- answer, and the place and the captures where a rule has failed.
import Peg.Proofs.References

namespace Peg

open Text

variable {σ : Type}

/-! ## The place of a failure -/

/-- Where the ending is a failure, it is at the place where the attempt was made. -/
def Ending.GoesBack (x : List Char) (e : Ending) : Prop := e.answer = .ok false → e.rest = x

section

variable {x : List Char}

theorem goesBack_back (matched : Bool) (y : List Char) :
    (Ending.back x matched y).GoesBack x := by
  intro h
  cases matched with
  | false => rfl
  | true => cases h

theorem goesBack_failed (x : List Char) : (Ending.failed x).GoesBack x := fun _ => rfl

theorem goesBack_matched (x y : List Char) : (Ending.matched y).GoesBack x := fun h => by cases h

theorem goesBack_stopped (x y : List Char) (stop : Stop) : (Ending.stopped stop y).GoesBack x :=
  fun h => by cases h

/-- Every rule but a sequence goes back where it fails. -/
theorem ofRule_goesBack (g : Arena σ) (active : Option String) (x : List Char) {r : Rule σ}
    (hr : ∀ a b, r ≠ .sequence a b ∧ r ≠ .spaced a b) :
    (Plan.ofRule g active x r).Obeys (fun _ => True) (·.GoesBack x) := by
  cases r with
  | literal text =>
    show Ending.GoesBack x _
    split
    · exact goesBack_matched x _
    · exact goesBack_failed x
  | range lo hi =>
    show Ending.GoesBack x _
    split
    · split
      · exact goesBack_matched _ _
      · exact goesBack_failed _
    · exact goesBack_failed _
  | pattern source finder =>
    show Ending.GoesBack x _
    split
    · exact goesBack_failed x
    · split
      · exact goesBack_matched x _
      · exact goesBack_stopped x x _
  | not a => exact ⟨trivial, fun _ _ _ _ => rfl⟩
  | endOfInput a => exact ⟨trivial, fun _ _ _ => goesBack_back _ _⟩
  | sequence a b => exact absurd rfl (hr a b).1
  | spaced a b => exact absurd rfl (hr a b).2
  | choice a b =>
    refine ⟨trivial, ?_⟩
    intro matched y _
    cases matched with
    | true => exact goesBack_matched x y
    | false => exact ⟨trivial, fun _ _ _ => goesBack_back _ _⟩
  | zeroOrMore a =>
    refine repeating_obeys (fun _ _ => trivial) ?_ List.suffix_rfl 0
    exact fun _ y _ => goesBack_matched x y
  | oneOrMore a =>
    refine repeating_obeys (fun _ _ => trivial) ?_ List.suffix_rfl 0
    exact fun _ _ _ => goesBack_back _ _
  | optional a => exact ⟨trivial, fun _ _ _ => goesBack_matched x _⟩
  | reference name =>
    unfold Plan.ofRule
    dsimp only
    split
    · exact goesBack_failed x
    · split
      · exact goesBack_stopped x x _
      · exact ⟨trivial, fun _ _ _ => goesBack_back _ _⟩
  | action a run => exact ⟨trivial, fun _ _ _ => goesBack_back _ _⟩

end

/-! ## The captures of a failure -/

section

variable {g : Arena σ} {a : Attempt} {inside : Course} {x : List Char} {input : List Char}

/-- A rule that leaves no captures behind where it fails: an action, or a reference that is
refused. -/
def Rule.FailsClean (active : Option String) (r : Rule σ) : Prop :=
  (∃ a run, r = .action a run) ∨ ∃ name, r = .reference name ∧ active = some name

/-- A failed action drops what was captured inside of it, and nothing is done inside of a reference
that is refused. -/
theorem captures_of_failed {r : Rule σ} (hr : g.rule? a.rule = some r)
    (hdrops : r.FailsClean a.active) (h : Runs g (g.plan a) inside ⟨.ok false, x⟩) :
    (Course.made a inside ⟨.ok false, x⟩ .none).captures g input = [] := by
  rcases hdrops with ⟨b, run, rfl⟩ | ⟨name, rfl, hactive⟩
  · simp [Course.captures, Arena.recorded, hr]
  · rw [plan_of_rule hr, Plan.ofRule, if_pos hactive] at h
    obtain ⟨rfl, -⟩ := h.finish_inv
    simp [Course.captures, Arena.recorded, hr]

end

/-! ## What a match puts back -/

section

variable {g : Arena σ} {s t : MatchState} {id : RuleId} {matched : Bool} {e : GrammarError}

theorem restored_of_answer (h : Match.eval g id s = .ok matched t) :
    t.active = s.active ∧ t.depth = s.depth := by
  obtain ⟨inside, hrun, hreach⟩ := eval_ok h
  refine ⟨hreach.active, ?_⟩
  rw [hreach.depth, hrun.alone.unclosed_eq_zero rfl, Nat.add_zero]

theorem restored_of_failure (h : Match.eval g id s = .ok false t) :
    ∃ r, g.rule? id = some r ∧
      ((∀ a b, r ≠ .sequence a b ∧ r ≠ .spaced a b) → t.position = s.position) ∧
      (r.FailsClean s.active → t.captures = s.captures) := by
  obtain ⟨inside, hrun, hreach⟩ := eval_ok h
  cases hr : g.rule? (s.attempt id).rule with
  | none =>
    rw [plan_of_missing hr] at hrun
    cases hrun
  | some r =>
    refine ⟨r, hr, ?_, ?_⟩
    · intro hforms
      have hplan := hrun
      rw [plan_of_rule hr] at hplan
      have hrest : t.cursor.rest = s.cursor.rest :=
        hplan.fits (ofRule_goesBack _ _ _ hforms) rfl rfl
      exact congrArg Cursor.position (Cursor.ext_rest hreach.input hrest)
    · intro hdrops
      rw [hreach.captures, captures_of_failed hr hdrops hrun, List.append_nil]

/-- An error leaves those rules open that lead to the failing reference. -/
theorem restored_of_error (h : Match.eval g id s = .error (.error e) t) :
    t.active = s.active ∧ ∃ name inside x, e = .unknownRule name ∧
      Runs g (g.plan (s.attempt id)) inside (.stopped (.unknownRule name) x) ∧
      LeadsTo g name (s.attempt id :: inside.unanswered) ∧
      t.depth = s.depth + (s.attempt id :: inside.unanswered).length := by
  obtain ⟨name, inside, rfl, hrun, hreach⟩ := eval_unknownRule h
  obtain ⟨r, hr⟩ := hrun.rule_of_stop rfl
  refine ⟨hreach.active, name, inside, t.cursor.rest, rfl, hrun,
    hrun.leadsTo hr (plan_obeys hr) rfl, ?_⟩
  rw [hreach.depth, hrun.alone.unclosed_eq_length rfl]
  rfl

end

/-- Whatever a match comes to, the name that was active is active again. With an answer, it is as
deep as it was. A rule that is no sequence fails where it was tried, and an action that fails, or a
reference that is refused, leaves the captures as they were. An error leaves it deeper, by one for
each rule on the way to the failing reference, and there is at least one. -/
theorem a_match_puts_back (g : Arena σ) (id : RuleId) (s t : MatchState) :
    (∀ matched, Match.eval g id s = .ok matched t → t.active = s.active ∧ t.depth = s.depth) ∧
      (Match.eval g id s = .ok false t → ∃ r, g.rule? id = some r ∧
        ((∀ a b, r ≠ .sequence a b ∧ r ≠ .spaced a b) → t.position = s.position) ∧
        (r.FailsClean s.active → t.captures = s.captures)) ∧
      ∀ e, Match.eval g id s = .error (.error e) t → t.active = s.active ∧
        ∃ name inside x, e = .unknownRule name ∧
          Runs g (g.plan (s.attempt id)) inside (.stopped (.unknownRule name) x) ∧
          LeadsTo g name (s.attempt id :: inside.unanswered) ∧
          t.depth = s.depth + (s.attempt id :: inside.unanswered).length :=
  ⟨fun _ => restored_of_answer, restored_of_failure, fun _ => restored_of_error⟩

/-- A letter with an action, or else a reference without a rule. -/
def letterOrLost : Arena Unit where
  rules := #[.literal "a", .action ⟨0⟩ fun _ _ => ⟨⟩, .reference "lost", .choice ⟨1⟩ ⟨2⟩]
  names := []
  whitespace := ⟨0⟩
  warnings := []

theorem a_digit_puts_back :
    (∃ t, Match.eval letterOrLost ⟨1⟩ (.ofText ['1'] false) = .ok false t ∧ t.active = none ∧
      t.depth = 0 ∧ t.position = 0 ∧ t.captures = []) ∧
    ∃ t, Match.eval letterOrLost ⟨3⟩ (.ofText ['1'] false) =
      .error (.error (.unknownRule "lost")) t ∧ t.active = none ∧ t.depth = 2 ∧
      ∃ b, LeadsTo letterOrLost "lost" [⟨⟨3⟩, none, ['1']⟩, b] := by
  constructor
  · obtain ⟨t, hres⟩ : ∃ t, Match.eval letterOrLost ⟨1⟩ (.ofText ['1'] false) = .ok false t :=
      ⟨_, rfl⟩
    obtain ⟨hanswer, hfailure, -⟩ := a_match_puts_back letterOrLost ⟨1⟩ (.ofText ['1'] false) t
    obtain ⟨hactive, hdepth⟩ := hanswer false hres
    obtain ⟨r, hr, hplace, hcaptures⟩ := hfailure hres
    have hrule : letterOrLost.rule? ⟨1⟩ = some (.action ⟨0⟩ fun _ _ => ⟨⟩) := rfl
    rw [hrule] at hr
    cases hr
    exact ⟨t, hres, hactive, hdepth, hplace (by simp), hcaptures (.inl ⟨_, _, rfl⟩)⟩
  · obtain ⟨t, hres, htwo⟩ : ∃ t, Match.eval letterOrLost ⟨3⟩ (.ofText ['1'] false) =
        .error (.error (.unknownRule "lost")) t ∧ t.depth = 2 := ⟨_, rfl, rfl⟩
    obtain ⟨-, -, herror⟩ := a_match_puts_back letterOrLost ⟨3⟩ (.ofText ['1'] false) t
    obtain ⟨hactive, name, inside, x, hname, -, hpath, hdepth⟩ := herror _ hres
    cases hname
    have htwo' : 2 = 0 + (inside.unanswered.length + 1) := htwo.symm.trans hdepth
    obtain ⟨b, hb⟩ := List.length_eq_one_iff.1 (by omega : inside.unanswered.length = 1)
    rw [hb] at hpath
    exact ⟨t, hres, hactive, htwo, b, hpath⟩

end Peg
