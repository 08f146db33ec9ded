-- Rules and names that are added. Names are looked up only when a match comes to them, yet what
-- was built before keeps its meaning: a match that ended ends in the same state.
import Peg.Ebnf.Install
import Peg.Proofs.References

namespace Peg

open Text

variable {σ : Type}

/-! ## Adding -/

theorem Ebnf.Expr.keeping_build (spacing : Spacing) (e : Expr) :
    (e.build spacing : Build σ RuleId).Keeping := by
  induction e with
  | identifier name => exact Build.keeping_push _
  | terminal text => exact Build.keeping_push _
  | range lo hi => exact Build.keeping_push _
  | optional e ih => exact ih.bind fun _ => Build.keeping_push _
  | repetition e ih => exact ih.bind fun _ => Build.keeping_push _
  | group e ih => exact ih
  | exception base except ihBase ihExcept =>
    exact ihExcept.bind fun _ => (Build.keeping_push _).bind fun _ =>
      ihBase.bind fun _ => Build.keeping_push _
  | alternation first second ih₁ ih₂ =>
    exact ih₁.bind fun _ => ih₂.bind fun _ => Build.keeping_push _
  | concatenation first second ih₁ ih₂ =>
    exact ih₁.bind fun _ => ih₂.bind fun _ => Build.keeping_push _

/-- One call that adds to `k` and leaves alone what is in `g`: rules are built, of any operands, or
a name that stands for nothing in `g` is given to a rule. -/
inductive Arena.Enlarges (g : Arena σ) : Arena σ → Arena σ → Prop where
  | call {k l : Arena σ} {x : Build σ RuleId} : l.Call x → g.Enlarges k (x.run k).2
  | sequenceOf {k : Arena σ} (ids : List RuleId) : g.Enlarges k ((Build.sequenceOf ids).run.run k).2
  | spacedOf {k : Arena σ} (ids : List RuleId) : g.Enlarges k ((Build.spacedOf ids).run.run k).2
  | choiceOf {k : Arena σ} (ids : List RuleId) : g.Enlarges k ((Build.choiceOf ids).run.run k).2
  | expression {k : Arena σ} (spacing : Ebnf.Spacing) (e : Ebnf.Expr) :
    g.Enlarges k ((e.build spacing).run k).2
  | register {k : Arena σ} (name : String) (id : RuleId) :
    g.named? name = none → g.Enlarges k ((Build.register name id).run k).2

section

variable {g h k : Arena σ}

theorem Arena.Enlarges.within (hkh : g.Enlarges k h) (hgk : g.Within k) : g.Within h := by
  cases hkh with
  | call hx => exact hgk.trans (hx.keeping k)
  | sequenceOf ids | spacedOf ids | choiceOf ids =>
    exact hgk.trans (Build.keeping_chainAll _ ids k)
  | expression spacing e => exact hgk.trans (e.keeping_build spacing k)
  | register name id hname => exact hgk.register hname id

theorem within_of_enlarges (hgh : Relation.ReflTransGen g.Enlarges g h) : g.Within h := by
  induction hgh with
  | refl => exact .refl g
  | tail _ hkh ih => exact hkh.within ih

end

/-! ## Courses in a larger arena -/

/-- The ending is for want of nothing that `h` has. -/
def Ending.StaysIn (h : Arena σ) (e : Ending) : Prop :=
  e.FindsRules ∧ ∀ name, e.answer = .error (.unknownRule name) → h.named? name = none

section

variable {g h : Arena σ} {p : Plan} {a : Attempt} {c inside : Course} {e : Ending}

theorem Ending.staysIn_of_ok {matched : Bool} (he : e.answer = .ok matched) : e.StaysIn h := by
  constructor
  · intro hstop
    rw [he] at hstop
    cases hstop
  · intro name hstop
    rw [he] at hstop
    cases hstop

theorem Ending.staysIn_of_unknown {name : String} {y : List Char} (hname : h.named? name = none) :
    (Ending.stopped (.unknownRule name) y).StaysIn h := by
  constructor
  · intro hstop
    cases hstop
  · intro other hstop
    cases hstop
    exact hname

/-- A rule that ends for want of nothing has the same plan in a larger arena. -/
theorem Arena.Within.plan_eq (hgh : g.Within h) (hrun : Runs g (g.plan a) inside e)
    (he : e.StaysIn h) : h.plan a = g.plan a ∧ h.rule? a.rule = g.rule? a.rule := by
  obtain ⟨r, hr⟩ := hrun.rule_of_findsRules he.1
  refine ⟨?_, (hgh.rule hr).trans hr.symm⟩
  rw [plan_of_rule hr] at hrun
  rw [plan_of_rule hr, plan_of_rule (hgh.rule hr)]
  apply ofRule_congr a.rest hgh.whitespace
  rintro name rfl
  by_cases hactive : a.active = some name
  · exact .inl hactive
  · right
    cases hname : g.named? name with
    | some b => exact hgh.named hname
    | none =>
      -- the error is for this name, so it still stands for nothing
      rw [Plan.ofRule, if_neg hactive, hname] at hrun
      obtain ⟨-, rfl⟩ := hrun.finish_inv
      exact he.2 name rfl

/-- Nothing changes about a course that ends for want of nothing, and all its attempts are at rules
that were there before. -/
theorem Runs.within (hgh : g.Within h) (hrun : Runs g p c e) (he : e.StaysIn h) :
    Runs h p c e ∧ ∀ b ∈ c.attempts, h.rule? b.rule = g.rule? b.rule := by
  induction hrun with
  | finish e => exact ⟨.finish e, by simp [Course.attempts]⟩
  | @attempt a next inside later e e' h₁ h₂ ih₁ ih₂ =>
    have he₁ : e.StaysIn h := by
      cases hans : e.answer with
      | ok matched => exact Ending.staysIn_of_ok hans
      | error stop =>
        obtain ⟨-, rfl⟩ := h₂.stopped_inv hans
        exact he
    obtain ⟨hplan, hrule⟩ := hgh.plan_eq h₁ he₁
    obtain ⟨hrun₁, hrules₁⟩ := ih₁ he₁
    obtain ⟨hrun₂, hrules₂⟩ := ih₂ he
    refine ⟨.attempt (hplan ▸ hrun₁) hrun₂, ?_⟩
    intro b hb
    rcases Course.mem_attempts.1 hb with rfl | hb | hb
    · exact hrule
    · exact hrules₁ b hb
    · exact hrules₂ b hb

end

/-! ## What is read off a course -/

section

variable {g h : Arena σ} {s t t' : MatchState} {c : Course} {e : Ending} {y : List Char}

/-- What is read off the attempts of a course goes by their rules only. -/
theorem Course.readings_congr (hrules : ∀ b ∈ c.attempts, h.rule? b.rule = g.rule? b.rule)
    (input : List Char) (depth : Nat) :
    c.captures h input = c.captures g input ∧ c.log h depth = c.log g depth ∧
      c.unclosed h = c.unclosed g := by
  induction c generalizing depth with
  | none => exact ⟨rfl, rfl, rfl⟩
  | made a inside e later ih₁ ih₂ =>
    simp only [Course.attempts, List.cons_append, List.forall_mem_cons, List.forall_mem_append]
      at hrules
    obtain ⟨hrule, hrules₁, hrules₂⟩ := hrules
    obtain ⟨hcaptures₁, hlog₁, hunclosed₁⟩ := ih₁ hrules₁ (depth + 1)
    obtain ⟨hcaptures₂, hlog₂, hunclosed₂⟩ := ih₂ hrules₂ depth
    simp only [Course.captures, Course.log, Course.unclosed, Arena.recorded, Arena.reports, hrule,
      hcaptures₁, hlog₁, hunclosed₁, hcaptures₂, hlog₂, hunclosed₂, and_self]

/-- A course with the same rules leads to the same state. -/
theorem Reaches.eq (hg : Reaches g s c y t) (hh : Reaches h s c y t')
    (hrules : ∀ b ∈ c.attempts, h.rule? b.rule = g.rule? b.rule) : t' = t := by
  obtain ⟨hcaptures, hlog, hunclosed⟩ := Course.readings_congr hrules s.cursor.input s.depth
  have hcursor : t'.cursor = t.cursor :=
    Cursor.ext_rest (hh.input.trans hg.input.symm) (hh.rest.trans hg.rest.symm)
  have hrecorded : t'.captures = t.captures := by rw [hh.captures, hg.captures, hcaptures]
  have hdepth : t'.depth = t.depth := by rw [hh.depth, hg.depth, hunclosed]
  have hlogged : t'.log = t.log := by rw [hh.log, hg.log, hlog]
  have hactive := hh.active.trans hg.active.symm
  have htrace := hh.trace.trans hg.trace.symm
  cases t
  cases t'
  simp_all [MatchState.captures]

/-- A match that comes to an ending for want of nothing is the same match in a larger arena. -/
theorem Runs.eval_eq {id : RuleId} {inside : Course} (hgh : g.Within h)
    (hrun : Runs g (g.plan (s.attempt id)) inside e) (he : e.StaysIn h) :
    Match.eval h id s = Match.eval g id s := by
  obtain ⟨halone, hrules⟩ := hrun.alone.within hgh he
  obtain ⟨inside', e', later, heq, hrun', -⟩ := halone.attempt_inv
  cases heq
  cases hans : e.answer with
  | ok matched =>
    obtain ⟨t, hg, hreach⟩ := hrun.eval_ends.answered hans
    obtain ⟨t', hh, hreach'⟩ := hrun'.eval_ends.answered hans
    rw [hg, hh, hreach.eq hreach' hrules]
  | error stop =>
    obtain ⟨t, hg, hreach⟩ := hrun.eval_ends.halted hans
    obtain ⟨t', hh, hreach'⟩ := hrun'.eval_ends.halted hans
    rw [hg, hh, hreach.eq hreach' hrules]

end

/-- However much is added to an arena, as long as its names stay with their rules: a match that had
an answer has the same one, and ends in the same state, and so does a match that came to an unknown
name, unless the name has become known. -/
theorem adding_changes_no_match {g h : Arena σ} (hgh : Relation.ReflTransGen g.Enlarges g h)
    (id : RuleId) (s : MatchState) :
    (∀ matched t, Match.eval g id s = .ok matched t → Match.eval h id s = .ok matched t) ∧
      ∀ name t, Match.eval g id s = .error (.error (.unknownRule name)) t →
        h.named? name = none → Match.eval h id s = .error (.error (.unknownRule name)) t := by
  have hwithin := within_of_enlarges hgh
  constructor
  · intro matched t hres
    obtain ⟨inside, hrun, -⟩ := eval_ok hres
    rw [hrun.eval_eq hwithin (Ending.staysIn_of_ok rfl), hres]
  · intro name t hres hname
    obtain ⟨name', inside, hname', hrun, -⟩ := eval_unknownRule hres
    cases hname'
    rw [hrun.eval_eq hwithin (Ending.staysIn_of_unknown hname), hres]

/-- A digit, or else what two names stand for, of which there is none. -/
def digitOrLost : Arena Unit where
  rules := #[.range '0' '9', .reference "first", .choice ⟨0⟩ ⟨1⟩, .reference "second",
    .choice ⟨0⟩ ⟨3⟩]
  names := []
  whitespace := ⟨0⟩
  warnings := []

/-- The first name is given to an expression. What came to a digit still does, and what came to the
second name still does. -/
theorem a_name_is_given_later :
    ∃ h t u, Relation.ReflTransGen digitOrLost.Enlarges digitOrLost h ∧
      (h.named? "first").isSome ∧
      Match.eval digitOrLost ⟨2⟩ (.ofText ['7'] false) = .ok true t ∧
      Match.eval h ⟨2⟩ (.ofText ['7'] false) = .ok true t ∧
      Match.eval digitOrLost ⟨4⟩ (.ofText ['x'] false) =
        .error (.error (.unknownRule "second")) u ∧
      Match.eval h ⟨4⟩ (.ofText ['x'] false) = .error (.error (.unknownRule "second")) u := by
  have hbuild := Relation.ReflTransGen.single
    (Arena.Enlarges.expression (g := digitOrLost) (k := digitOrLost) .adjacent
      (.repetition (.terminal "x")))
  have hgh := hbuild.tail (.register "first" ⟨6⟩ rfl)
  obtain ⟨hok, -⟩ := adding_changes_no_match hgh ⟨2⟩ (.ofText ['7'] false)
  obtain ⟨-, herror⟩ := adding_changes_no_match hgh ⟨4⟩ (.ofText ['x'] false)
  obtain ⟨t, ht⟩ : ∃ t, Match.eval digitOrLost ⟨2⟩ (.ofText ['7'] false) = .ok true t := ⟨_, rfl⟩
  obtain ⟨u, hu⟩ : ∃ u, Match.eval digitOrLost ⟨4⟩ (.ofText ['x'] false) =
    .error (.error (.unknownRule "second")) u := ⟨_, rfl⟩
  exact ⟨_, t, u, hgh, rfl, ht, hok _ _ ht, hu, herror _ _ hu rfl⟩

end Peg
