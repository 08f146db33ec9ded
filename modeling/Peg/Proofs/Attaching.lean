-- Actions that are attached to names. A match goes through one more rule where it comes to such a
-- name, and it ends as it did before: at the same place, with the same answer or the same halt.
import Mathlib.Logic.Relation
import Peg.Parser
import Peg.Proofs.Growth

namespace Peg

open Text

variable {σ : Type}

/-! ## Matches that end alike -/

/-- Two matches have the same answer or the same halt, at the same place and with the same active
name, or neither of them ends. -/
inductive Alike :
    EStateM.Result Halt MatchState Bool → EStateM.Result Halt MatchState Bool → Prop where
  | answered {matched : Bool} {t t' : MatchState} :
    t'.cursor = t.cursor → t'.active = t.active → Alike (.ok matched t) (.ok matched t')
  | halted {halt : Halt} {t t' : MatchState} :
    t'.cursor = t.cursor → t'.active = t.active → Alike (.error halt t) (.error halt t')
  | endless {t t' : MatchState} : Alike (.error .outOfFuel t) (.error .outOfFuel t')

namespace Alike

variable {result result' result'' : EStateM.Result Halt MatchState Bool}

theorem refl (result : EStateM.Result Halt MatchState Bool) : Alike result result := by
  cases result with
  | ok matched t => exact .answered rfl rfl
  | error halt t => exact .halted rfl rfl

theorem trans (h : Alike result result') (h' : Alike result' result'') : Alike result result'' := by
  cases h with
  | answered hcursor hactive =>
    cases h' with
    | answered hcursor' hactive' =>
      exact .answered (hcursor'.trans hcursor) (hactive'.trans hactive)
  | halted hcursor hactive =>
    cases h' with
    | halted hcursor' hactive' => exact .halted (hcursor'.trans hcursor) (hactive'.trans hactive)
    | endless => exact .endless
  | endless =>
    cases h' with
    | halted _ _ | endless => exact .endless

theorem error_eq {halt : Halt} {t : MatchState} (h : Alike result (.error halt t)) :
    ∃ t', result = .error halt t' := by
  cases h with
  | halted _ _ | endless => exact ⟨_, rfl⟩

end Alike

/-- Courses with one ending, from one state, make matches that end alike. -/
theorem Ends.alike {g h : Arena σ} {s : MatchState} {c c' : Course} {e : Ending}
    {result result' : EStateM.Result Halt MatchState Bool} (hg : Ends g s c e result)
    (hh : Ends h s c' e result') : Alike result result' := by
  have hsame : ∀ {t t'}, Reaches g s c e.rest t → Reaches h s c' e.rest t' →
      t'.cursor = t.cursor ∧ t'.active = t.active := fun hreach hreach' =>
    ⟨Cursor.ext_rest (hreach'.input.trans hreach.input.symm)
      (hreach'.rest.trans hreach.rest.symm), hreach'.active.trans hreach.active.symm⟩
  cases he : e.answer with
  | ok matched =>
    obtain ⟨t, rfl, hreach⟩ := hg.answered he
    obtain ⟨t', rfl, hreach'⟩ := hh.answered he
    obtain ⟨hcursor, hactive⟩ := hsame hreach hreach'
    exact .answered hcursor hactive
  | error stop =>
    obtain ⟨t, rfl, hreach⟩ := hg.halted he
    obtain ⟨t', rfl, hreach'⟩ := hh.halted he
    obtain ⟨hcursor, hactive⟩ := hsame hreach hreach'
    exact .halted hcursor hactive

/-! ## Attaching -/

/-- `h` is what attaching an action to a name of `g` makes of it. -/
inductive Arena.Attaches (g : Arena σ) : Arena σ → Prop where
  | attach {name : String} {run : Action σ} {id : RuleId} {h : Arena σ} :
    (Build.attach name run).run.run g = (.ok id, h) → g.Attaches h

/-- The name stands for the rule `b` in `g`. In `h` there is one more rule, an action around `b`,
and the name stands for it. -/
structure Arena.Wraps (g h : Arena σ) (name : String) (b around : RuleId) : Prop where
  rule : ∀ {id r}, g.rule? id = some r → h.rule? id = some r
  action : ∃ run, h.rule? around = some (.action b run)
  named : g.named? name = some b
  wrapped : h.named? name = some around
  others : ∀ {n}, n ≠ name → h.named? n = g.named? n
  whitespace : h.whitespace = g.whitespace

theorem Arena.Attaches.wraps {g h : Arena σ} (hgh : g.Attaches h) :
    ∃ name b around, g.Wraps h name b around := by
  obtain @⟨name, run, id, h, hattach⟩ := hgh
  rw [Build.run_attach] at hattach
  cases hname : g.named? name with
  | none =>
    rw [hname] at hattach
    cases hattach
  | some b =>
    rw [hname] at hattach
    cases hattach
    refine ⟨name, b, ⟨g.size⟩, ?_⟩
    exact {
      rule := (Arena.Extends.push g (.action b run)).rule
      action := ⟨run, (rule?_push g (.action b run) ⟨g.size⟩).trans (if_pos rfl)⟩
      named := hname
      wrapped := (Arena.named?_register _ _ _ _).trans (if_pos rfl)
      others := fun hne => (Arena.named?_register _ _ _ _).trans (if_neg hne)
      whitespace := rfl }

/-! ## Plans with one more rule -/

/-- What is done to match a rule under a name. -/
def Plan.under (name : String) (x : List Char) (b : RuleId) : Plan :=
  attempt ⟨b, some name, x⟩ fun matched y => finish (.back x matched y)

/-- The plans are the same, or where the first one tries `b` under a name, the second one tries
`around`. -/
def Plan.Wrapped (b around : RuleId) (p p' : Plan) : Prop :=
  p' = p ∨ ∃ name x, p = .under name x b ∧ p' = .under name x around

section

variable {g h : Arena σ} {a : Attempt} {b around : RuleId} {p p' : Plan} {c : Course} {e : Ending}
  {name : String} {x : List Char} {r : Rule σ}

theorem Plan.Wrapped.refl (p : Plan) : p.Wrapped b around p := .inl rfl

/-- The plan of a rule that was there before differs for a reference to the name only. -/
theorem Arena.Wraps.plan (hgh : g.Wraps h name b around) (hr : g.rule? a.rule = some r) :
    (g.plan a).Wrapped b around (h.plan a) := by
  rw [plan_of_rule hr, plan_of_rule (hgh.rule hr)]
  by_cases hname : r = .reference name ∧ a.active ≠ some name
  · obtain ⟨rfl, hactive⟩ := hname
    refine .inr ⟨name, a.rest, ?_, ?_⟩
    · rw [Plan.ofRule, if_neg hactive, hgh.named]
      rfl
    · rw [Plan.ofRule, if_neg hactive, hgh.wrapped]
      rfl
  · refine .inl (ofRule_congr a.rest hgh.whitespace ?_)
    rintro other rfl
    by_cases hother : other = name
    · subst hother
      exact .inl (not_not.1 fun hactive => hname ⟨rfl, hactive⟩)
    · exact .inr (hgh.others hother)

theorem Arena.Wraps.plan_around (hgh : g.Wraps h name b around) (other : String)
    (x : List Char) : h.plan ⟨around, some other, x⟩ = .under other x b := by
  obtain ⟨run, hr⟩ := hgh.action
  rw [plan_of_rule hr]
  rfl

/-- A second rule around the first changes nothing about how it ends. -/
theorem Runs.under_follow (h : Runs g (.under name x b) c e) :
    (e.follow fun matched y => .finish (.back x matched y)) = .finish e := by
  obtain ⟨inside, ⟨answer, y⟩, later, -, -, hlater⟩ := h.attempt_inv
  cases answer with
  | ok matched =>
    obtain ⟨-, rfl⟩ := hlater.finish_inv
    cases matched <;> rfl
  | error stop =>
    obtain ⟨-, rfl⟩ := hlater.finish_inv
    rfl

/-! ## Courses with one more rule -/

/-- Whatever is done without the action is done with it, to the same ending. -/
theorem Runs.wrapped (hgh : g.Wraps h name b around) (hrun : Runs g p c e) (he : e.FindsRules)
    (hp : p.Wrapped b around p') : ∃ c', Runs h p' c' e := by
  induction hrun generalizing p' with
  | finish e =>
    obtain rfl | ⟨other, x, hp, -⟩ := hp
    · exact ⟨_, .finish e⟩
    · cases hp
  | @attempt a next inside later e e' h₁ h₂ ih₁ ih₂ =>
    have he₁ : e.FindsRules := by
      intro hstop
      obtain ⟨-, rfl⟩ := h₂.stopped_inv hstop
      exact he hstop
    obtain ⟨r, hr⟩ := h₁.rule_of_findsRules he₁
    obtain ⟨inside', h₁'⟩ := ih₁ he₁ (hgh.plan hr)
    obtain ⟨later', h₂'⟩ := ih₂ he (.refl _)
    have hsame := Runs.attempt h₁' h₂'
    obtain rfl | ⟨other, x, hp, rfl⟩ := hp
    · exact ⟨_, hsame⟩
    · rw [hp] at hsame
      have haround : Runs h (h.plan ⟨around, some other, x⟩) (.made a inside' e later') e' := by
        rw [hgh.plan_around]
        exact hsame
      refine ⟨.made _ _ _ .none, .attempt haround ?_⟩
      rw [hsame.under_follow]
      exact .finish e'

/-- Whatever is done with the action is done without it, to the same ending or until a rule is
missing. -/
theorem Runs.unwrapped (hgh : g.Wraps h name b around) (hrun : Runs h p' c e)
    (hp : p.Wrapped b around p') : ∃ c' e', Runs g p c' e' ∧ (e'.FindsRules → e' = e) := by
  induction hrun generalizing p with
  | finish e =>
    obtain rfl | ⟨other, x, -, hp'⟩ := hp
    · exact ⟨_, _, .finish e, fun _ => rfl⟩
    · cases hp'
  | @attempt a next inside later e e' h₁ h₂ ih₁ ih₂ =>
    obtain rfl | ⟨other, x, rfl, hp'⟩ := hp
    · -- with the same plan, the attempt comes to the same ending, or there is no rule for it
      have hinside : ∃ c₁ e₁, Runs g (g.plan a) c₁ e₁ ∧ (e₁.FindsRules → e₁ = e) := by
        cases hr : g.rule? a.rule with
        | some r => exact ih₁ (hgh.plan hr)
        | none =>
          rw [plan_of_missing hr]
          exact ⟨_, _, .finish _, fun hfinds => absurd rfl hfinds⟩
      obtain ⟨c₁, e₁, hrun₁, he₁⟩ := hinside
      by_cases hfinds : e₁.FindsRules
      · obtain rfl := he₁ hfinds
        obtain ⟨c₂, e₂, hrun₂, he₂⟩ := ih₂ (.refl _)
        exact ⟨_, e₂, .attempt hrun₁ hrun₂, he₂⟩
      · have hstop : e₁.answer = .error .noSuchRule := not_not.1 hfinds
        refine ⟨.made _ _ _ .none, e₁, .attempt hrun₁ ?_, fun h => absurd h hfinds⟩
        rw [Ending.follow_error hstop]
        exact .finish e₁
    · cases hp'
      rw [hgh.plan_around] at h₁ ih₁
      rw [h₁.under_follow] at h₂
      obtain ⟨-, rfl⟩ := h₂.finish_inv
      exact ih₁ (.refl _)

end

/-! ## Matches -/

section

variable {g h : Arena σ} {id : RuleId} {s : MatchState}

theorem plan_findsRules {a : Attempt} (hg : g.Closed) (ha : a.rule.index < g.size) :
    (g.plan a).Obeys (·.rule.index < g.size) Ending.FindsRules := by
  obtain ⟨r, hr⟩ := Option.isSome_iff_exists.1 (rule?_isSome.2 ha)
  refine (plan_obeys hr).mono (fun b => hg.inner hr) ?_
  rintro e ⟨-, he⟩ hstop
  obtain ⟨-, hat⟩ := he _ hstop
  cases hat

/-- An arena that keeps to itself has all the rules that a match of one of them looks up. -/
theorem eval_ne_noSuchRule (hg : g.Closed) (hid : id.index < g.size) (s t : MatchState) :
    Match.eval g id s ≠ .error (.fault .noSuchRule) t := by
  intro hres
  obtain ⟨inside, stop, hhalt, hrun, -⟩ := eval_error hres (by simp)
  cases stop <;> cases hhalt
  exact hrun.fits_of_all (fun _ => plan_findsRules hg) (plan_findsRules hg hid) rfl

/-- A match that finds its rules comes to an ending that is not for want of one. -/
theorem Runs.findsRules {inside : Course} {e : Ending}
    (hrun : Runs g (g.plan (s.attempt id)) inside e)
    (hfound : ∀ t, Match.eval g id s ≠ .error (.fault .noSuchRule) t) : e.FindsRules := by
  intro he
  obtain ⟨t, hres, -⟩ := hrun.eval_ends.halted he
  exact hfound t hres

theorem exists_rule_of_found (hfound : ∀ t, Match.eval g id s ≠ .error (.fault .noSuchRule) t) :
    ∃ r, g.rule? (s.attempt id).rule = some r := by
  cases hr : g.rule? (s.attempt id).rule with
  | some r => exact ⟨r, rfl⟩
  | none =>
    have hstop : Runs g (g.plan (s.attempt id)) .none (.stopped .noSuchRule s.cursor.rest) := by
      rw [plan_of_missing hr]
      exact .finish _
    exact absurd rfl (hstop.findsRules hfound)

/-- One more action changes nothing about how a match ends that finds its rules. -/
theorem Arena.Attaches.alike (hgh : g.Attaches h)
    (hfound : ∀ t, Match.eval g id s ≠ .error (.fault .noSuchRule) t) :
    Alike (Match.eval g id s) (Match.eval h id s) := by
  obtain ⟨name, b, around, hgh⟩ := hgh.wraps
  obtain ⟨r, hr⟩ := exists_rule_of_found hfound
  have hplan := hgh.plan hr
  obtain ⟨t, hg⟩ | ⟨inside, e, hrun, hends⟩ := eval_sound g id s
  · obtain ⟨t', hh⟩ | ⟨inside', e', hrun', -⟩ := eval_sound h id s
    · rw [hg, hh]
      exact .endless
    · -- if the match with the action came to an ending, so would the one without it
      obtain ⟨inside, e, hrun, -⟩ := hrun'.unwrapped hgh hplan
      exact absurd ⟨t, hg⟩ hrun.eval_ends.not_exhausted
  · obtain ⟨inside', hrun'⟩ := hrun.wrapped hgh (hrun.findsRules hfound) hplan
    exact hends.alike hrun'.eval_ends

/-- The answer of a parse goes by how its match ends, and by nothing else. -/
theorem Alike.result_parseFrom {p p' : Parser σ} {input : List Char} {output : σ}
    (halike : Alike (Match.eval p.arena id (.ofText input p.debug))
      (Match.eval p'.arena id (.ofText input p'.debug))) :
    (p'.parseFrom id input output).result = (p.parseFrom id input output).result := by
  unfold Parser.parseFrom
  revert halike
  generalize Match.eval p.arena id (.ofText input p.debug) = result
  generalize Match.eval p'.arena id (.ofText input p'.debug) = result'
  intro halike
  cases halike with
  | @answered matched _ _ _ _ => cases matched <;> rfl
  | halted _ _ | endless => rfl

end

/-- However many actions are attached, one after another, matches end as they did before: with the
same answer, error or fault, at the same place and with the same active name, and they go on for
ever where they did. The answers of parses stay as they are. The rules that are looked up must be
rules of the arena, so that an action does not take the place of one that is missing. -/
theorem attached_actions_change_no_match {g h : Arena σ}
    (hgh : Relation.ReflTransGen Arena.Attaches g h) (id : RuleId) (s : MatchState)
    (hfound : (g.Closed ∧ id.index < g.size) ∨
      ∀ t, Match.eval g id s ≠ .error (.fault .noSuchRule) t) :
    Alike (Match.eval g id s) (Match.eval h id s) ∧
      ∀ (p : Parser σ) (input : List Char) (output : σ),
        p.arena = g → s = .ofText input p.debug →
          (({ p with arena := h } : Parser σ).parseFrom id input output).result =
            (p.parseFrom id input output).result := by
  have hne : ∀ t, Match.eval g id s ≠ .error (.fault .noSuchRule) t := by
    rcases hfound with ⟨hg, hid⟩ | hne
    · exact eval_ne_noSuchRule hg hid s
    · exact hne
  have halike : Alike (Match.eval g id s) (Match.eval h id s) := by
    induction hgh with
    | refl => exact .refl _
    | @tail h k _ hhk ih =>
      refine ih.trans (hhk.alike fun t ht => ?_)
      rw [ht] at ih
      obtain ⟨t', ht'⟩ := ih.error_eq
      exact hne t' ht'
  refine ⟨halike, ?_⟩
  rintro p input output rfl rfl
  exact halike.result_parseFrom

/-- Any number of digits, by the name of one. The name stands for the last of the actions, which are
around the rules `around`. -/
def digitsByName (around : List Nat) : Arena Unit where
  rules := ⟨[.range '0' '9', .reference "digit", .zeroOrMore ⟨1⟩] ++
    around.map fun k => .action ⟨k⟩ fun output _ => output⟩
  names := (around.mapIdx fun k _ => ("digit", ⟨3 + k⟩)).reverse ++ [("digit", ⟨0⟩)]
  whitespace := ⟨0⟩
  warnings := []

theorem two_actions_for_a_digit_read_no_more :
    ∃ h t t', Relation.ReflTransGen Arena.Attaches (digitsByName []) h ∧
      Match.eval (digitsByName []) ⟨2⟩ (.ofText ['4', '7'] false) = .ok true t ∧
      Match.eval h ⟨2⟩ (.ofText ['4', '7'] false) = .ok true t' ∧ t'.cursor = t.cursor ∧
      t.captures.length = 0 ∧ t'.captures.length = 4 := by
  have attaches : ∀ {g h : Arena Unit} {id : RuleId},
      (Build.attach "digit" fun output _ => output).run.run g = (.ok id, h) → g.Attaches h :=
    .attach
  have hfirst : (digitsByName []).Attaches (digitsByName [0]) := attaches rfl
  have hsecond : (digitsByName [0]).Attaches (digitsByName [0, 3]) := attaches rfl
  have hgh := (Relation.ReflTransGen.single hfirst).tail hsecond
  have h : (match Match.eval (digitsByName []) ⟨2⟩ (.ofText ['4', '7'] false),
        Match.eval (digitsByName [0, 3]) ⟨2⟩ (.ofText ['4', '7'] false) with
      | .ok true t, .ok true t' => t.captures.length == 0 && t'.captures.length == 4
      | _, _ => false) = true := by decide +kernel
  split at h
  · next t t' hres hres' =>
    obtain ⟨halike, -⟩ := attached_actions_change_no_match hgh ⟨2⟩ (.ofText ['4', '7'] false)
      (.inr fun u hu => by rw [hres] at hu; cases hu)
    rw [hres, hres'] at halike
    cases halike with
    | answered hcursor _ =>
      obtain ⟨hnone, hfour⟩ := Bool.and_eq_true_iff.1 h
      exact ⟨_, t, t', hgh, hres, hres', hcursor, eq_of_beq hnone, eq_of_beq hfour⟩
  · cases h

end Peg
