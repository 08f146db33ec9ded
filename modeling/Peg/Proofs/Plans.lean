-- What the plan of a rule can come to. Whatever is proved of every run goes by these laws: what
-- may be attempted inside of a rule, and how the rule may end.
import Mathlib.Data.List.Basic
import Peg.Proofs.Course

namespace Peg

open Text

variable {σ : Type}

/-! ## Bounds on a plan -/

/-- Every attempt that the plan can come to is `allowed`, and every ending `fits`, as long as no
attempt goes back behind where it was made. -/
def Plan.Obeys (allowed : Attempt → Prop) (fits : Ending → Prop) : Plan → Prop
  | .finish e => fits e
  | .attempt a next =>
    allowed a ∧ ∀ matched rest, rest <:+ a.rest → (next matched rest).Obeys allowed fits

/-- The attempts that may be made inside of an attempt at a rule. -/
inductive Inner (g : Arena σ) (active : Option String) (x : List Char) :
    Rule σ → Attempt → Prop where
  | child {r : Rule σ} {b : RuleId} {y : List Char} :
    b ∈ r.children → y <:+ x → Inner g active x r ⟨b, active, y⟩
  | space {a b : RuleId} {y : List Char} :
    y <:+ x → Inner g active x (.spaced a b) ⟨g.whitespace, active, y⟩
  | name {name : String} {b : RuleId} :
    active ≠ some name → g.named? name = some b →
      Inner g active x (.reference name) ⟨b, some name, x⟩

/-- The stops that a rule makes itself, not by an attempt inside of it. -/
inductive StopsAt (g : Arena σ) (x : List Char) : Rule σ → Stop → Prop where
  | unknownRule {name : String} :
    g.named? name = none → StopsAt g x (.reference name) (.unknownRule name)
  | insideCharacter {source : String} {s : Regex.Finder} {count : Nat} :
    s.findEnd? x = some count → after? count x = none →
      StopsAt g x (.pattern source (some s)) (.insideCharacter count)

/-- The endings that a rule gives itself. -/
def MayEnd (g : Arena σ) (x : List Char) (r : Rule σ) (e : Ending) : Prop :=
  e.rest <:+ x ∧ ∀ stop, e.answer = .error stop → e.rest = x ∧ StopsAt g x r stop

theorem mayEnd_ok {g : Arena σ} {x y : List Char} {r : Rule σ} {matched : Bool} (h : y <:+ x) :
    MayEnd g x r ⟨.ok matched, y⟩ := by
  refine ⟨h, ?_⟩
  intro stop hstop
  cases hstop

theorem mayEnd_back {g : Arena σ} {x y : List Char} {r : Rule σ} {matched : Bool} (h : y <:+ x) :
    MayEnd g x r (.back x matched y) := by
  apply mayEnd_ok
  split
  · exact h
  · exact List.suffix_rfl

/-- A rule that stops by itself stays where it is tried. -/
theorem mayEnd_stopped {g : Arena σ} {x : List Char} {r : Rule σ} {stop : Stop}
    (h : StopsAt g x r stop) : MayEnd g x r (.stopped stop x) := by
  refine ⟨List.suffix_rfl, ?_⟩
  intro stop' hstop
  cases hstop
  exact ⟨rfl, h⟩

theorem suffix_of_after? {n : Nat} {x y : List Char} (h : after? n x = some y) : y <:+ x := by
  obtain ⟨u, hu, _⟩ := exists_append_of_after? h
  exact ⟨u, hu.symm⟩

/-- A repetition stays within the bounds of its attempts and of what is done behind them. -/
theorem repeating_obeys {allowed : Attempt → Prop} {fits : Ending → Prop} {active : Option String}
    {x : List Char} {b : RuleId} {done : Nat → List Char → Plan}
    (hallowed : ∀ y, y <:+ x → allowed ⟨b, active, y⟩)
    (hdone : ∀ count y, y <:+ x → (done count y).Obeys allowed fits)
    {y : List Char} (hy : y <:+ x) (count : Nat) :
    (Plan.repeating ⟨b, active, y⟩ done count).Obeys allowed fits := by
  rw [Plan.repeating]
  refine ⟨hallowed y hy, ?_⟩
  intro matched z hz
  have hzx : z <:+ x := hz.trans hy
  cases matched with
  | false => exact hdone count y hy
  | true =>
    simp only [if_true]
    split
    · next hlt => exact repeating_obeys hallowed hdone hzx (count + 1)
    · exact hdone (count + 1) z hzx
termination_by y.length

section

variable {g : Arena σ} {active : Option String} {x y : List Char} {r : Rule σ} {b : RuleId}
  {next : Bool → List Char → Plan}

/-- An attempt at an operand stays within the bounds if what is done behind it does. -/
theorem operand_obeys (hb : b ∈ r.children) (hy : y <:+ x)
    (hnext : ∀ matched z, z <:+ x → (next matched z).Obeys (Inner g active x r) (MayEnd g x r)) :
    (Plan.attempt ⟨b, active, y⟩ next).Obeys (Inner g active x r) (MayEnd g x r) := by
  refine ⟨.child hb hy, ?_⟩
  intro matched z hz
  exact hnext matched z (hz.trans hy)

/-- The answer of an operand may be the last one. -/
theorem last_obeys (hb : b ∈ r.children) (hy : y <:+ x) :
    (Plan.attempt ⟨b, active, y⟩ fun matched z => .finish ⟨.ok matched, z⟩).Obeys
      (Inner g active x r) (MayEnd g x r) := by
  apply operand_obeys hb hy
  intro matched z hz
  exact mayEnd_ok hz

theorem back_obeys (hb : b ∈ r.children) :
    (Plan.attempt ⟨b, active, x⟩ fun matched y => .finish (.back x matched y)).Obeys
      (Inner g active x r) (MayEnd g x r) := by
  apply operand_obeys hb List.suffix_rfl
  intro matched y hy
  exact mayEnd_back hy

theorem literal_obeys (text : String) :
    (Plan.ofRule g active x (.literal text)).Obeys (Inner g active x (.literal text))
      (MayEnd g x (.literal text)) := by
  show MayEnd g x _ _
  split
  · next y hy => exact mayEnd_ok ⟨_, List.append_eq_of_isPrefixOf?_eq_some hy⟩
  · exact mayEnd_ok List.suffix_rfl

theorem range_obeys (lo hi : Char) :
    (Plan.ofRule g active x (.range lo hi)).Obeys (Inner g active x (.range lo hi))
      (MayEnd g x (.range lo hi)) := by
  show MayEnd g x _ _
  split
  · next c y =>
    split
    · exact mayEnd_ok (List.suffix_cons c y)
    · exact mayEnd_ok List.suffix_rfl
  · exact mayEnd_ok List.suffix_rfl

theorem pattern_obeys (source : String) (finder : Option Regex.Finder) :
    (Plan.ofRule g active x (.pattern source finder)).Obeys
      (Inner g active x (.pattern source finder)) (MayEnd g x (.pattern source finder)) := by
  show MayEnd g x _ _
  split
  · exact mayEnd_ok List.suffix_rfl
  · next count hcount =>
    split
    · next y hy => exact mayEnd_ok (suffix_of_after? hy)
    · next hnone =>
      cases finder with
      | none => cases hcount
      | some s => exact mayEnd_stopped (.insideCharacter hcount hnone)

theorem sequence_obeys (a b : RuleId) :
    (Plan.ofRule g active x (.sequence a b)).Obeys (Inner g active x (.sequence a b))
      (MayEnd g x (.sequence a b)) := by
  apply operand_obeys (by simp [Rule.children]) List.suffix_rfl
  intro matched y hy
  cases matched with
  | false => exact mayEnd_ok hy
  | true => exact last_obeys (by simp [Rule.children]) hy

theorem spaced_obeys (a b : RuleId) :
    (Plan.ofRule g active x (.spaced a b)).Obeys (Inner g active x (.spaced a b))
      (MayEnd g x (.spaced a b)) := by
  apply operand_obeys (by simp [Rule.children]) List.suffix_rfl
  intro matched y hy
  cases matched with
  | false => exact mayEnd_ok hy
  | true =>
    refine ⟨.space hy, ?_⟩
    intro matched z hz
    cases matched with
    | false => exact mayEnd_ok (hz.trans hy)
    | true => exact last_obeys (by simp [Rule.children]) (hz.trans hy)

theorem choice_obeys (a b : RuleId) :
    (Plan.ofRule g active x (.choice a b)).Obeys (Inner g active x (.choice a b))
      (MayEnd g x (.choice a b)) := by
  apply operand_obeys (by simp [Rule.children]) List.suffix_rfl
  intro matched y hy
  cases matched with
  | true => exact mayEnd_ok hy
  | false => exact back_obeys (by simp [Rule.children])

theorem optional_obeys (a : RuleId) :
    (Plan.ofRule g active x (.optional a)).Obeys (Inner g active x (.optional a))
      (MayEnd g x (.optional a)) := by
  apply operand_obeys (by simp [Rule.children]) List.suffix_rfl
  intro matched y hy
  apply mayEnd_ok
  split
  · exact hy
  · exact List.suffix_rfl

theorem reference_obeys (name : String) :
    (Plan.ofRule g active x (.reference name)).Obeys (Inner g active x (.reference name))
      (MayEnd g x (.reference name)) := by
  unfold Plan.ofRule
  dsimp only
  split
  · exact mayEnd_ok List.suffix_rfl
  · next hactive =>
    split
    · next hnone => exact mayEnd_stopped (.unknownRule hnone)
    · next b hb =>
      refine ⟨.name hactive hb, ?_⟩
      intro matched y hy
      exact mayEnd_back hy

end

/-- What the plan of a rule can come to, for every form of rule. -/
theorem ofRule_obeys (g : Arena σ) (active : Option String) (x : List Char) (r : Rule σ) :
    (Plan.ofRule g active x r).Obeys (Inner g active x r) (MayEnd g x r) := by
  cases r with
  | literal text => exact literal_obeys text
  | range lo hi => exact range_obeys lo hi
  | pattern source finder => exact pattern_obeys source finder
  | not a =>
    apply operand_obeys (by simp [Rule.children]) List.suffix_rfl
    intro matched y hy
    exact mayEnd_ok List.suffix_rfl
  | endOfInput a =>
    apply operand_obeys (by simp [Rule.children]) List.suffix_rfl
    intro matched y hy
    exact mayEnd_back hy
  | sequence a b => exact sequence_obeys a b
  | spaced a b => exact spaced_obeys a b
  | choice a b => exact choice_obeys a b
  | zeroOrMore a =>
    refine repeating_obeys (fun y => .child (by simp [Rule.children])) ?_ List.suffix_rfl 0
    intro count y hy
    exact mayEnd_ok hy
  | oneOrMore a =>
    refine repeating_obeys (fun y => .child (by simp [Rule.children])) ?_ List.suffix_rfl 0
    intro count y hy
    exact mayEnd_back hy
  | optional a => exact optional_obeys a
  | reference name => exact reference_obeys name
  | action a run => exact back_obeys (by simp [Rule.children])

/-- All that a plan takes from the arena is the white space, and the rule of the name that is looked
up. -/
theorem ofRule_congr {g h : Arena σ} {active : Option String} {r : Rule σ} (x : List Char)
    (hspace : h.whitespace = g.whitespace)
    (hname : ∀ name, r = .reference name → active = some name ∨ h.named? name = g.named? name) :
    Plan.ofRule h active x r = Plan.ofRule g active x r := by
  cases r with
  | reference name =>
    simp only [Plan.ofRule]
    rcases hname name rfl with hactive | hsame
    · rw [if_pos hactive, if_pos hactive]
    · rw [hsame]
  | spaced a b => simp only [Plan.ofRule, hspace]
  | _ => rfl

/-! ## Runs within the bounds -/

variable {g : Arena σ} {p : Plan} {a : Attempt} {r : Rule σ} {c : Course} {e : Ending}

theorem plan_of_rule (h : g.rule? a.rule = some r) : g.plan a = .ofRule g a.active a.rest r := by
  simp [Arena.plan, h]

theorem plan_of_missing (h : g.rule? a.rule = none) :
    g.plan a = .finish (.stopped .noSuchRule a.rest) := by
  simp [Arena.plan, h]

theorem plan_obeys (h : g.rule? a.rule = some r) :
    (g.plan a).Obeys (Inner g a.active a.rest r) (MayEnd g a.rest r) := by
  rw [plan_of_rule h]
  exact ofRule_obeys g a.active a.rest r

theorem Inner.rest_suffix {active : Option String} {x : List Char}
    (h : Inner g active x r a) : a.rest <:+ x := by
  cases h with
  | child _ hy => exact hy
  | space hy => exact hy
  | name _ _ => exact List.suffix_rfl

theorem Plan.Obeys.mono {allowed allowed' : Attempt → Prop} {fits fits' : Ending → Prop}
    (ha : ∀ a, allowed a → allowed' a) (hf : ∀ e, fits e → fits' e)
    (h : p.Obeys allowed fits) : p.Obeys allowed' fits' := by
  induction p with
  | finish e => exact hf e h
  | attempt a next ih =>
    exact ⟨ha a h.1, fun matched rest hr => ih matched rest (h.2 matched rest hr)⟩

/-- The plan of an attempt stays within the text that is left where it is made. -/
theorem plan_within (g : Arena σ) (a : Attempt) :
    (g.plan a).Obeys (·.rest <:+ a.rest) (·.rest <:+ a.rest) := by
  cases hr : g.rule? a.rule with
  | none =>
    rw [plan_of_missing hr]
    exact List.suffix_rfl
  | some r => exact (plan_obeys hr).mono (fun _ => Inner.rest_suffix) (fun _ h => h.1)

/-- Behind an attempt that has ended, a plan stays within its bounds. -/
theorem Plan.Obeys.follow {allowed : Attempt → Prop} {fits : Ending → Prop}
    {next : Bool → List Char → Plan} (h : (Plan.attempt a next).Obeys allowed fits)
    (hrest : e.rest <:+ a.rest) (hfits : fits e) : (e.follow next).Obeys allowed fits := by
  unfold Ending.follow
  split
  · exact h.2 _ _ hrest
  · exact hfits

theorem Runs.rest_suffix_of_within (h : Runs g p c e) {x : List Char}
    (hp : p.Obeys (·.rest <:+ x) (·.rest <:+ x)) : e.rest <:+ x := by
  induction h generalizing x with
  | finish e => exact hp
  | @attempt a next inside later e e' _ _ ih₁ ih₂ =>
    have he : e.rest <:+ a.rest := ih₁ (plan_within g a)
    exact ih₂ (hp.follow he (he.trans hp.1))

/-- An attempt never goes back behind where it was made. -/
theorem Runs.rest_suffix (h : Runs g (g.plan a) c e) : e.rest <:+ a.rest :=
  h.rest_suffix_of_within (plan_within g a)

/-- An answer is within the bounds of the plan that comes to it. -/
theorem Runs.fits {allowed : Attempt → Prop} {fits : Ending → Prop} (h : Runs g p c e)
    (hp : p.Obeys allowed fits) {matched : Bool} (he : e.answer = .ok matched) : fits e := by
  induction h with
  | finish e => exact hp
  | @attempt a next inside later e e' h₁ h₂ _ ih₂ =>
    cases hans : e.answer with
    | ok answer =>
      rw [Ending.follow_ok hans] at ih₂
      exact ih₂ (hp.2 _ _ (h₁.rest_suffix)) he
    | error stop =>
      obtain ⟨-, rfl⟩ := h₂.stopped_inv hans
      rw [hans] at he
      cases he

/-- Where all attempts that are allowed stay within the same bounds, every ending is within them. -/
theorem Runs.fits_of_all {allowed : Attempt → Prop} {fits : Ending → Prop}
    (hall : ∀ a, allowed a → (g.plan a).Obeys allowed fits) (h : Runs g p c e)
    (hp : p.Obeys allowed fits) : fits e := by
  induction h with
  | finish e => exact hp
  | attempt h₁ _ ih₁ ih₂ => exact ih₂ (hp.follow h₁.rest_suffix (ih₁ (hall _ hp.1)))

/-- The ending is not for want of a rule that should be there. -/
def Ending.FindsRules (e : Ending) : Prop := e.answer ≠ .error .noSuchRule

theorem Runs.rule_of_findsRules (h : Runs g (g.plan a) c e) (he : e.FindsRules) :
    ∃ r, g.rule? a.rule = some r := by
  cases hr : g.rule? a.rule with
  | some r => exact ⟨r, rfl⟩
  | none =>
    rw [plan_of_missing hr] at h
    obtain ⟨-, rfl⟩ := h.finish_inv
    exact absurd rfl he

/-- Every attempt of the course, other than those inside of others, has the property. -/
def Course.Each (P : Attempt → Course → Ending → Prop) : Course → Prop
  | .none => True
  | .made a inside e later => P a inside e ∧ later.Each P

/-- What holds of an attempt as soon as it holds of those inside of it holds of every attempt. -/
theorem Runs.attempt_induction {P : Attempt → Course → Ending → Prop}
    (step : ∀ a inside e, Runs g (g.plan a) inside e → inside.Each P → P a inside e)
    (h : Runs g (g.plan a) c e) : P a c e := by
  have each : ∀ {p c e}, Runs g p c e → c.Each P := by
    intro p c e h
    induction h with
    | finish e => trivial
    | attempt h₁ _ ih₁ ih₂ => exact ⟨step _ _ _ h₁ ih₁, ih₂⟩
  exact step a c e h (each h)

end Peg
