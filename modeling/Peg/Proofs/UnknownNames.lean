-- References to names that stand for nothing. A match that comes to one of them has no answer:
-- whatever stands around the reference passes the error on, and nothing is tried behind it.
import Peg.Proofs.References
import Peg.Proofs.Replaying

namespace Peg

open Text

variable {σ : Type}

/-! ## Names that may be active -/

/-- The active name, if there is one, stands for a rule. -/
def Arena.Knows (g : Arena σ) (active : Option String) : Prop :=
  ∀ name, active = some name → (g.named? name).isSome

/-- The ending is not for want of a rule for a name. -/
def Ending.FindsNames (e : Ending) : Prop := ∀ name, e.answer ≠ .error (.unknownRule name)

section

variable {g : Arena σ} {p : Plan} {a b : Attempt} {c inside : Course} {e : Ending} {name : String}

/-- The names that become active in a match all stand for rules. -/
theorem Near.knows (h : Near g a b) (ha : g.Knows a.active) : g.Knows b.active := by
  intro name hname
  rcases h.active with hb | ⟨other, hb, hsome⟩
  · rw [hb] at hname
    exact ha name hname
  · rw [hb] at hname
    cases hname
    exact hsome

/-- A reference without a rule is not refused, so it is looked up and ends the plan. -/
theorem plan_of_dangles (hd : g.Dangles a.rule name) (ha : g.Knows a.active) :
    g.plan a = .finish (.stopped (.unknownRule name) a.rest) := by
  have hactive : a.active ≠ some name := fun h => hd.unnamed (ha name h)
  rw [plan_of_rule hd.1, Plan.ofRule, if_neg hactive, hd.2]

theorem plan_knows (ha : g.Knows a.active) :
    (g.plan a).Obeys (fun b => g.Knows b.active) (fun _ => True) :=
  (plan_near g a).mono (fun _ hb => hb.knows ha) (fun _ _ => trivial)

/-- All other rules end for want of a rule only if an attempt inside of them does. -/
theorem plan_findsNames (ha : g.Knows a.active) (hd : ∀ other, ¬ g.Dangles a.rule other) :
    (g.plan a).Obeys (fun b => g.Knows b.active) Ending.FindsNames := by
  cases hr : g.rule? a.rule with
  | none =>
    rw [plan_of_missing hr]
    intro name h
    cases h
  | some r =>
    refine (plan_obeys hr).mono (fun b hb => hb.near.knows ha) ?_
    rintro e ⟨-, hends⟩ name h
    obtain ⟨-, hat⟩ := hends _ h
    cases hat with
    | unknownRule hnone => exact hd name ⟨hr, hnone⟩

/-! ## The end of a match -/

/-- Where a reference without a rule is attempted, its error is the ending. -/
theorem Runs.ends_of_dangles (h : Runs g p c e)
    (hp : p.Obeys (fun b => g.Knows b.active) (fun _ => True)) (hb : b ∈ c.attempts)
    (hd : g.Dangles b.rule name) : e.answer = .error (.unknownRule name) := by
  induction h with
  | finish e => cases hb
  | @attempt a next inside later e e' h₁ h₂ ih₁ ih₂ =>
    have hstop : b = a ∨ b ∈ inside.attempts → e'.answer = .error (.unknownRule name) := by
      intro hb
      have he : e.answer = .error (.unknownRule name) := by
        rcases hb with rfl | hb
        · rw [plan_of_dangles hd hp.1] at h₁
          obtain ⟨-, rfl⟩ := h₁.finish_inv
          rfl
        · exact ih₁ (plan_knows hp.1) hb
      obtain ⟨-, rfl⟩ := h₂.stopped_inv he
      exact he
    rcases Course.mem_attempts.1 hb with hb | hb | hb
    · exact hstop (.inl hb)
    · exact hstop (.inr hb)
    · exact ih₂ (hp.follow h₁.rest_suffix trivial) hb

theorem Runs.ends_of_dangles_inside (h : Runs g (g.plan a) c e) (ha : g.Knows a.active)
    (hb : b ∈ a :: c.attempts) (hd : g.Dangles b.rule name) :
    e.answer = .error (.unknownRule name) := by
  rw [← Course.attempts_alone a c e] at hb
  exact h.alone.ends_of_dangles ⟨ha, fun _ _ _ => trivial⟩ hb hd

/-- The last of the attempts is at a reference to the name, which stands for nothing, and none
before it is at such a reference. -/
def Arena.LosesLast (g : Arena σ) (name : String) (attempts : List Attempt) : Prop :=
  ∃ before b, attempts = before ++ [b] ∧ g.Dangles b.rule name ∧
    ∀ a ∈ before, ∀ other, ¬ g.Dangles a.rule other

theorem Arena.LosesLast.append {before attempts : List Attempt} (h : g.LosesLast name attempts)
    (hbefore : ∀ a ∈ before, ∀ other, ¬ g.Dangles a.rule other) :
    g.LosesLast name (before ++ attempts) := by
  obtain ⟨middle, b, rfl, hd, hmiddle⟩ := h
  refine ⟨before ++ middle, b, (List.append_assoc _ _ _).symm, hd, ?_⟩
  intro a ha
  rcases List.mem_append.1 ha with ha | ha
  · exact hbefore a ha
  · exact hmiddle a ha

theorem Arena.LosesLast.exists_mem {attempts : List Attempt} (h : g.LosesLast name attempts) :
    ∃ b ∈ attempts, g.Dangles b.rule name := by
  obtain ⟨before, b, rfl, hd, -⟩ := h
  exact ⟨b, by simp, hd⟩

/-- An error is for the last attempt that is made. -/
theorem Runs.losesLast (h : Runs g p c e)
    (hp : p.Obeys (fun b => g.Knows b.active) Ending.FindsNames)
    (he : e.answer = .error (.unknownRule name)) : g.LosesLast name c.attempts := by
  induction h with
  | finish e => exact absurd he (hp name)
  | @attempt a next inside later e e' h₁ h₂ ih₁ ih₂ =>
    obtain ⟨ha, hnext⟩ := hp
    cases hans : e.answer with
    | ok matched =>
      rw [Ending.follow_ok hans] at ih₂
      apply (ih₂ (hnext _ _ h₁.rest_suffix) he).append
      -- with an answer there was no such reference
      intro b hb other hd
      have hstop := h₁.ends_of_dangles_inside ha hb hd
      rw [hans] at hstop
      cases hstop
    | error stop =>
      obtain ⟨rfl, rfl⟩ := h₂.stopped_inv hans
      rw [Course.attempts_alone]
      by_cases hd : ∃ other, g.Dangles a.rule other
      · obtain ⟨other, hd⟩ := hd
        rw [plan_of_dangles hd ha] at h₁
        obtain ⟨rfl, rfl⟩ := h₁.finish_inv
        cases he
        exact ⟨[], a, rfl, hd, by simp⟩
      · have hd' : ∀ other, ¬ g.Dangles a.rule other := not_exists.1 hd
        show g.LosesLast name ([a] ++ inside.attempts)
        exact (ih₁ (plan_findsNames ha hd') he).append (by simpa using hd')

/-- The error of an attempt that comes to a reference without a rule is for the last attempt that
is made, and there is no error without such a reference. -/
theorem Runs.losesLast_of_attempt (h : Runs g (g.plan a) c e) (ha : g.Knows a.active)
    (he : e.answer = .error (.unknownRule name)) : g.LosesLast name (a :: c.attempts) := by
  have hall := h.alone.losesLast ⟨ha, fun _ _ _ _ => by simp⟩ he
  rwa [Course.attempts_alone] at hall

theorem Runs.unknownRule_iff (h : Runs g (g.plan a) c e) (ha : g.Knows a.active) :
    e.answer = .error (.unknownRule name) ↔ ∃ b ∈ a :: c.attempts, g.Dangles b.rule name := by
  constructor
  · exact fun he => (h.losesLast_of_attempt ha he).exists_mem
  · rintro ⟨b, hb, hd⟩
    exact h.ends_of_dangles_inside ha hb hd

/-! ## All attempts of a match -/

/-- Every attempt of the course has the property, also those inside of others. -/
def Course.Throughout (P : Attempt → Course → Ending → Prop) : Course → Prop
  | .none => True
  | .made a inside e later => P a inside e ∧ inside.Throughout P ∧ later.Throughout P

theorem Runs.throughout {P : Attempt → Course → Ending → Prop}
    (hall : ∀ {a inside e}, g.Knows a.active → Runs g (g.plan a) inside e → P a inside e)
    (h : Runs g p c e) (hp : p.Obeys (fun b => g.Knows b.active) (fun _ => True)) :
    c.Throughout P := by
  induction h with
  | finish e => trivial
  | attempt h₁ _ ih₁ ih₂ =>
    exact ⟨hall hp.1 h₁, ih₁ (plan_knows hp.1), ih₂ (hp.follow h₁.rest_suffix trivial)⟩

/-! ## Matches and parses -/

theorem eval_unknownRule_iff {s : MatchState} {id : RuleId}
    (h : Runs g (g.plan (s.attempt id)) inside e) :
    (∃ t, Match.eval g id s = .error (.error (.unknownRule name)) t) ↔
      e.answer = .error (.unknownRule name) := by
  constructor
  · rintro ⟨t, hres⟩
    obtain ⟨name, inside', hname, hrun, -⟩ := eval_unknownRule hres
    cases hname
    obtain ⟨-, rfl⟩ := hrun.unique h
    rfl
  · intro he
    obtain ⟨t, hres, -⟩ := h.eval_ends.halted he
    exact ⟨t, hres⟩

end

/-- A match that ends, with no name active or one that stands for a rule, comes to an error exactly
if a reference to a name that stands for nothing is attempted. This is the last attempt that is
made, and the error is about its name. Every attempt that it stands inside of ends with the error
and not with an answer, whatever its rule, and so does a parse from the rule. -/
theorem an_unknown_name_is_no_failure {g : Arena σ} (id : RuleId) (s : MatchState)
    (hactive : g.Knows s.active) (hends : ∀ t, Match.eval g id s ≠ .error .outOfFuel t) :
    ∃ inside e, Runs g (g.plan (s.attempt id)) inside e ∧
      (∀ name, (∃ t, Match.eval g id s = .error (.error (.unknownRule name)) t) ↔
        ∃ b ∈ s.attempt id :: inside.attempts, g.Dangles b.rule name) ∧
      (∀ name, (∃ b ∈ s.attempt id :: inside.attempts, g.Dangles b.rule name) →
        g.LosesLast name (s.attempt id :: inside.attempts)) ∧
      (Course.made (s.attempt id) inside e .none).Throughout (fun a inside e =>
        ∀ name, (∃ b ∈ a :: inside.attempts, g.Dangles b.rule name) →
          e.answer = .error (.unknownRule name)) ∧
      ∀ (p : Parser σ) (input : List Char) (output : σ), p.takeRoot.2.arena = g →
        p.takeRoot.2.root = some id → s = .ofText input p.takeRoot.2.debug → ∀ name,
          ((p.parse input output).1.result = .error (.error (.unknownRule name)) ↔
            ∃ b ∈ s.attempt id :: inside.attempts, g.Dangles b.rule name) := by
  obtain ⟨t, ht⟩ | ⟨inside, e, hrun, -⟩ := eval_sound g id s
  · exact absurd ht (hends t)
  have hiff : ∀ name, (∃ t, Match.eval g id s = .error (.error (.unknownRule name)) t) ↔
      ∃ b ∈ s.attempt id :: inside.attempts, g.Dangles b.rule name := fun name =>
    (eval_unknownRule_iff hrun).trans (hrun.unknownRule_iff hactive)
  refine ⟨inside, e, hrun, hiff, ?_, ?_, ?_⟩
  · intro name hd
    exact hrun.losesLast_of_attempt hactive ((hrun.unknownRule_iff hactive).2 hd)
  · exact hrun.alone.throughout (fun ha h name => (h.unknownRule_iff ha).2)
      ⟨hactive, fun _ _ _ => trivial⟩
  · rintro p input output rfl hroot rfl name
    exact ((Parser.verdict_parse hroot).eq_error_iff _).trans (hiff name)

/-- Any number of letters, each where a name without a rule is not. -/
def guardedByLost : Arena Unit where
  rules := #[.reference "lost", .not ⟨0⟩, .range 'a' 'z', .sequence ⟨1⟩ ⟨2⟩, .zeroOrMore ⟨3⟩]
  names := []
  whitespace := ⟨2⟩
  warnings := []

theorem a_lookahead_does_not_hide_a_lost_name :
    ∃ t inside e, Match.eval guardedByLost ⟨4⟩ (.ofText ['b'] false) =
        .error (.error (.unknownRule "lost")) t ∧
      Runs guardedByLost (guardedByLost.plan ⟨⟨4⟩, none, ['b']⟩) inside e ∧
      guardedByLost.LosesLast "lost" (⟨⟨4⟩, none, ['b']⟩ :: inside.attempts) := by
  obtain ⟨t, hres⟩ : ∃ t, Match.eval guardedByLost ⟨4⟩ (.ofText ['b'] false) =
    .error (.error (.unknownRule "lost")) t := ⟨_, rfl⟩
  obtain ⟨inside, e, hrun, hiff, hlast, -, -⟩ :=
    an_unknown_name_is_no_failure (g := guardedByLost) ⟨4⟩ (.ofText ['b'] false)
      (fun name h => by cases h) (fun t' h => by rw [hres] at h; cases h)
  exact ⟨t, inside, e, hres, hrun, hlast "lost" ((hiff "lost").1 ⟨t, hres⟩)⟩

end Peg
