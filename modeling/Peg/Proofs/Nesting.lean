-- The fuel of a match is enough. An attempt never comes back inside of itself, or it would go on
-- for ever, so no more attempts stand inside each other than there are different ones.
import Mathlib.Data.List.Infix
import Mathlib.Data.List.ProdSigma
import Peg.Proofs.Evaluation

namespace Peg

open Text

variable {σ : Type}

/-! ## The attempts of a course -/

/-- All attempts of a course, also those inside of others. -/
def Course.attempts : Course → List Attempt
  | .none => []
  | .made a inside _ later => a :: inside.attempts ++ later.attempts

theorem Course.mem_attempts {a b : Attempt} {inside later : Course} {e : Ending} :
    b ∈ (Course.made a inside e later).attempts ↔
      b = a ∨ b ∈ inside.attempts ∨ b ∈ later.attempts := by
  simp [Course.attempts]

theorem Course.attempts_alone (a : Attempt) (inside : Course) (e : Ending) :
    (Course.made a inside e .none).attempts = a :: inside.attempts := List.append_nil _

section

variable {g : Arena σ} {p : Plan} {a b : Attempt} {c inside : Course} {e : Ending}

/-- An attempt inside of a course takes a course that is shorter. -/
theorem Runs.of_mem_attempts (h : Runs g p c e) (hb : b ∈ c.attempts) :
    ∃ inside e', Runs g (g.plan b) inside e' ∧ inside.attempts.length < c.attempts.length := by
  induction h with
  | finish e => cases hb
  | attempt h₁ _ ih₁ ih₂ =>
    simp only [Course.attempts, List.length_cons, List.length_append]
    rcases Course.mem_attempts.1 hb with rfl | hb | hb
    · exact ⟨_, _, h₁, by omega⟩
    · obtain ⟨inside, e', hrun, hlt⟩ := ih₁ hb
      exact ⟨inside, e', hrun, by omega⟩
    · obtain ⟨inside, e', hrun, hlt⟩ := ih₂ hb
      exact ⟨inside, e', hrun, by omega⟩

/-- An attempt never comes back inside of itself. -/
theorem Runs.not_mem_attempts (h : Runs g (g.plan a) c e) : a ∉ c.attempts := by
  intro ha
  obtain ⟨inside, e', hrun, hlt⟩ := h.of_mem_attempts ha
  obtain ⟨rfl, -⟩ := h.unique hrun
  omega

/-- Attempts stand inside each other no deeper than there are rules, places and names for them,
but for one at a rule that is missing. -/
theorem Runs.height_le (h : Runs g p c e) {l : List Attempt}
    (hl : ∀ b ∈ c.attempts, (g.rule? b.rule).isSome → b ∈ l) : c.height ≤ l.length + 1 := by
  induction h generalizing l with
  | finish e => exact Nat.zero_le _
  | @attempt a next inside later e e' h₁ h₂ ih₁ ih₂ =>
    simp only [Course.mem_attempts] at hl
    have hlater : later.height ≤ l.length + 1 := ih₂ fun b hb => hl b (.inr (.inr hb))
    have hinside : inside.height ≤ l.length := by
      cases hr : g.rule? a.rule with
      | none =>
        rw [plan_of_missing hr] at h₁
        obtain ⟨rfl, -⟩ := h₁.finish_inv
        exact Nat.zero_le _
      | some r =>
        have hal : a ∈ l := hl a (.inl rfl) (by rw [hr]; rfl)
        -- no attempt comes back inside of itself, so those inside are counted without it
        have hle := ih₁ (l := l.erase a) ?_
        · have hpos := List.length_pos_of_mem hal
          rw [List.length_erase_of_mem hal] at hle
          omega
        · intro b hb hsome
          have hne : b ≠ a := fun hba => h₁.not_mem_attempts (hba ▸ hb)
          exact (List.mem_erase_of_ne hne).2 (hl b (.inr (.inl hb)) hsome)
    simp only [Course.height]
    omega

/-! ## Where attempts can be made -/

/-- What stays of an attempt in all that are made inside of it: the text that is left only gets
less, and an active name is the old one or a registered one. -/
structure Near (g : Arena σ) (a b : Attempt) : Prop where
  rest : b.rest <:+ a.rest
  active : b.active = a.active ∨ ∃ name, b.active = some name ∧ (g.named? name).isSome

theorem Near.trans {d : Attempt} (h : Near g a b) (h' : Near g b d) : Near g a d := by
  refine ⟨h'.rest.trans h.rest, ?_⟩
  rcases h'.active with hd | hd
  · rw [hd]
    exact h.active
  · exact .inr hd

theorem Inner.near {r : Rule σ} (h : Inner g a.active a.rest r b) : Near g a b := by
  cases h with
  | child _ hy => exact ⟨hy, .inl rfl⟩
  | space hy => exact ⟨hy, .inl rfl⟩
  | @name name b _ hb => exact ⟨List.suffix_rfl, .inr ⟨name, rfl, by rw [hb]; rfl⟩⟩

theorem plan_near (g : Arena σ) (a : Attempt) :
    (g.plan a).Obeys (Near g a) (fun _ => True) := by
  cases hr : g.rule? a.rule with
  | none =>
    rw [plan_of_missing hr]
    trivial
  | some r => exact (plan_obeys hr).mono (fun _ => Inner.near) (fun _ _ => trivial)

theorem Runs.near (h : Runs g p c e) (hp : p.Obeys (Near g a) (fun _ => True)) :
    ∀ b ∈ c.attempts, Near g a b := by
  induction h generalizing a with
  | finish e =>
    intro b hb
    cases hb
  | @attempt d next inside later e e' h₁ h₂ ih₁ ih₂ =>
    have hd : Near g a d := hp.1
    intro b hb
    rcases Course.mem_attempts.1 hb with rfl | hb | hb
    · exact hd
    · exact hd.trans (ih₁ (plan_near g d) b hb)
    · exact ih₂ (hp.follow h₁.rest_suffix trivial) b hb

/-! ## Enough fuel -/

/-- All attempts that can be made inside of one. -/
def Arena.universe (g : Arena σ) (a : Attempt) : List Attempt :=
  (List.range g.size ×ˢ (a.rest.tails ×ˢ (a.active :: g.names.map fun n => some n.1))).map
    fun x => ⟨⟨x.1⟩, x.2.2, x.2.1⟩

theorem length_universe (g : Arena σ) (a : Attempt) :
    (g.universe a).length = g.size * ((a.rest.length + 1) * (g.names.length + 1)) := by
  simp [Arena.universe, List.length_product]

theorem rule?_isSome {g : Arena σ} {id : RuleId} : (g.rule? id).isSome ↔ id.index < g.size := by
  simp [Arena.rule?, Arena.size]

theorem mem_universe (h : Near g a b) (hb : (g.rule? b.rule).isSome) : b ∈ g.universe a := by
  have hname : b.active ∈ a.active :: g.names.map fun n => some n.1 := by
    rcases h.active with hactive | ⟨name, hactive, hsome⟩
    · rw [hactive]
      exact List.mem_cons_self
    · rw [hactive]
      apply List.mem_cons_of_mem
      obtain ⟨n, hn, hname⟩ := List.lookup_isSome_iff.1 hsome
      rw [List.mem_map]
      exact ⟨n, hn, by rw [beq_iff_eq.1 hname]⟩
  rw [Arena.universe, List.mem_map]
  refine ⟨(b.rule.index, b.rest, b.active), ?_, rfl⟩
  rw [List.mem_product, List.mem_range, List.mem_product, List.mem_tails]
  exact ⟨rule?_isSome.1 hb, h.rest, hname⟩

/-- The fuel of a match is more than the attempts inside of it can use up. -/
theorem Runs.height_lt_depthBound {s : MatchState} {id : RuleId}
    (h : Runs g (g.plan (s.attempt id)) inside e) : inside.height < Match.depthBound g s := by
  have hle : inside.height ≤ (g.universe (s.attempt id)).length := by
    have := h.alone.height_le (l := g.universe (s.attempt id)) ?_
    · simp only [Course.height] at this
      omega
    · intro b hb hsome
      rw [Course.attempts_alone, List.mem_cons] at hb
      rcases hb with rfl | hb
      · exact mem_universe ⟨List.suffix_rfl, .inl rfl⟩ hsome
      · exact mem_universe (h.near (plan_near g _) b hb) hsome
  rw [length_universe] at hle
  have hstart : (s.attempt id).rest = s.cursor.rest := rfl
  rw [hstart] at hle
  have hmono : g.size * ((s.cursor.rest.length + 1) * (g.names.length + 1)) ≤
      g.size * ((s.cursor.rest.length + 1) * (g.names.length + 2)) :=
    Nat.mul_le_mul_left _ (Nat.mul_le_mul_left _ (by omega))
  rw [Match.depthBound, Nat.mul_assoc]
  omega

/-! ## Matching a rule -/

/-- Whatever a match comes to comes about by a course of attempts, unless it runs out of fuel. -/
theorem eval_sound (g : Arena σ) : Sound g (Match.eval g) :=
  fun id s => evalWithin_sound g (Match.depthBound g s) id s

/-- A match comes to the ending of its course. -/
theorem Runs.eval_ends {s : MatchState} {id : RuleId}
    (h : Runs g (g.plan (s.attempt id)) inside e) :
    Ends g s (.made (s.attempt id) inside e .none) e (Match.eval g id s) :=
  evalWithin_complete _ h h.height_lt_depthBound

/-- An answer comes about by a course of attempts, and the state behind it is read off them. -/
theorem eval_ok {s t : MatchState} {id : RuleId} {matched : Bool}
    (h : Match.eval g id s = .ok matched t) :
    ∃ inside, Runs g (g.plan (s.attempt id)) inside ⟨.ok matched, t.cursor.rest⟩ ∧
      Reaches g s (.made (s.attempt id) inside ⟨.ok matched, t.cursor.rest⟩ .none)
        t.cursor.rest t := by
  rcases eval_sound g id s with ⟨u, hu⟩ | ⟨inside, e, hrun, hends⟩
  · rw [h] at hu
    cases hu
  · rw [h] at hends
    obtain ⟨hanswer, hreach⟩ := hends
    have he : e = ⟨.ok matched, t.cursor.rest⟩ := by rw [hreach.rest, ← hanswer]
    subst he
    exact ⟨inside, hrun, hreach⟩

/-- A halt that is not for want of fuel comes about by a course of attempts as well. -/
theorem eval_error {s t : MatchState} {id : RuleId} {halt : Halt}
    (h : Match.eval g id s = .error halt t) (hfuel : halt ≠ .outOfFuel) :
    ∃ inside stop, halt = stop.halt s.cursor.input t.cursor.rest ∧
      Runs g (g.plan (s.attempt id)) inside ⟨.error stop, t.cursor.rest⟩ ∧
      Reaches g s (.made (s.attempt id) inside ⟨.error stop, t.cursor.rest⟩ .none)
        t.cursor.rest t := by
  rcases eval_sound g id s with ⟨u, hu⟩ | ⟨inside, e, hrun, hends⟩
  · rw [h] at hu
    cases hu
    exact absurd rfl hfuel
  · rw [h] at hends
    obtain ⟨stop, hanswer, hhalt, hreach⟩ := hends
    have he : e = ⟨.error stop, t.cursor.rest⟩ := by rw [hreach.rest, ← hanswer]
    subst he
    exact ⟨inside, stop, hhalt, hrun, hreach⟩

/-- An error in the grammar is for want of the rule of a name. -/
theorem eval_unknownRule {s t : MatchState} {id : RuleId} {error : GrammarError}
    (h : Match.eval g id s = .error (.error error) t) :
    ∃ name inside, error = .unknownRule name ∧
      Runs g (g.plan (s.attempt id)) inside (.stopped (.unknownRule name) t.cursor.rest) ∧
      Reaches g s (.made (s.attempt id) inside (.stopped (.unknownRule name) t.cursor.rest) .none)
        t.cursor.rest t := by
  obtain ⟨inside, stop, hhalt, hrun, hreach⟩ := eval_error h (by simp)
  cases stop with
  | unknownRule name =>
    cases hhalt
    exact ⟨name, inside, rfl, hrun, hreach⟩
  | noSuchRule | insideCharacter count => cases hhalt

/-- A match has the answer that its plan comes to. -/
theorem Runs.eval_ok {s : MatchState} {id : RuleId} {matched : Bool} {y : List Char}
    (h : Runs g (g.plan (s.attempt id)) inside ⟨.ok matched, y⟩) :
    ∃ t, Match.eval g id s = .ok matched t ∧
      Reaches g s (.made (s.attempt id) inside ⟨.ok matched, y⟩ .none) y t := by
  have hends := h.eval_ends
  cases hres : Match.eval g id s with
  | ok matched' t =>
    rw [hres] at hends
    obtain ⟨hanswer, hreach⟩ := hends
    cases hanswer
    exact ⟨t, rfl, hreach⟩
  | error halt t =>
    rw [hres] at hends
    obtain ⟨stop, hanswer, -⟩ := hends
    cases hanswer

end

end Peg
