-- The captures of a match are read off the attempts that it made: each capture is the mark of an
-- action that has matched, and lies where that action was attempted.
import Peg.Proofs.Nesting

namespace Peg

open Text

variable {σ : Type}

/-! ## Where captures lie -/

section

variable {g : Arena σ} {input x y : List Char} {id : RuleId}

theorem stop_between (hx : x <:+ input) (hy : y <:+ x) :
    (Capture.between input x y id).stop = offset input y := by
  obtain ⟨u, rfl⟩ := hy
  obtain ⟨v, rfl⟩ := hx
  simp only [Capture.stop, Capture.between, offset, byteLength_append]
  omega

/-- Each capture is the mark of an action, from where this was attempted up to where it ended. -/
theorem Runs.captures_of_actions {p : Plan} {c : Course} {e : Ending} (h : Runs g p c e)
    (hp : p.Obeys (·.rest <:+ x) (·.rest <:+ x)) {k : Capture} (hk : k ∈ c.captures g input) :
    ∃ id a run y z, g.rule? id = some (.action a run) ∧ y <:+ x ∧ z <:+ y ∧
      k = .between input y z id := by
  induction h generalizing x with
  | finish e => cases hk
  | @attempt a next inside later e e' h₁ h₂ ih₁ ih₂ =>
    have ha : a.rest <:+ x := hp.1
    rw [Course.captures, List.mem_append] at hk
    rcases hk with hk | hk
    · have hinside : k ∈ inside.captures g input → _ := fun hk => ih₁ (plan_within g a) hk
      unfold Arena.recorded at hk
      split at hk
      · next b run hr _ =>
        rcases List.mem_append.1 hk with hk | hk
        · obtain ⟨id, b, run, y, z, hr, hy, hz, rfl⟩ := hinside hk
          exact ⟨id, b, run, y, z, hr, hy.trans ha, hz, rfl⟩
        · rw [List.mem_singleton] at hk
          exact ⟨a.rule, b, run, a.rest, e.rest, hr, ha, h₁.rest_suffix, hk⟩
      · cases hk
      · obtain ⟨id, b, run, y, z, hr, hy, hz, rfl⟩ := hinside hk
        exact ⟨id, b, run, y, z, hr, hy.trans ha, hz, rfl⟩
    · exact ih₂ (hp.follow h₁.rest_suffix (h₁.rest_suffix.trans ha)) hk

end

/-! ## The captures of a match -/

/-- A match with an answer has made one course of attempts, and it adds what is read off them to
the captures that there were. -/
theorem captures_are_read_off_the_attempts {g : Arena σ} {id : RuleId} {s t : MatchState}
    {matched : Bool} (h : Match.eval g id s = .ok matched t) :
    ∃ inside,
      (∀ c e, Runs g (g.plan (s.attempt id)) c e ↔ c = inside ∧ e = ⟨.ok matched, t.cursor.rest⟩) ∧
      t.captures = s.captures ++
        Course.captures g s.cursor.input
          (.made (s.attempt id) inside ⟨.ok matched, t.cursor.rest⟩ .none) := by
  obtain ⟨inside, hrun, hreach⟩ := eval_ok h
  refine ⟨inside, ?_, hreach.captures⟩
  intro c e
  constructor
  · intro hrun'
    exact hrun.unique hrun'
  · rintro ⟨rfl, rfl⟩
    exact hrun

/-- One alternative begins with an action and fails behind it, and the other one matches. -/
def abandoning : Arena Unit where
  rules := #[.literal "a", .action ⟨0⟩ fun _ _ => ⟨⟩, .literal "b", .sequence ⟨1⟩ ⟨2⟩,
    .literal "a", .literal "c", .sequence ⟨4⟩ ⟨5⟩, .choice ⟨3⟩ ⟨6⟩]
  names := []
  whitespace := ⟨0⟩
  warnings := []

/-- The capture of an alternative that was given up stays. -/
theorem a_capture_outlasts_its_alternative :
    ∃ t inside, Match.eval abandoning ⟨7⟩ (.ofText ['a', 'c'] false) = .ok true t ∧
      t.captures = Course.captures abandoning ['a', 'c']
        (.made ⟨⟨7⟩, none, ['a', 'c']⟩ inside ⟨.ok true, t.cursor.rest⟩ .none) ∧
      t.captures.map (fun k => (k.start, k.stop, k.rule.index)) = [(0, 1, 1)] := by
  have h : (match Match.eval abandoning ⟨7⟩ (.ofText ['a', 'c'] false) with
      | .ok true t => t.captures.map (fun k => (k.start, k.stop, k.rule.index)) == [(0, 1, 1)]
      | _ => false) = true := by decide +kernel
  split at h
  · next t hres =>
    obtain ⟨inside, -, hcaptures⟩ := captures_are_read_off_the_attempts hres
    exact ⟨t, inside, hres, hcaptures, eq_of_beq h⟩
  · cases h

end Peg
