-- Plans and the matches that they make. Two plans may come to the same endings by different
-- attempts, and matches that go by such plans end alike and with the same captures.
import Peg.Proofs.Answers
import Peg.Proofs.Attaching
import Peg.Proofs.Termination

namespace Peg

open Text

variable {σ : Type}

/-! ## Plans that come to the same -/

/-- The plans come to the same endings, and leave the same captures behind. -/
def Plan.Same (g : Arena σ) (p q : Plan) : Prop :=
  ∀ input e l, Does g input p e l ↔ Does g input q e l

/-- Does what the plan says, and then what its answer asks for. -/
def Plan.andThen : Plan → (Bool → List Char → Plan) → Plan
  | finish e, next => e.follow next
  | attempt a k, next => attempt a fun matched y => (k matched y).andThen next

section

variable {g : Arena σ} {input : List Char} {p q r : Plan} {t : Attempt} {e e' : Ending}
variable {next next' k : Bool → List Char → Plan} {l : List Capture}
variable {active : Option String} {x : List Char} {id a b : RuleId}

theorem Plan.Same.refl (p : Plan) : p.Same g p := fun _ _ _ => Iff.rfl

theorem Plan.Same.symm (h : p.Same g q) : q.Same g p := fun input e l => (h input e l).symm

theorem Plan.Same.trans (h : p.Same g q) (h' : q.Same g r) : p.Same g r :=
  fun input e l => (h input e l).trans (h' input e l)

theorem does_finish_iff : Does g input (.finish e) e' l ↔ e' = e ∧ l = [] := by
  constructor
  · rintro ⟨c, hrun, rfl⟩
    obtain ⟨rfl, rfl⟩ := hrun.finish_inv
    exact ⟨rfl, rfl⟩
  · rintro ⟨rfl, rfl⟩
    exact .finish

/-- An attempt leaves its own captures in front of those of what follows it. -/
theorem does_attempt_iff :
    Does g input (.attempt t next) e l ↔
      ∃ c e₁ m, Runs g (g.plan t) c e₁ ∧ Does g input (e₁.follow next) e m ∧
        l = g.recorded input t e₁ (c.captures g input) ++ m := by
  constructor
  · rintro ⟨c, hrun, rfl⟩
    obtain ⟨inside, e₁, later, rfl, hinside, hlater⟩ := hrun.attempt_inv
    exact ⟨inside, e₁, _, hinside, ⟨later, hlater, rfl⟩, rfl⟩
  · rintro ⟨c, e₁, m, hinside, ⟨later, hlater, rfl⟩, rfl⟩
    exact ⟨_, .attempt hinside hlater, rfl⟩

theorem Ending.andThen_follow (e : Ending) :
    (e.follow k).andThen next = e.follow fun matched y => (k matched y).andThen next := by
  cases he : e.answer with
  | ok matched => rw [Ending.follow_ok he, Ending.follow_ok he]
  | error stop => rw [Ending.follow_error he, Ending.follow_error he, Plan.andThen,
      Ending.follow_error he]

theorem does_andThen_iff :
    Does g input (p.andThen next) e l ↔
      ∃ e₁ m n, Does g input p e₁ m ∧ Does g input (e₁.follow next) e n ∧ l = m ++ n := by
  induction p generalizing e l with
  | finish e₁ => simp [Plan.andThen, does_finish_iff]
  | attempt t k ih =>
    -- a stop is not followed by anything
    have hfollow : ∀ (e₁ : Ending) {e l}, Does g input ((e₁.follow k).andThen next) e l ↔
        ∃ e₂ m n, Does g input (e₁.follow k) e₂ m ∧ Does g input (e₂.follow next) e n ∧
          l = m ++ n := by
      intro e₁ e l
      cases he : e₁.answer with
      | ok matched =>
        rw [Ending.follow_ok he]
        exact ih matched e₁.rest
      | error stop => simp [Ending.follow_error he, Plan.andThen, does_finish_iff]
    rw [Plan.andThen, does_attempt_iff]
    simp only [← Ending.andThen_follow, hfollow, does_attempt_iff]
    constructor
    · rintro ⟨c, e₁, _, hinside, ⟨e₂, m, n, hk, hnext, rfl⟩, rfl⟩
      exact ⟨e₂, _, n, ⟨c, e₁, m, hinside, hk, rfl⟩, hnext, (List.append_assoc ..).symm⟩
    · rintro ⟨e₂, _, n, ⟨c, e₁, m, hinside, hk, rfl⟩, hnext, rfl⟩
      exact ⟨c, e₁, _, hinside, ⟨e₂, m, n, hk, hnext, rfl⟩, List.append_assoc ..⟩

theorem Plan.Same.attempt (h : ∀ matched y, (next matched y).Same g (next' matched y)) :
    (Plan.attempt t next).Same g (.attempt t next') := by
  have hfollow : ∀ e₁ : Ending, (e₁.follow next).Same g (e₁.follow next') := by
    intro e₁
    cases he : e₁.answer with
    | ok matched =>
      rw [Ending.follow_ok he, Ending.follow_ok he]
      exact h matched e₁.rest
    | error stop =>
      rw [Ending.follow_error he, Ending.follow_error he]
      exact .refl _
  intro input e l
  rw [does_attempt_iff, does_attempt_iff]
  simp only [hfollow _ input]

/-- An attempt at a rule that is no action does what the plan of the rule says. -/
theorem same_ofRule {r : Rule σ} (hr : g.rule? id = some r) (hne : ∀ a run, r ≠ .action a run) :
    (Plan.attempt ⟨id, active, x⟩ next).Same g ((Plan.ofRule g active x r).andThen next) := by
  intro input e l
  have hplan : g.plan ⟨id, active, x⟩ = .ofRule g active x r := plan_of_rule hr
  have hrecorded : ∀ e₁ m, g.recorded input ⟨id, active, x⟩ e₁ m = m := fun e₁ m =>
    Arena.recorded_of_ne_action (a := ⟨id, active, x⟩) hr hne input e₁ m
  rw [does_attempt_iff, does_andThen_iff, hplan]
  simp only [hrecorded]
  constructor
  · rintro ⟨c, e₁, m, hinside, hnext, rfl⟩
    exact ⟨e₁, _, m, ⟨c, hinside, rfl⟩, hnext, rfl⟩
  · rintro ⟨e₁, _, m, ⟨c, hinside, rfl⟩, hnext, rfl⟩
    exact ⟨c, e₁, m, hinside, hnext, rfl⟩

end

/-! ## What a plan comes to -/

/-- The result is what the plan comes to from the state. -/
def Fulfils (g : Arena σ) (s : MatchState) (p : Plan)
    (result : EStateM.Result Halt MatchState Bool) : Prop :=
  (Exhausted result ∧ ¬ p.Halts g) ∨ ∃ c e, Runs g p c e ∧ Ends g s c e result

section

variable {g : Arena σ} {s t : MatchState} {p q : Plan} {x : List Char}
variable {result result' : EStateM.Result Halt MatchState Bool} {next : Bool → List Char → Plan}
variable {k : Bool → Match Bool} {id : RuleId}

theorem Fulfils.finish (matched : Bool) :
    Fulfils g s (.finish ⟨.ok matched, s.cursor.rest⟩) (.ok matched s) := by
  refine .inr ⟨.none, _, .finish _, rfl, ?_⟩
  have h := Reaches.atRest (g := g) s.cursor.rest_suffix
  rwa [MatchState.atRest_self] at h

/-- The place of a state does not matter for a plan. -/
theorem Fulfils.of_atRest (hx : x <:+ s.cursor.input) (h : Fulfils g (s.atRest x) p result) :
    Fulfils g s p result := by
  refine h.imp_right fun ⟨c, e, hrun, hends⟩ => ⟨c, e, hrun, ?_⟩
  have hinput := MatchState.input_atRest hx
  have hreach : ∀ {y t}, Reaches g (s.atRest x) c y t → Reaches g s c y t := by
    rintro y t ⟨hi, hrest, hcaptures, hactive, hdepth, htrace, hlog⟩
    rw [hinput] at hi hcaptures
    exact ⟨hi, hrest, hcaptures, hactive, hdepth, htrace, hlog⟩
  cases result with
  | ok matched t => exact ⟨hends.1, hreach hends.2⟩
  | error halt t =>
    obtain ⟨stop, he, hhalt, hends⟩ := hends
    rw [hinput] at hhalt
    exact ⟨stop, he, hhalt, hreach hends⟩

/-- What comes after an attempt with an answer is where the match ends. -/
theorem Ends.followed {a : Attempt} {inside later : Course} {e e' : Ending} {matched : Bool}
    (he : e.answer = .ok matched) (h : Reaches g s (.made a inside e .none) e.rest t)
    (h' : Ends g t later e' result) : Ends g s (.made a inside e later) e' result := by
  cases result with
  | ok matched' u => exact ⟨h'.1, h.followed he h'.2⟩
  | error halt u =>
    obtain ⟨stop, he', hhalt, hreach⟩ := h'
    rw [h.input] at hhalt
    exact ⟨stop, he', hhalt, h.followed he hreach⟩

/-- A match, and what follows its answer. -/
theorem Fulfils.eval_bind
    (hk : ∀ matched t, t.cursor.input = s.cursor.input → t.active = s.active →
      Fulfils g t (next matched t.cursor.rest) (k matched t)) :
    Fulfils g s (.attempt (s.attempt id) next) ((Match.eval g id >>= k) s) := by
  rw [Match.bind_apply]
  rcases eval_sound g id s with ⟨u, hu⟩ | ⟨inside, e, hrun, hends⟩
  · rw [hu]
    refine .inl ⟨⟨u, rfl⟩, ?_⟩
    rintro ⟨c, e, hrun⟩
    obtain ⟨inside, e₁, later, -, hinside, -⟩ := hrun.attempt_inv
    exact hinside.eval_ends.not_exhausted ⟨u, hu⟩
  · cases he : e.answer with
    | error stop =>
      obtain ⟨t, ht, hreach⟩ := hends.halted he
      have hfinish : Runs g (e.follow next) .none e := by
        rw [Ending.follow_error he]
        exact .finish e
      rw [ht]
      exact .inr ⟨_, e, .attempt hrun hfinish, stop, he, rfl, hreach⟩
    | ok matched =>
      obtain ⟨t, ht, hreach⟩ := hends.answered he
      have hfollow : e.follow next = next matched t.cursor.rest := by
        rw [Ending.follow_ok he, hreach.rest]
      rw [ht]
      rcases hk matched t hreach.input hreach.active with
        ⟨hexhausted, hendless⟩ | ⟨later, e', hrun', hends'⟩
      · refine .inl ⟨hexhausted, ?_⟩
        rintro ⟨c, e', hrun'⟩
        obtain ⟨inside', e₁, later, -, hinside, hlater⟩ := hrun'.attempt_inv
        obtain ⟨-, rfl⟩ := hrun.unique hinside
        rw [hfollow] at hlater
        exact hendless ⟨later, e', hlater⟩
      · rw [← hfollow] at hrun'
        exact .inr ⟨_, e', .attempt hrun hrun', hends'.followed he hreach⟩

/-- An answer is passed on as it is. -/
def Plan.answer (matched : Bool) (y : List Char) : Plan := .finish ⟨.ok matched, y⟩

theorem fulfils_eval (g : Arena σ) (id : RuleId) (s : MatchState) :
    Fulfils g s (.attempt (s.attempt id) Plan.answer) (Match.eval g id s) := by
  have h : Fulfils g s (.attempt (s.attempt id) Plan.answer)
      ((Match.eval g id >>= fun matched => pure matched) s) :=
    .eval_bind fun matched t _ _ => .finish matched
  rwa [bind_pure] at h

end

/-! ## Matches that agree -/

/-- The state in which a match has ended. -/
def endState : EStateM.Result Halt MatchState Bool → MatchState
  | .ok _ t => t
  | .error _ t => t

/-- Two matches end alike, if they end, and with the same captures. -/
structure Agree (result result' : EStateM.Result Halt MatchState Bool) : Prop where
  alike : Alike result result'
  captures : ¬ Exhausted result → (endState result').captures = (endState result).captures

section

variable {g h k : Arena σ} {s : MatchState} {p q : Plan}
variable {result result' : EStateM.Result Halt MatchState Bool}

theorem Ends.captures {c : Course} {e : Ending} (h : Ends g s c e result) :
    (endState result).captures = s.captures ++ c.captures g s.cursor.input := by
  cases result with
  | ok matched t => exact h.2.captures
  | error halt t =>
    obtain ⟨stop, -, -, hreach⟩ := h
    exact hreach.captures

/-- Plans that come to the same have results that agree. -/
theorem Fulfils.agree (hpq : p.Same g q) (hp : Fulfils g s p result)
    (hq : Fulfils g s q result') : Agree result result' := by
  have hhalts : ∀ {p q : Plan}, p.Same g q → p.Halts g → q.Halts g := by
    rintro p q hpq ⟨c, e, hrun⟩
    obtain ⟨c', hrun', -⟩ := (hpq [] e _).1 ⟨c, hrun, rfl⟩
    exact ⟨c', e, hrun'⟩
  rcases hp with ⟨⟨t, rfl⟩, hendless⟩ | ⟨c, e, hrun, hends⟩
  · rcases hq with ⟨⟨t', rfl⟩, -⟩ | ⟨c', e', hrun', -⟩
    · exact ⟨.endless, fun hex => absurd ⟨t, rfl⟩ hex⟩
    · exact absurd (hhalts hpq.symm ⟨c', e', hrun'⟩) hendless
  · rcases hq with ⟨-, hendless⟩ | ⟨c', e', hrun', hends'⟩
    · exact absurd (hhalts hpq ⟨c, e, hrun⟩) hendless
    · obtain ⟨d, hd, hcaptures⟩ := (hpq s.cursor.input e _).1 ⟨c, hrun, rfl⟩
      obtain ⟨rfl, rfl⟩ := hd.unique hrun'
      refine ⟨hends.alike hends', fun _ => ?_⟩
      rw [hends.captures, hends'.captures, hcaptures]

end

end Peg
