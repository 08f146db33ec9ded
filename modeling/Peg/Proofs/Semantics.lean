-- The usual meaning of parsing expressions, as a relation between a text and what is left of it.
-- A failure tells nothing but that there was one, and the active name is handed down. Matching
-- agrees with it, whatever it leaves behind on its way.
import Peg.Proofs.Answers

namespace Peg

open Text

variable {σ : Type}

/-- What is derived: a match of a rule, or matches of it one after another, as many as there are.
`active` is the name that is matched innermost. -/
inductive Goal where
  | once (active : Option String) (id : RuleId)
  | many (active : Option String) (id : RuleId)

/-- From a text, a goal is met with so much of the text left, or it is not met. -/
inductive Derives (g : Arena σ) : Goal → List Char → Option (List Char) → Prop where
  | literal {active : Option String} {id : RuleId} {text : String} {y : List Char} :
    g.rule? id = some (.literal text) → Derives g (.once active id) (text.toList ++ y) (some y)
  | literalFails {active : Option String} {id : RuleId} {text : String} {x : List Char} :
    g.rule? id = some (.literal text) → ¬ text.toList <+: x → Derives g (.once active id) x none
  | range {active : Option String} {id : RuleId} {lo hi c : Char} {y : List Char} :
    g.rule? id = some (.range lo hi) → lo ≤ c → c ≤ hi →
      Derives g (.once active id) (c :: y) (some y)
  | rangeFails {active : Option String} {id : RuleId} {lo hi : Char} {x : List Char} :
    g.rule? id = some (.range lo hi) → (∀ c ∈ x.head?, ¬ (lo ≤ c ∧ c ≤ hi)) →
      Derives g (.once active id) x none
  /-- What a regular expression finds is given. -/
  | pattern {active : Option String} {id : RuleId} {source : String} {finder : Regex.Finder}
      {u y : List Char} :
    g.rule? id = some (.pattern source (some finder)) →
      finder.findEnd? (u ++ y) = some (byteLength u) →
        Derives g (.once active id) (u ++ y) (some y)
  | patternFails {active : Option String} {id : RuleId} {source : String}
      {finder : Option Regex.Finder} {x : List Char} :
    g.rule? id = some (.pattern source finder) → finder.bind (·.findEnd? x) = none →
      Derives g (.once active id) x none
  | not {active : Option String} {id a : RuleId} {x : List Char} :
    g.rule? id = some (.not a) → Derives g (.once active a) x none →
      Derives g (.once active id) x (some x)
  | notFails {active : Option String} {id a : RuleId} {x y : List Char} :
    g.rule? id = some (.not a) → Derives g (.once active a) x (some y) →
      Derives g (.once active id) x none
  | endOfInput {active : Option String} {id a : RuleId} {x : List Char} :
    g.rule? id = some (.endOfInput a) → Derives g (.once active a) x (some []) →
      Derives g (.once active id) x (some [])
  | endOfInputFails {active : Option String} {id a : RuleId} {x : List Char}
      {r : Option (List Char)} :
    g.rule? id = some (.endOfInput a) → Derives g (.once active a) x r → r ≠ some [] →
      Derives g (.once active id) x none
  | sequence {active : Option String} {id a b : RuleId} {x y : List Char} {r : Option (List Char)} :
    g.rule? id = some (.sequence a b) → Derives g (.once active a) x (some y) →
      Derives g (.once active b) y r → Derives g (.once active id) x r
  | sequenceFails {active : Option String} {id a b : RuleId} {x : List Char} :
    g.rule? id = some (.sequence a b) → Derives g (.once active a) x none →
      Derives g (.once active id) x none
  | spaced {active : Option String} {id a b : RuleId} {x y z : List Char} {r : Option (List Char)} :
    g.rule? id = some (.spaced a b) → Derives g (.once active a) x (some y) →
      Derives g (.once active g.whitespace) y (some z) → Derives g (.once active b) z r →
        Derives g (.once active id) x r
  | spacedFails {active : Option String} {id a b : RuleId} {x : List Char} :
    g.rule? id = some (.spaced a b) → Derives g (.once active a) x none →
      Derives g (.once active id) x none
  | spacedFailsSpace {active : Option String} {id a b : RuleId} {x y : List Char} :
    g.rule? id = some (.spaced a b) → Derives g (.once active a) x (some y) →
      Derives g (.once active g.whitespace) y none → Derives g (.once active id) x none
  | choiceFirst {active : Option String} {id a b : RuleId} {x y : List Char} :
    g.rule? id = some (.choice a b) → Derives g (.once active a) x (some y) →
      Derives g (.once active id) x (some y)
  | choiceSecond {active : Option String} {id a b : RuleId} {x : List Char}
      {r : Option (List Char)} :
    g.rule? id = some (.choice a b) → Derives g (.once active a) x none →
      Derives g (.once active b) x r → Derives g (.once active id) x r
  | zeroOrMore {active : Option String} {id a : RuleId} {x : List Char} {r : Option (List Char)} :
    g.rule? id = some (.zeroOrMore a) → Derives g (.many active a) x r →
      Derives g (.once active id) x r
  | oneOrMore {active : Option String} {id a : RuleId} {x y : List Char} {r : Option (List Char)} :
    g.rule? id = some (.oneOrMore a) → Derives g (.once active a) x (some y) →
      Derives g (.many active a) y r → Derives g (.once active id) x r
  | oneOrMoreFails {active : Option String} {id a : RuleId} {x : List Char} :
    g.rule? id = some (.oneOrMore a) → Derives g (.once active a) x none →
      Derives g (.once active id) x none
  | optional {active : Option String} {id a : RuleId} {x y : List Char} :
    g.rule? id = some (.optional a) → Derives g (.once active a) x (some y) →
      Derives g (.once active id) x (some y)
  | optionalAbsent {active : Option String} {id a : RuleId} {x : List Char} :
    g.rule? id = some (.optional a) → Derives g (.once active a) x none →
      Derives g (.once active id) x (some x)
  /-- A reference to the name that is matched innermost fails. -/
  | refused {id : RuleId} {name : String} {x : List Char} :
    g.rule? id = some (.reference name) → Derives g (.once (some name) id) x none
  | reference {active : Option String} {id a : RuleId} {name : String} {x : List Char}
      {r : Option (List Char)} :
    g.rule? id = some (.reference name) → active ≠ some name → g.named? name = some a →
      Derives g (.once (some name) a) x r → Derives g (.once active id) x r
  | action {active : Option String} {id a : RuleId} {run : Action σ} {x : List Char}
      {r : Option (List Char)} :
    g.rule? id = some (.action a run) → Derives g (.once active a) x r →
      Derives g (.once active id) x r
  /-- Repetition stops where the rule fails, -/
  | manyStop {active : Option String} {a : RuleId} {x : List Char} :
    Derives g (.once active a) x none → Derives g (.many active a) x (some x)
  /-- where it reads nothing, -/
  | manyIdle {active : Option String} {a : RuleId} {x : List Char} :
    Derives g (.once active a) x (some x) → Derives g (.many active a) x (some x)
  /-- and nowhere else. -/
  | manyStep {active : Option String} {a : RuleId} {x y : List Char} {r : Option (List Char)} :
    Derives g (.once active a) x (some y) → y ≠ x → Derives g (.many active a) y r →
      Derives g (.many active a) x r

section

variable {g : Arena σ} {t : Attempt} {c : Course} {e : Ending} {matched : Bool}

/-! ## What a course comes to is derived -/

/-- The answer of an attempt without what a failed one leaves. -/
def outcome (matched : Bool) (y : List Char) : Option (List Char) :=
  if matched then some y else none

/-- That the semantics gives an attempt its answer. -/
def Derived (g : Arena σ) (t : Attempt) (e : Ending) : Prop :=
  ∀ matched, e.answer = .ok matched →
    Derives g (.once t.active t.rule) t.rest (outcome matched e.rest)

/-- A plan that has an answer goes on behind an attempt that has one. -/
theorem Runs.attempt_derived {next : Bool → List Char → Plan} (h : Runs g (.attempt t next) c e)
    (heach : c.Each fun b _ e => Derived g b e) (he : e.answer = .ok matched) :
    ∃ m y later, y <:+ t.rest ∧ Derives g (.once t.active t.rule) t.rest (outcome m y) ∧
      Runs g (next m y) later e ∧ later.Each fun b _ e => Derived g b e := by
  obtain ⟨inside, e₁, later, rfl, h₁, h₂⟩ := h.attempt_inv
  obtain ⟨hd, hlater⟩ := heach
  cases he₁ : e₁.answer with
  | error stop =>
    have hf : e₁.follow next = .finish e₁ := Ending.follow_error he₁
    rw [hf] at h₂
    obtain ⟨-, rfl⟩ := h₂.finish_inv
    rw [he₁] at he
    cases he
  | ok m =>
    have hf : e₁.follow next = next m e₁.rest := Ending.follow_ok he₁
    rw [hf] at h₂
    exact ⟨m, e₁.rest, later, h₁.rest_suffix, hd m he₁, h₂, hlater⟩

theorem Runs.repeating_derived {active : Option String} {a : RuleId} {x : List Char}
    {done : Nat → List Char → Plan} {count : Nat} {c : Course}
    (h : Runs g (.repeating ⟨a, active, x⟩ done count) c e)
    (heach : c.Each fun b _ e => Derived g b e) (he : e.answer = .ok matched) :
    ∃ n y later, Derives g (.many active a) x (some y) ∧ Runs g (done (count + n) y) later e ∧
      (n = 0 → Derives g (.once active a) x none) ∧
      (0 < n → ∃ z, Derives g (.once active a) x (some z) ∧
        Derives g (.many active a) z (some y)) := by
  rw [Plan.repeating] at h
  obtain ⟨m, z, later, hz, hd, hrun, hlater⟩ := h.attempt_derived heach he
  cases m with
  | false => exact ⟨0, x, later, .manyStop hd, hrun, fun _ => hd, fun h => absurd h (by omega)⟩
  | true =>
    rw [if_pos rfl] at hrun
    split at hrun
    · next hlt =>
      have hne : z ≠ x := fun heq => by simp [heq] at hlt
      obtain ⟨n, y, later', hmany, hrun', -, -⟩ := hrun.repeating_derived hlater he
      refine ⟨n + 1, y, later', .manyStep hd hne hmany, ?_, fun h => by omega,
        fun _ => ⟨z, hd, hmany⟩⟩
      rwa [Nat.add_assoc, Nat.add_comm 1 n] at hrun'
    · next hlt =>
      have hzx : z = x := hz.eq_of_length (Nat.le_antisymm hz.length_le (Nat.le_of_not_lt hlt))
      subst hzx
      exact ⟨1, z, later, .manyIdle hd, hrun, fun h => by omega, fun _ => ⟨z, hd, .manyIdle hd⟩⟩
termination_by x.length

/-- A plan whose one attempt decides how it ends. -/
theorem Runs.decided {ending : Bool → List Char → Ending}
    (h : Runs g (.attempt t fun m y => .finish (ending m y)) c e)
    (heach : c.Each fun b _ e => Derived g b e) (he : e.answer = .ok matched) :
    ∃ m y, Derives g (.once t.active t.rule) t.rest (outcome m y) ∧ e = ending m y := by
  obtain ⟨m, y, later, -, hd, hrun, -⟩ := h.attempt_derived heach he
  obtain ⟨-, rfl⟩ := hrun.finish_inv
  exact ⟨m, y, hd, rfl⟩

section

variable {id a b : RuleId} {active : Option String} {x : List Char}

theorem Runs.literal_derived {text : String} (hr : g.rule? id = some (.literal text))
    (h : Runs g (.ofRule g active x (.literal text)) c e) : Derived g ⟨id, active, x⟩ e := by
  intro matched he
  simp only [Plan.ofRule] at h
  obtain ⟨-, rfl⟩ := h.finish_inv
  cases hy : text.toList.isPrefixOf? x with
  | some y =>
    simp only [hy] at he ⊢
    cases he
    rw [← List.append_eq_of_isPrefixOf?_eq_some hy]
    exact .literal hr
  | none =>
    simp only [hy] at he ⊢
    cases he
    apply Derives.literalFails hr
    rintro ⟨y, rfl⟩
    rw [List.isPrefixOf?_eq_some_iff_append_eq.2 rfl] at hy
    cases hy

theorem Runs.range_derived {lo hi : Char} (hr : g.rule? id = some (.range lo hi))
    (h : Runs g (.ofRule g active x (.range lo hi)) c e) : Derived g ⟨id, active, x⟩ e := by
  intro matched he
  simp only [Plan.ofRule] at h
  obtain ⟨-, rfl⟩ := h.finish_inv
  cases x with
  | nil =>
    cases he
    exact .rangeFails hr (by simp)
  | cons d y =>
    by_cases hd : Match.inRange lo hi d = true
    · simp only [hd, if_true] at he ⊢
      cases he
      obtain ⟨hlo, hhi⟩ := Match.inRange_eq_true_iff.1 hd
      exact .range hr hlo hhi
    · simp only [if_neg hd] at he ⊢
      cases he
      apply Derives.rangeFails hr
      intro c hc
      cases hc
      exact mt Match.inRange_eq_true_iff.2 hd

theorem Runs.pattern_derived {source : String} {finder : Option Regex.Finder}
    (hr : g.rule? id = some (.pattern source finder))
    (h : Runs g (.ofRule g active x (.pattern source finder)) c e) :
    Derived g ⟨id, active, x⟩ e := by
  intro matched he
  simp only [Plan.ofRule] at h
  obtain ⟨-, rfl⟩ := h.finish_inv
  cases hcount : finder.bind (·.findEnd? x) with
  | none =>
    simp only [hcount] at he ⊢
    cases he
    exact .patternFails hr hcount
  | some count =>
    simp only [hcount] at he ⊢
    cases hy : after? count x with
    | none =>
      simp only [hy] at he
      cases he
    | some y =>
      simp only [hy] at he ⊢
      cases he
      obtain ⟨u, rfl, rfl⟩ := exists_append_of_after? hy
      cases finder with
      | none => cases hcount
      | some s => exact .pattern hr hcount

theorem Runs.endOfInput_derived (hr : g.rule? id = some (.endOfInput a))
    (h : Runs g (.ofRule g active x (.endOfInput a)) c e)
    (heach : c.Each fun b _ e => Derived g b e) : Derived g ⟨id, active, x⟩ e := by
  intro matched he
  obtain ⟨m, y, hd, rfl⟩ := h.decided heach he
  cases he
  cases m with
  | false => exact .endOfInputFails hr hd (by simp [outcome])
  | true =>
    cases y with
    | nil => exact .endOfInput hr hd
    | cons d y => exact .endOfInputFails hr hd (by simp [outcome])

theorem Runs.sequence_derived (hr : g.rule? id = some (.sequence a b))
    (h : Runs g (.ofRule g active x (.sequence a b)) c e)
    (heach : c.Each fun b _ e => Derived g b e) : Derived g ⟨id, active, x⟩ e := by
  intro matched he
  obtain ⟨m, y, later, -, hd, hrun, hlater⟩ := h.attempt_derived heach he
  cases m with
  | false =>
    obtain ⟨-, rfl⟩ := hrun.finish_inv
    cases he
    exact .sequenceFails hr hd
  | true =>
    obtain ⟨m, z, hd', rfl⟩ := hrun.decided hlater he
    cases he
    exact .sequence hr hd hd'

theorem Runs.spaced_derived (hr : g.rule? id = some (.spaced a b))
    (h : Runs g (.ofRule g active x (.spaced a b)) c e)
    (heach : c.Each fun b _ e => Derived g b e) : Derived g ⟨id, active, x⟩ e := by
  intro matched he
  obtain ⟨m, y, later, -, hd, hrun, hlater⟩ := h.attempt_derived heach he
  cases m with
  | false =>
    obtain ⟨-, rfl⟩ := hrun.finish_inv
    cases he
    exact .spacedFails hr hd
  | true =>
    obtain ⟨m, z, later, -, hspace, hrun, hlater⟩ := hrun.attempt_derived hlater he
    cases m with
    | false =>
      obtain ⟨-, rfl⟩ := hrun.finish_inv
      cases he
      exact .spacedFailsSpace hr hd hspace
    | true =>
      obtain ⟨m, w, hd', rfl⟩ := hrun.decided hlater he
      cases he
      exact .spaced hr hd hspace hd'

theorem Runs.choice_derived (hr : g.rule? id = some (.choice a b))
    (h : Runs g (.ofRule g active x (.choice a b)) c e)
    (heach : c.Each fun b _ e => Derived g b e) : Derived g ⟨id, active, x⟩ e := by
  intro matched he
  obtain ⟨m, y, later, -, hd, hrun, hlater⟩ := h.attempt_derived heach he
  cases m with
  | true =>
    obtain ⟨-, rfl⟩ := hrun.finish_inv
    cases he
    exact .choiceFirst hr hd
  | false =>
    obtain ⟨m, z, hd', rfl⟩ := hrun.decided hlater he
    cases he
    cases matched <;> exact .choiceSecond hr hd hd'

theorem Runs.oneOrMore_derived (hr : g.rule? id = some (.oneOrMore a))
    (h : Runs g (.ofRule g active x (.oneOrMore a)) c e)
    (heach : c.Each fun b _ e => Derived g b e) : Derived g ⟨id, active, x⟩ e := by
  intro matched he
  obtain ⟨n, y, later, -, hrun, hzero, hpos⟩ := h.repeating_derived heach he
  obtain ⟨-, rfl⟩ := hrun.finish_inv
  cases n with
  | zero =>
    cases he
    exact .oneOrMoreFails hr (hzero rfl)
  | succ n =>
    obtain ⟨z, hd, hmany⟩ := hpos (Nat.succ_pos n)
    have hcount : decide (0 + (n + 1) > 0) = true := decide_eq_true (by omega)
    rw [hcount] at he ⊢
    cases he
    exact .oneOrMore hr hd hmany

theorem Runs.reference_derived {name : String} (hr : g.rule? id = some (.reference name))
    (h : Runs g (.ofRule g active x (.reference name)) c e)
    (heach : c.Each fun b _ e => Derived g b e) : Derived g ⟨id, active, x⟩ e := by
  intro matched he
  simp only [Plan.ofRule] at h
  split at h
  · next hactive =>
    obtain ⟨-, rfl⟩ := h.finish_inv
    cases he
    cases hactive
    exact .refused hr
  · next hactive =>
    split at h
    · obtain ⟨-, rfl⟩ := h.finish_inv
      cases he
    · next a ha =>
      obtain ⟨m, y, hd, rfl⟩ := h.decided heach he
      cases he
      cases matched <;> exact .reference hr hactive ha hd

end

/-- The answer that a plan of a rule comes to is derived when those of the attempts inside are. -/
theorem Runs.rule_derived {r : Rule σ} (hr : g.rule? t.rule = some r)
    (h : Runs g (g.plan t) c e) (heach : c.Each fun b _ e => Derived g b e) : Derived g t e := by
  obtain ⟨id, active, x⟩ := t
  rw [plan_of_rule hr] at h
  intro matched he
  cases r with
  | literal text => exact h.literal_derived hr matched he
  | range lo hi => exact h.range_derived hr matched he
  | pattern source finder => exact h.pattern_derived hr matched he
  | not a =>
    obtain ⟨m, y, hd, rfl⟩ := h.decided heach he
    cases he
    cases m with
    | true => exact .notFails hr hd
    | false => exact .not hr hd
  | endOfInput a => exact h.endOfInput_derived hr heach matched he
  | sequence a b => exact h.sequence_derived hr heach matched he
  | spaced a b => exact h.spaced_derived hr heach matched he
  | choice a b => exact h.choice_derived hr heach matched he
  | zeroOrMore a =>
    obtain ⟨n, y, later, hmany, hrun, -, -⟩ := h.repeating_derived heach he
    obtain ⟨-, rfl⟩ := hrun.finish_inv
    cases he
    exact .zeroOrMore hr hmany
  | oneOrMore a => exact h.oneOrMore_derived hr heach matched he
  | optional a =>
    obtain ⟨m, y, hd, rfl⟩ := h.decided heach he
    cases he
    cases m with
    | true => exact .optional hr hd
    | false => exact .optionalAbsent hr hd
  | reference name => exact h.reference_derived hr heach matched he
  | action a run =>
    obtain ⟨m, y, hd, rfl⟩ := h.decided heach he
    cases he
    cases matched <;> exact .action hr hd

/-- The semantics gives every attempt its answer. -/
theorem Runs.derived (h : Runs g (g.plan t) c e) : Derived g t e := by
  apply h.attempt_induction (P := fun t _ e => Derived g t e)
  intro t inside e hrun heach
  cases hr : g.rule? t.rule with
  | some r => exact hrun.rule_derived hr heach
  | none =>
    rw [plan_of_missing hr] at hrun
    obtain ⟨-, rfl⟩ := hrun.finish_inv
    intro matched he
    cases he

theorem Answers.derived {input y : List Char} {l : List Capture}
    (h : Answers g input t matched y l) :
    Derives g (.once t.active t.rule) t.rest (outcome matched y) := by
  obtain ⟨c, hrun, -⟩ := h
  exact hrun.derived matched rfl

end

section

/-! ## What is derived comes about -/

/-- Attempts have the answer that a goal asks for. What a failed one leaves of the text is open. -/
def Met (g : Arena σ) (input : List Char) : Goal → List Char → Option (List Char) → Prop
  | .once active id, x, r =>
    ∃ y l, Answers g input ⟨id, active, x⟩ r.isSome y l ∧ ∀ z ∈ r, y = z
  | .many active a, x, r => ∃ n y l, r = some y ∧ Repeats g input active a x n y l

variable {g : Arena σ} {input x y z : List Char} {r : Option (List Char)} {active : Option String}
  {id a : RuleId} {l m : List Capture}

theorem Met.of_matched (h : Answers g input ⟨id, active, x⟩ true y l) :
    Met g input (.once active id) x (some y) := by
  refine ⟨y, l, h, ?_⟩
  intro z hz
  cases hz
  rfl

theorem Met.of_failed (h : Answers g input ⟨id, active, x⟩ false y l) :
    Met g input (.once active id) x none := by
  refine ⟨y, l, h, ?_⟩
  intro z hz
  cases hz

theorem Met.matched (h : Met g input (.once active id) x (some y)) :
    ∃ l, Answers g input ⟨id, active, x⟩ true y l := by
  obtain ⟨z, l, h, hz⟩ := h
  cases hz y rfl
  exact ⟨l, h⟩

theorem Met.failed (h : Met g input (.once active id) x none) :
    ∃ y l, Answers g input ⟨id, active, x⟩ false y l := by
  obtain ⟨y, l, h, -⟩ := h
  exact ⟨y, l, h⟩

/-- An attempt whose answer is that of another attempt at the same place. -/
theorem Met.mono {b : RuleId} {active' : Option String} (h : Met g input (.once active' a) y r)
    (hmatched : ∀ {z l}, Answers g input ⟨a, active', y⟩ true z l →
      ∃ m, Answers g input ⟨b, active, x⟩ true z m)
    (hfailed : ∀ {z l}, Answers g input ⟨a, active', y⟩ false z l →
      ∃ w m, Answers g input ⟨b, active, x⟩ false w m) :
    Met g input (.once active b) x r := by
  cases r with
  | some z =>
    obtain ⟨l, h⟩ := h.matched
    obtain ⟨m, h'⟩ := hmatched h
    exact .of_matched h'
  | none =>
    obtain ⟨z, l, h⟩ := h.failed
    obtain ⟨w, m, h'⟩ := hfailed h
    exact .of_failed h'

/-- Where a rule reads nothing, its repetition reads nothing. -/
theorem Repeats.of_idle {n : Nat} (h : Answers g input ⟨a, active, x⟩ true x l)
    (h' : Repeats g input active a x n y m) : y = x ∧ n = 1 := by
  cases h' with
  | stop hstop =>
    obtain ⟨hm, -⟩ := h.unique hstop
    cases hm
  | idle _ => exact ⟨rfl, rfl⟩
  | step hstep hne _ =>
    obtain ⟨-, rfl, -⟩ := h.unique hstep
    exact absurd rfl hne

/-- A match and then as many more as there are make a repetition. -/
theorem Repeats.after {n : Nat} (h : Answers g input ⟨a, active, x⟩ true y l)
    (h' : Repeats g input active a y n z m) : ∃ n m, Repeats g input active a x (n + 1) z m := by
  -- a first match of nothing ends the repetition, where the semantics asks once more
  by_cases hyx : y = x
  · subst hyx
    obtain ⟨rfl, rfl⟩ := Repeats.of_idle h h'
    exact ⟨0, l, .idle h⟩
  · exact ⟨n, l ++ m, .step h hyx h'⟩

theorem Derives.met {goal : Goal} (h : Derives g goal x r) (input : List Char) :
    Met g input goal x r := by
  induction h with
  | literal hr => exact .of_matched (.literal hr)
  | literalFails hr hx => exact .of_failed (.literal_fails hr hx)
  | range hr hlo hhi => exact .of_matched (.range hr hlo hhi)
  | rangeFails hr hx => exact .of_failed (.range_fails hr hx)
  | pattern hr hcount => exact .of_matched (.pattern hr hcount (after?_append _ _))
  | patternFails hr hnone => exact .of_failed (.pattern_fails hr hnone)
  | not hr _ ih =>
    obtain ⟨y, l, h⟩ := ih.failed
    exact .of_matched (.not hr h)
  | notFails hr _ ih =>
    obtain ⟨l, h⟩ := ih.matched
    exact .of_failed (.not hr h)
  | endOfInput hr _ ih =>
    obtain ⟨l, h⟩ := ih.matched
    exact .of_matched (.endOfInput hr h)
  | @endOfInputFails active id a x r hr _ hne ih =>
    obtain ⟨y, l, h, hy⟩ := ih
    refine .of_failed (.endOfInput_fails hr h ?_)
    rintro hsome rfl
    obtain ⟨z, rfl⟩ := Option.isSome_iff_exists.1 hsome
    rw [← hy z rfl] at hne
    exact hne rfl
  | sequence hr _ _ ih₁ ih₂ =>
    obtain ⟨l, h⟩ := ih₁.matched
    exact ih₂.mono (fun h' => ⟨_, .sequence hr h h'⟩) (fun h' => ⟨_, _, .sequence hr h h'⟩)
  | sequenceFails hr _ ih =>
    obtain ⟨y, l, h⟩ := ih.failed
    exact .of_failed (.sequence_fails hr h)
  | spaced hr _ _ _ ih₁ ih₂ ih₃ =>
    obtain ⟨l, h⟩ := ih₁.matched
    obtain ⟨m, hspace⟩ := ih₂.matched
    exact ih₃.mono (fun h' => ⟨_, .spaced hr h hspace h'⟩)
      (fun h' => ⟨_, _, .spaced hr h hspace h'⟩)
  | spacedFails hr _ ih =>
    obtain ⟨y, l, h⟩ := ih.failed
    exact .of_failed (.spaced_fails hr h)
  | spacedFailsSpace hr _ _ ih₁ ih₂ =>
    obtain ⟨l, h⟩ := ih₁.matched
    obtain ⟨z, m, hspace⟩ := ih₂.failed
    exact .of_failed (.spaced_fails_space hr h hspace)
  | choiceFirst hr _ ih =>
    obtain ⟨l, h⟩ := ih.matched
    exact .of_matched (.choice_first hr h)
  | choiceSecond hr _ _ ih₁ ih₂ =>
    obtain ⟨y, l, h⟩ := ih₁.failed
    exact ih₂.mono (fun h' => ⟨_, .choice_second hr h h'⟩)
      (fun h' => ⟨_, _, .choice_second hr h h'⟩)
  | zeroOrMore hr _ ih =>
    obtain ⟨n, y, l, rfl, h⟩ := ih
    exact .of_matched (.zeroOrMore hr h)
  | oneOrMore hr _ _ ih₁ ih₂ =>
    obtain ⟨l, h⟩ := ih₁.matched
    obtain ⟨n, z, m, rfl, hmany⟩ := ih₂
    obtain ⟨n, m, hall⟩ := hmany.after h
    exact .of_matched (.oneOrMore hr hall)
  | oneOrMoreFails hr _ ih =>
    obtain ⟨y, l, h⟩ := ih.failed
    exact .of_failed (.oneOrMore_fails hr h)
  | optional hr _ ih =>
    obtain ⟨l, h⟩ := ih.matched
    exact .of_matched (.optional hr h)
  | optionalAbsent hr _ ih =>
    obtain ⟨y, l, h⟩ := ih.failed
    exact .of_matched (.optional hr h)
  | refused hr => exact .of_failed (.refused hr)
  | reference hr hactive ha _ ih =>
    exact ih.mono (fun h => ⟨_, .reference hr hactive ha h⟩)
      (fun h => ⟨_, _, .reference hr hactive ha h⟩)
  | action hr _ ih =>
    exact ih.mono (fun h => ⟨_, .action hr h⟩) (fun h => ⟨_, _, .action_fails hr h⟩)
  | manyStop _ ih =>
    obtain ⟨y, l, h⟩ := ih.failed
    exact ⟨0, _, l, rfl, .stop h⟩
  | manyIdle _ ih =>
    obtain ⟨l, h⟩ := ih.matched
    exact ⟨1, _, l, rfl, .idle h⟩
  | manyStep _ hne _ ih₁ ih₂ =>
    obtain ⟨l, h⟩ := ih₁.matched
    obtain ⟨n, z, m, rfl, hmany⟩ := ih₂
    exact ⟨n + 1, z, l ++ m, rfl, .step h hne hmany⟩

/-- What is derived for a rule is derived only so. -/
theorem Derives.unique {r' : Option (List Char)} (h : Derives g (.once active id) x r)
    (h' : Derives g (.once active id) x r') : r' = r := by
  obtain ⟨y, l, hmet, hy⟩ := h.met x
  obtain ⟨z, m, hmet', hz⟩ := h'.met x
  obtain ⟨hsome, rfl, -⟩ := hmet.unique hmet'
  cases r <;> cases r' <;> simp_all

/-! ## Matching and the semantics -/

/-- An answer is derived. -/
theorem eval_derived {s t : MatchState} {matched : Bool}
    (h : Match.eval g id s = .ok matched t) :
    Derives g (.once s.active id) s.cursor.rest (outcome matched t.cursor.rest) := by
  obtain ⟨inside, hrun, -⟩ := Peg.eval_ok h
  exact hrun.derived matched rfl

/-- What is derived is the answer. -/
theorem Derives.eval_ok {s : MatchState} (h : Derives g (.once s.active id) s.cursor.rest r) :
    ∃ t, Match.eval g id s = .ok r.isSome t ∧ ∀ y ∈ r, t.cursor.rest = y := by
  obtain ⟨y, l, hmet, hy⟩ := h.met s.cursor.input
  obtain ⟨t, hres, ht, -⟩ := Answers.eval_ok hmet
  exact ⟨t, hres, fun z hz => ht.trans (hy z hz)⟩

/-- Matching has an answer where the semantics has one, and no other. It ends where the semantics
leaves the text, and a failure is a failure whatever it leaves. -/
theorem matching_agrees_with_the_semantics (g : Arena σ) (id : RuleId) (s : MatchState) :
    (∀ q, (∃ t, Match.eval g id s = .ok true t ∧ t.position = q) ↔
      ∃ y, Derives g (.once s.active id) s.cursor.rest (some y) ∧ offset s.cursor.input y = q) ∧
    ((∃ t, Match.eval g id s = .ok false t) ↔
      Derives g (.once s.active id) s.cursor.rest none) := by
  constructor
  · intro q
    constructor
    · rintro ⟨t, hres, rfl⟩
      obtain ⟨inside, hrun, hreach⟩ := eval_ok hres
      refine ⟨t.cursor.rest, hrun.derived true rfl, ?_⟩
      rw [← hreach.input]
      exact t.cursor.position_eq.symm
    · rintro ⟨y, hy, rfl⟩
      obtain ⟨l, c, hrun, -⟩ := (hy.met s.cursor.input).matched
      obtain ⟨t, hres, hreach⟩ := Runs.eval_ok (s := s) hrun
      refine ⟨t, hres, ?_⟩
      rw [← hreach.input, ← hreach.rest]
      exact t.cursor.position_eq
  · constructor
    · rintro ⟨t, hres⟩
      obtain ⟨inside, hrun, -⟩ := eval_ok hres
      exact hrun.derived false rfl
    · intro h
      obtain ⟨y, l, c, hrun, -⟩ := (h.met s.cursor.input).failed
      obtain ⟨t, hres, -⟩ := Runs.eval_ok (s := s) hrun
      exact ⟨t, hres⟩

end

end Peg
