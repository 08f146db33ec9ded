-- How the answer of each form of rule, and the captures with it, come about from the answers of
-- its parts.
import Peg.Proofs.CharOrder
import Peg.Proofs.Nesting

namespace Peg

open Text

variable {σ : Type}

/-- A plan comes to an ending and leaves captures behind. -/
def Does (g : Arena σ) (input : List Char) (p : Plan) (e : Ending) (captures : List Capture) :
    Prop :=
  ∃ c, Runs g p c e ∧ c.captures g input = captures

/-- An attempt has an answer, with the text that is left then, and leaves captures behind. -/
def Answers (g : Arena σ) (input : List Char) (t : Attempt) (matched : Bool) (rest : List Char)
    (captures : List Capture) : Prop :=
  ∃ c, Runs g (g.plan t) c ⟨.ok matched, rest⟩ ∧
    g.recorded input t ⟨.ok matched, rest⟩ (c.captures g input) = captures

section

variable {g : Arena σ} {input : List Char} {e : Ending} {x y z w : List Char} {id a b : RuleId}
  {active : Option String} {matched : Bool} {k l m : List Capture}

/-- An attempt has no more than one answer. -/
theorem Answers.unique {t : Attempt} {matched' : Bool} (h : Answers g input t matched y l)
    (h' : Answers g input t matched' z m) : matched' = matched ∧ z = y ∧ m = l := by
  obtain ⟨c, hrun, rfl⟩ := h
  obtain ⟨c', hrun', rfl⟩ := h'
  obtain ⟨rfl, he⟩ := hrun.unique hrun'
  cases he
  exact ⟨rfl, rfl, rfl⟩

theorem Answers.rest_suffix {t : Attempt} (h : Answers g input t matched y l) : y <:+ t.rest := by
  obtain ⟨c, hrun, -⟩ := h
  exact hrun.rest_suffix

/-! ## Plans -/

theorem Does.finish : Does g input (.finish e) e [] := ⟨.none, .finish e, rfl⟩

theorem Does.attempt {t : Attempt} {next : Bool → List Char → Plan}
    (h : Answers g input t matched y l) (h' : Does g input (next matched y) e m) :
    Does g input (.attempt t next) e (l ++ m) := by
  obtain ⟨c, hrun, rfl⟩ := h
  obtain ⟨c', hrun', rfl⟩ := h'
  exact ⟨_, .attempt hrun hrun', rfl⟩

/-- An attempt with nothing left to do behind it. -/
theorem Does.attempt_finish {t : Attempt} {next : Bool → List Char → Plan}
    (h : Answers g input t matched y l) (hnext : next matched y = .finish e) :
    Does g input (.attempt t next) e l := by
  rw [← List.append_nil l]
  apply Does.attempt h
  rw [hnext]
  exact .finish

/-- A rule other than an action leaves behind what its plan does. -/
theorem Answers.of_plan {r : Rule σ} (hr : g.rule? id = some r) (hne : ∀ a run, r ≠ .action a run)
    (h : Does g input (.ofRule g active x r) ⟨.ok matched, y⟩ l) :
    Answers g input ⟨id, active, x⟩ matched y l := by
  obtain ⟨c, hrun, rfl⟩ := h
  refine ⟨c, ?_, ?_⟩
  · rwa [plan_of_rule (a := ⟨id, active, x⟩) hr]
  · rw [Arena.recorded_of_ne_action (a := ⟨id, active, x⟩) hr hne]

/-- A rule that ends at once leaves no captures behind. -/
theorem Answers.of_finish {r : Rule σ} (hr : g.rule? id = some r) (hne : ∀ a run, r ≠ .action a run)
    (h : Plan.ofRule g active x r = .finish ⟨.ok matched, y⟩) :
    Answers g input ⟨id, active, x⟩ matched y [] := by
  apply Answers.of_plan hr hne
  rw [h]
  exact .finish

/-! ## Text -/

theorem Answers.literal {text : String} (hr : g.rule? id = some (.literal text)) :
    Answers g input ⟨id, active, text.toList ++ y⟩ true y [] := by
  apply Answers.of_finish hr (by simp)
  have hy : text.toList.isPrefixOf? (text.toList ++ y) = some y :=
    List.isPrefixOf?_eq_some_iff_append_eq.2 rfl
  simp only [Plan.ofRule, hy]
  rfl

theorem Answers.literal_fails {text : String} (hr : g.rule? id = some (.literal text))
    (h : ¬ text.toList <+: x) : Answers g input ⟨id, active, x⟩ false x [] := by
  apply Answers.of_finish hr (by simp)
  have hnone : text.toList.isPrefixOf? x = none := by
    cases hx : text.toList.isPrefixOf? x with
    | none => rfl
    | some y => exact absurd ⟨y, List.append_eq_of_isPrefixOf?_eq_some hx⟩ h
  simp only [Plan.ofRule, hnone]
  rfl

theorem Answers.range {lo hi c : Char} (hr : g.rule? id = some (.range lo hi)) (hlo : lo ≤ c)
    (hhi : c ≤ hi) : Answers g input ⟨id, active, c :: y⟩ true y [] := by
  apply Answers.of_finish hr (by simp)
  simp only [Plan.ofRule, Match.inRange_eq_true_iff.2 ⟨hlo, hhi⟩, if_true]
  rfl

theorem Answers.range_fails {lo hi : Char} (hr : g.rule? id = some (.range lo hi))
    (h : ∀ c ∈ x.head?, ¬ (lo ≤ c ∧ c ≤ hi)) : Answers g input ⟨id, active, x⟩ false x [] := by
  apply Answers.of_finish hr (by simp)
  cases x with
  | nil => rfl
  | cons c y =>
    have hc : ¬ Match.inRange lo hi c = true := fun hc => h c rfl (Match.inRange_eq_true_iff.1 hc)
    simp only [Plan.ofRule, if_neg hc]
    rfl

theorem Answers.pattern {source : String} {finder : Option Regex.Finder} {count : Nat}
    (hr : g.rule? id = some (.pattern source finder))
    (hcount : finder.bind (·.findEnd? x) = some count) (hy : after? count x = some y) :
    Answers g input ⟨id, active, x⟩ true y [] := by
  apply Answers.of_finish hr (by simp)
  simp only [Plan.ofRule, hcount, hy]
  rfl

theorem Answers.pattern_fails {source : String} {finder : Option Regex.Finder}
    (hr : g.rule? id = some (.pattern source finder))
    (hnone : finder.bind (·.findEnd? x) = none) : Answers g input ⟨id, active, x⟩ false x [] := by
  apply Answers.of_finish hr (by simp)
  simp only [Plan.ofRule, hnone]
  rfl

/-! ## Lookahead -/

theorem Answers.not (hr : g.rule? id = some (.not a))
    (h : Answers g input ⟨a, active, x⟩ matched y l) :
    Answers g input ⟨id, active, x⟩ (!matched) x l :=
  .of_plan hr (by simp) (.attempt_finish h rfl)

theorem Answers.endOfInput (hr : g.rule? id = some (.endOfInput a))
    (h : Answers g input ⟨a, active, x⟩ true [] l) : Answers g input ⟨id, active, x⟩ true [] l :=
  .of_plan hr (by simp) (.attempt_finish h rfl)

theorem Answers.endOfInput_fails (hr : g.rule? id = some (.endOfInput a))
    (h : Answers g input ⟨a, active, x⟩ matched y l) (hy : matched = true → y ≠ []) :
    Answers g input ⟨id, active, x⟩ false x l := by
  apply Answers.of_plan hr (by simp)
  apply Does.attempt_finish h
  cases matched with
  | false => rfl
  | true =>
    cases y with
    | nil => exact absurd rfl (hy rfl)
    | cons c y => rfl

/-! ## Sequences -/

theorem Answers.sequence (hr : g.rule? id = some (.sequence a b))
    (h : Answers g input ⟨a, active, x⟩ true y l)
    (h' : Answers g input ⟨b, active, y⟩ matched z m) :
    Answers g input ⟨id, active, x⟩ matched z (l ++ m) :=
  .of_plan hr (by simp) (.attempt h (.attempt_finish h' rfl))

theorem Answers.sequence_fails (hr : g.rule? id = some (.sequence a b))
    (h : Answers g input ⟨a, active, x⟩ false y l) : Answers g input ⟨id, active, x⟩ false y l :=
  .of_plan hr (by simp) (.attempt_finish h rfl)

theorem Answers.spaced (hr : g.rule? id = some (.spaced a b))
    (h : Answers g input ⟨a, active, x⟩ true y k)
    (hspace : Answers g input ⟨g.whitespace, active, y⟩ true z l)
    (h' : Answers g input ⟨b, active, z⟩ matched w m) :
    Answers g input ⟨id, active, x⟩ matched w (k ++ (l ++ m)) :=
  .of_plan hr (by simp) (.attempt h (.attempt hspace (.attempt_finish h' rfl)))

theorem Answers.spaced_fails (hr : g.rule? id = some (.spaced a b))
    (h : Answers g input ⟨a, active, x⟩ false y l) : Answers g input ⟨id, active, x⟩ false y l :=
  .of_plan hr (by simp) (.attempt_finish h rfl)

theorem Answers.spaced_fails_space (hr : g.rule? id = some (.spaced a b))
    (h : Answers g input ⟨a, active, x⟩ true y l)
    (hspace : Answers g input ⟨g.whitespace, active, y⟩ false z m) :
    Answers g input ⟨id, active, x⟩ false z (l ++ m) :=
  .of_plan hr (by simp) (.attempt h (.attempt_finish hspace rfl))

/-! ## Alternatives -/

theorem Answers.choice_first (hr : g.rule? id = some (.choice a b))
    (h : Answers g input ⟨a, active, x⟩ true y l) : Answers g input ⟨id, active, x⟩ true y l :=
  .of_plan hr (by simp) (.attempt_finish h rfl)

/-- The second alternative is for where the first one has failed. Captures of the first one stay. -/
theorem Answers.choice_second (hr : g.rule? id = some (.choice a b))
    (h : Answers g input ⟨a, active, x⟩ false y l)
    (h' : Answers g input ⟨b, active, x⟩ matched z m) :
    Answers g input ⟨id, active, x⟩ matched (if matched then z else x) (l ++ m) :=
  .of_plan hr (by simp) (.attempt h (.attempt_finish h' rfl))

theorem Answers.optional (hr : g.rule? id = some (.optional a))
    (h : Answers g input ⟨a, active, x⟩ matched y l) :
    Answers g input ⟨id, active, x⟩ true (if matched then y else x) l :=
  .of_plan hr (by simp) (.attempt_finish h rfl)

/-! ## Repetition -/

/-- A rule matches so many times, one match after another, until it fails or reads nothing. -/
inductive Repeats (g : Arena σ) (input : List Char) (active : Option String) (a : RuleId) :
    List Char → Nat → List Char → List Capture → Prop where
  | stop {x y : List Char} {l : List Capture} :
    Answers g input ⟨a, active, x⟩ false y l → Repeats g input active a x 0 x l
  | idle {x : List Char} {l : List Capture} :
    Answers g input ⟨a, active, x⟩ true x l → Repeats g input active a x 1 x l
  | step {x y z : List Char} {l m : List Capture} {count : Nat} :
    Answers g input ⟨a, active, x⟩ true y l → y ≠ x → Repeats g input active a y count z m →
      Repeats g input active a x (count + 1) z (l ++ m)

theorem Answers.length_lt {t : Attempt} (h : Answers g input t matched y l) (hne : y ≠ t.rest) :
    y.length < t.rest.length := by
  have hle := h.rest_suffix.length_le
  have hlt : y.length ≠ t.rest.length := fun hlen => hne (h.rest_suffix.eq_of_length hlen)
  omega

theorem Repeats.does {count : Nat} (h : Repeats g input active a x count y l)
    {done : Nat → List Char → Plan} {before : Nat}
    (hdone : Does g input (done (before + count) y) e m) :
    Does g input (.repeating ⟨a, active, x⟩ done before) e (l ++ m) := by
  induction h generalizing before with
  | stop h =>
    rw [Plan.repeating]
    exact .attempt h hdone
  | @idle x l h =>
    rw [Plan.repeating]
    apply Does.attempt h
    rw [if_pos rfl, if_neg (Nat.lt_irrefl _)]
    exact hdone
  | @step x y z l l' count h hne _ ih =>
    rw [Plan.repeating, List.append_assoc]
    apply Does.attempt h
    rw [if_pos rfl, if_pos (h.length_lt hne)]
    apply ih
    rwa [Nat.add_assoc, Nat.add_comm 1 count]

theorem Answers.zeroOrMore (hr : g.rule? id = some (.zeroOrMore a)) {count : Nat}
    (h : Repeats g input active a x count y l) : Answers g input ⟨id, active, x⟩ true y l := by
  apply Answers.of_plan hr (by simp)
  rw [← List.append_nil l]
  exact h.does .finish

theorem Answers.oneOrMore (hr : g.rule? id = some (.oneOrMore a)) {count : Nat}
    (h : Repeats g input active a x (count + 1) y l) :
    Answers g input ⟨id, active, x⟩ true y l := by
  apply Answers.of_plan hr (by simp)
  rw [← List.append_nil l]
  apply h.does
  have hcount : decide (0 + (count + 1) > 0) = true := decide_eq_true (by omega)
  rw [hcount]
  exact .finish

theorem Answers.oneOrMore_fails (hr : g.rule? id = some (.oneOrMore a))
    (h : Answers g input ⟨a, active, x⟩ false y l) : Answers g input ⟨id, active, x⟩ false x l := by
  apply Answers.of_plan hr (by simp)
  rw [← List.append_nil l]
  exact (Repeats.stop h).does .finish

/-! ## Names and actions -/

theorem Answers.refused {name : String} (hr : g.rule? id = some (.reference name)) :
    Answers g input ⟨id, some name, x⟩ false x [] := by
  apply Answers.of_finish hr (by simp)
  simp only [Plan.ofRule, if_true]
  rfl

theorem Answers.reference {name : String} (hr : g.rule? id = some (.reference name))
    (hactive : active ≠ some name) (ha : g.named? name = some a)
    (h : Answers g input ⟨a, some name, x⟩ matched y l) :
    Answers g input ⟨id, active, x⟩ matched (if matched then y else x) l := by
  apply Answers.of_plan hr (by simp)
  simp only [Plan.ofRule, if_neg hactive, ha]
  exact .attempt_finish h rfl

theorem Answers.action {run : Action σ} (hr : g.rule? id = some (.action a run))
    (h : Answers g input ⟨a, active, x⟩ true y l) :
    Answers g input ⟨id, active, x⟩ true y (l ++ [.between input x y id]) := by
  obtain ⟨c, hrun, hc⟩ : Does g input (.ofRule g active x (.action a run)) (.matched y) l :=
    .attempt_finish h rfl
  refine ⟨c, ?_, ?_⟩
  · rwa [plan_of_rule (a := ⟨id, active, x⟩) hr]
  · simp [Arena.recorded, hr, hc]

/-- An action that fails drops the captures that were made inside of it. -/
theorem Answers.action_fails {run : Action σ} (hr : g.rule? id = some (.action a run))
    (h : Answers g input ⟨a, active, x⟩ false y l) :
    Answers g input ⟨id, active, x⟩ false x [] := by
  obtain ⟨c, hrun, -⟩ : Does g input (.ofRule g active x (.action a run)) (.failed x) l :=
    .attempt_finish h rfl
  refine ⟨c, ?_, ?_⟩
  · rwa [plan_of_rule (a := ⟨id, active, x⟩) hr]
  · simp [Arena.recorded, hr]

/-! ## Matches -/

/-- A match comes to the answer of its attempt, and adds the captures of it. -/
theorem Answers.eval_ok {s : MatchState}
    (h : Answers g s.cursor.input (s.attempt id) matched y l) :
    ∃ t, Match.eval g id s = .ok matched t ∧ t.cursor.rest = y ∧ t.captures = s.captures ++ l := by
  obtain ⟨c, hrun, hl⟩ := h
  obtain ⟨t, hres, hreach⟩ := hrun.eval_ok
  refine ⟨t, hres, hreach.rest, ?_⟩
  rw [hreach.captures]
  simp only [Course.captures, List.append_nil, hl]

end

end Peg
