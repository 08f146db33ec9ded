-- What a match leaves behind, read off the attempts that it made: its captures, its log, and how
-- deep it is when it stops.
import Peg.Proofs.Steps

namespace Peg

open Text

variable {σ : Type}

/-! ## Captures -/

/-- The capture of a rule from where `x` was left of the text to where `y` is. It is as long as
what was read in between. -/
def Capture.between (input x y : List Char) (rule : RuleId) : Capture :=
  ⟨⟨input, offset input x, offset input x + (byteLength x - byteLength y), Nat.le_add_right _ _⟩,
    rule⟩

/-- The captures of an attempt, by those of the attempts inside of it. An action that has matched
adds its own behind them, and one that has failed drops them. -/
def Arena.recorded (g : Arena σ) (input : List Char) (a : Attempt) (e : Ending)
    (inside : List Capture) : List Capture :=
  match g.rule? a.rule, e.answer with
  | some (.action _ _), .ok true => inside ++ [.between input a.rest e.rest a.rule]
  | some (.action _ _), .ok false => []
  | _, _ => inside

/-- Only actions make captures of their own, and drop any. -/
theorem Arena.recorded_of_ne_action {g : Arena σ} {a : Attempt} {r : Rule σ}
    (hr : g.rule? a.rule = some r) (hne : ∀ b run, r ≠ .action b run) (input : List Char)
    (e : Ending) (inside : List Capture) : g.recorded input a e inside = inside := by
  rw [recorded, hr]
  cases r with
  | action b run => exact absurd rfl (hne b run)
  | _ => rfl

/-- The captures of all attempts, in the order in which these were made. -/
def Course.captures (g : Arena σ) (input : List Char) : Course → List Capture
  | .none => []
  | .made a inside e later =>
    g.recorded input a e (inside.captures g input) ++ later.captures g input

/-! ## Log and depth -/

/-- The name of a rule that is a reference to the active name. -/
def Rule.refusedName (active : Option String) : Rule σ → Option String
  | .reference name => if active = some name then some name else none
  | _ => none

/-- What is reported when a rule has an answer: that it was refused, if it was, and the answer. -/
def Rule.report (r : Rule σ) (depth : Nat) (active : Option String) (matched : Bool) :
    List LogEntry :=
  (r.refusedName active).toList.map (.blocked depth) ++ [.left depth r.label matched]

/-- What is reported of an attempt at depth `depth`, with the reports from inside of it. -/
def Arena.reports (g : Arena σ) (depth : Nat) (a : Attempt) (e : Ending)
    (inside : List LogEntry) : List LogEntry :=
  match g.rule? a.rule, e.answer with
  | none, _ => []
  | some r, .ok matched => .entered depth r.label :: inside ++ r.report depth a.active matched
  | some r, .error _ => .entered depth r.label :: inside

/-- What is reported of all attempts that are made at depth `depth`. -/
def Course.log (g : Arena σ) : Nat → Course → List LogEntry
  | _, .none => []
  | depth, .made a inside e later =>
    g.reports (depth + 1) a e (inside.log g (depth + 1)) ++ later.log g depth

/-- The number of rules that were entered and not left, because an attempt has stopped. -/
def Course.unclosed (g : Arena σ) : Course → Nat
  | .none => 0
  | .made a inside e later =>
    (match e.answer, g.rule? a.rule with
      | .error _, some _ => inside.unclosed g + 1
      | _, _ => 0) + later.unclosed g

/-- How many attempts stand inside each other. -/
def Course.height : Course → Nat
  | .none => 0
  | .made _ inside _ later => max (inside.height + 1) later.height

/-! ## The state behind a course -/

/-- `t` is the state that is reached from `s` by a course of attempts, with `y` as what is left of
the text. -/
structure Reaches (g : Arena σ) (s : MatchState) (c : Course) (y : List Char) (t : MatchState) :
    Prop where
  input : t.cursor.input = s.cursor.input
  rest : t.cursor.rest = y
  captures : t.captures = s.captures ++ c.captures g s.cursor.input
  active : t.active = s.active
  depth : t.depth = s.depth + c.unclosed g
  trace : t.trace = s.trace
  log : t.log = (if s.trace then (c.log g s.depth).reverse else []) ++ s.log

/-- A match has come to an ending by a course of attempts. -/
def Ends (g : Arena σ) (s : MatchState) (c : Course) (e : Ending) :
    EStateM.Result Halt MatchState Bool → Prop
  | .ok matched t => e.answer = .ok matched ∧ Reaches g s c e.rest t
  | .error halt t =>
    ∃ stop, e.answer = .error stop ∧ halt = stop.halt s.cursor.input e.rest ∧ Reaches g s c e.rest t

/-- A match has run out of fuel. -/
def Exhausted (result : EStateM.Result Halt MatchState Bool) : Prop :=
  ∃ t, result = .error .outOfFuel t

/-- A course that has an ending does not run out of fuel. -/
theorem Ends.not_exhausted {g : Arena σ} {s : MatchState} {c : Course} {e : Ending}
    {result : EStateM.Result Halt MatchState Bool} (h : Ends g s c e result) :
    ¬ Exhausted result := by
  rintro ⟨t, rfl⟩
  obtain ⟨stop, -, hhalt, -⟩ := h
  cases stop <;> cases hhalt

section

variable {g : Arena σ} {s : MatchState} {c : Course} {e : Ending}
  {result : EStateM.Result Halt MatchState Bool}

/-- A match that comes to an ending with an answer has this answer. -/
theorem Ends.answered (h : Ends g s c e result) {matched : Bool} (he : e.answer = .ok matched) :
    ∃ t, result = .ok matched t ∧ Reaches g s c e.rest t := by
  cases result with
  | ok answer t =>
    obtain ⟨hanswer, hreach⟩ := h
    rw [he] at hanswer
    cases hanswer
    exact ⟨t, rfl, hreach⟩
  | error halt t =>
    obtain ⟨stop, hstop, -⟩ := h
    rw [he] at hstop
    cases hstop

/-- A match that comes to an ending without an answer halts for the same reason. -/
theorem Ends.halted (h : Ends g s c e result) {stop : Stop} (he : e.answer = .error stop) :
    ∃ t, result = .error (stop.halt s.cursor.input e.rest) t ∧ Reaches g s c e.rest t := by
  cases result with
  | ok answer t =>
    obtain ⟨hanswer, -⟩ := h
    rw [he] at hanswer
    cases hanswer
  | error halt t =>
    obtain ⟨stop', hstop, rfl, hreach⟩ := h
    rw [he] at hstop
    cases hstop
    exact ⟨t, rfl, hreach⟩

end

section

variable {g : Arena σ} {s t u : MatchState} {a : Attempt} {inside later : Course} {e : Ending}
  {y z : List Char}

/-- The place behind a course is where the text that is left begins. -/
theorem Reaches.position_eq (h : Reaches g s later y t) :
    t.position = offset s.cursor.input y := by
  rw [← h.input, ← h.rest]
  exact t.cursor.position_eq

theorem Reaches.atRest (h : y <:+ s.cursor.input) : Reaches g s .none y (s.atRest y) where
  input := MatchState.input_atRest h
  rest := MatchState.rest_atRest h
  captures := (List.append_nil _).symm
  active := rfl
  depth := rfl
  trace := rfl
  log := by simp [MatchState.atRest, Course.log]

/-- What comes after an attempt that has an answer adds to what the attempt leaves behind. -/
theorem Reaches.followed {matched : Bool} (he : e.answer = .ok matched)
    (h : Reaches g s (.made a inside e .none) y t) (h' : Reaches g t later z u) :
    Reaches g s (.made a inside e later) z u where
  input := h'.input.trans h.input
  rest := h'.rest
  captures := by
    rw [h'.captures, h.captures, h.input]
    simp [Course.captures]
  active := h'.active.trans h.active
  depth := by
    rw [h'.depth, h.depth]
    simp [Course.unclosed, he]
  trace := h'.trace.trans h.trace
  log := by
    have hd : t.depth = s.depth := by simpa [Course.unclosed, he] using h.depth
    rw [h'.log, h.log, h.trace, hd]
    cases s.trace <;> simp [Course.log]

/-- Neither the place nor the active name at the start of an attempt matters for what it leaves
behind. -/
theorem Reaches.of_moved {s' t' : MatchState} (h : Reaches g s' (.made a inside e .none) y t')
    (hs : s' = (s.atRest a.rest).setActive a.active) (ha : a.rest <:+ s.cursor.input)
    (ht : t = t'.setActive s.active) : Reaches g s (.made a inside e .none) y t := by
  have hi : s'.cursor.input = s.cursor.input := by
    rw [hs]
    exact MatchState.input_atRest ha
  subst ht
  exact {
    input := h.input.trans hi
    rest := h.rest
    captures := by
      have := h.captures
      rw [hi] at this
      simpa [hs, MatchState.captures, MatchState.setActive, MatchState.atRest] using this
    active := rfl
    depth := by
      have := h.depth
      rwa [hs] at this
    trace := by
      have := h.trace
      rwa [hs] at this
    log := by
      have := h.log
      rwa [hs] at this }

end

end Peg
