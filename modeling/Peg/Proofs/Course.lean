-- What a rule does, told without a state: which attempts at other rules it makes, one after
-- another, and how it ends. All that it goes by is the text that is left and the active name,
-- so captures, depth and log come later, and are read off the attempts that were made.
import Peg.Matching.Match

namespace Peg

open Text

variable {σ : Type}

/-! ## Attempts and their endings -/

/-- An attempt to match a rule. -/
structure Attempt where
  rule : RuleId
  active : Option String
  /-- The text that is left where the attempt is made. -/
  rest : List Char
deriving DecidableEq

/-- Why an attempt has no answer. -/
inductive Stop where
  | unknownRule (name : String)
  | noSuchRule
  /-- A match would end so many bytes further on, inside of a character. -/
  | insideCharacter (count : Nat)
deriving DecidableEq

/-- How an attempt ends, and the text that is left then. -/
structure Ending where
  answer : Except Stop Bool
  rest : List Char

namespace Ending

def matched (rest : List Char) : Ending := ⟨.ok true, rest⟩

def failed (rest : List Char) : Ending := ⟨.ok false, rest⟩

def stopped (stop : Stop) (rest : List Char) : Ending := ⟨.error stop, rest⟩

/-- An answer with the text that is left: behind the match, or where the attempt was made. -/
def back (start : List Char) (answer : Bool) (rest : List Char) : Ending :=
  ⟨.ok answer, if answer then rest else start⟩

end Ending

/-! ## Plans -/

/-- What is left to do: nothing, or an attempt, and then what its answer asks for. -/
inductive Plan where
  | finish (ending : Ending)
  | attempt (a : Attempt) (next : Bool → List Char → Plan)

namespace Plan

/-- Makes an attempt again where it has matched, until it fails or reads nothing. Then `done`
learns how often it has matched; `count` matches have been made. -/
def repeating (a : Attempt) (done : Nat → List Char → Plan) (count : Nat) : Plan :=
  attempt a fun matched rest =>
    if matched then
      if rest.length < a.rest.length then repeating { a with rest } done (count + 1)
      else done (count + 1) rest
    else done count a.rest
termination_by a.rest.length

/-- What is done to match a rule. -/
def ofRule (g : Arena σ) (active : Option String) (x : List Char) : Rule σ → Plan
  | .literal text => finish <|
    match text.toList.isPrefixOf? x with
    | some y => .matched y
    | none => .failed x
  | .range lo hi => finish <|
    match x with
    | c :: y => if Match.inRange lo hi c then .matched y else .failed x
    | [] => .failed x
  | .pattern _ finder => finish <|
    match finder.bind (·.findEnd? x) with
    | none => .failed x
    | some count =>
      match after? count x with
      | some y => .matched y
      | none => .stopped (.insideCharacter count) x
  | .not a => attempt ⟨a, active, x⟩ fun matched _ => finish ⟨.ok !matched, x⟩
  | .endOfInput a =>
    attempt ⟨a, active, x⟩ fun matched y => finish (.back x (matched && y.isEmpty) y)
  | .sequence a b => attempt ⟨a, active, x⟩ fun matched y =>
    if matched then attempt ⟨b, active, y⟩ fun matched z => finish ⟨.ok matched, z⟩
    else finish (.failed y)
  | .spaced a b => attempt ⟨a, active, x⟩ fun matched y =>
    if matched then attempt ⟨g.whitespace, active, y⟩ fun matched y =>
      if matched then attempt ⟨b, active, y⟩ fun matched z => finish ⟨.ok matched, z⟩
      else finish (.failed y)
    else finish (.failed y)
  | .choice a b => attempt ⟨a, active, x⟩ fun matched y =>
    if matched then finish (.matched y)
    else attempt ⟨b, active, x⟩ fun matched y => finish (.back x matched y)
  | .zeroOrMore a => repeating ⟨a, active, x⟩ (fun _ y => finish (.matched y)) 0
  | .oneOrMore a => repeating ⟨a, active, x⟩ (fun count y => finish (.back x (count > 0) y)) 0
  | .optional a =>
    attempt ⟨a, active, x⟩ fun matched y => finish (.matched (if matched then y else x))
  | .reference name =>
    if active = some name then finish (.failed x)
    else
      match g.named? name with
      | none => finish (.stopped (.unknownRule name) x)
      | some a => attempt ⟨a, some name, x⟩ fun matched y => finish (.back x matched y)
  | .action a _ => attempt ⟨a, active, x⟩ fun matched y => finish (.back x matched y)

end Plan

/-- What is done in an attempt. -/
def Arena.plan (g : Arena σ) (a : Attempt) : Plan :=
  match g.rule? a.rule with
  | some r => .ofRule g a.active a.rest r
  | none => .finish (.stopped .noSuchRule a.rest)

/-- What is left to do behind an attempt with an ending. -/
def Ending.follow (e : Ending) (next : Bool → List Char → Plan) : Plan :=
  match e.answer with
  | .ok matched => next matched e.rest
  | .error _ => .finish e

section

variable {e : Ending} {next : Bool → List Char → Plan}

theorem Ending.follow_ok {matched : Bool} (he : e.answer = .ok matched) :
    e.follow next = next matched e.rest := by
  simp [Ending.follow, he]

/-- A stop is the end of the plan. -/
theorem Ending.follow_error {stop : Stop} (he : e.answer = .error stop) :
    e.follow next = .finish e := by
  simp [Ending.follow, he]

end

/-! ## The course of a match -/

/-- Attempts that are made one after another, each with the attempts inside of it. -/
inductive Course where
  | none
  | made (a : Attempt) (inside : Course) (ending : Ending) (later : Course)

/-- Doing what a plan says takes a course and comes to an ending. -/
inductive Runs (g : Arena σ) : Plan → Course → Ending → Prop where
  | finish (e : Ending) : Runs g (.finish e) .none e
  | attempt {a : Attempt} {next : Bool → List Char → Plan} {inside later : Course} {e e' : Ending} :
    Runs g (g.plan a) inside e → Runs g (e.follow next) later e' →
      Runs g (.attempt a next) (.made a inside e later) e'

namespace Runs

variable {g : Arena σ} {p : Plan} {c c' : Course} {e e' : Ending}

theorem finish_inv (h : Runs g (.finish e) c e') : c = .none ∧ e' = e := by
  cases h
  exact ⟨rfl, rfl⟩

theorem attempt_inv {a : Attempt} {next : Bool → List Char → Plan}
    (h : Runs g (.attempt a next) c e') :
    ∃ inside e later, c = .made a inside e later ∧ Runs g (g.plan a) inside e ∧
      Runs g (e.follow next) later e' := by
  cases h with
  | attempt h₁ h₂ => exact ⟨_, _, _, rfl, h₁, h₂⟩

/-- Nothing is done behind a stop. -/
theorem stopped_inv {next : Bool → List Char → Plan} {stop : Stop} (h : Runs g (e.follow next) c e')
    (he : e.answer = .error stop) : c = .none ∧ e' = e := by
  rw [Ending.follow_error he] at h
  exact h.finish_inv

/-- An attempt with nothing behind it. -/
theorem alone {a : Attempt} (h : Runs g (g.plan a) c e) :
    Runs g (.attempt a fun matched rest => .finish ⟨.ok matched, rest⟩) (.made a c e .none) e := by
  refine .attempt h ?_
  obtain ⟨answer, rest⟩ := e
  cases answer with
  | ok matched => exact .finish _
  | error stop => exact .finish _

/-- A plan leaves no choice: it takes one course and comes to one ending. -/
theorem unique (h : Runs g p c e) (h' : Runs g p c' e') : c' = c ∧ e' = e := by
  induction h generalizing c' e' with
  | finish e => exact h'.finish_inv
  | attempt _ _ ih₁ ih₂ =>
    obtain ⟨inside, e₁, later, rfl, h₁, h₂⟩ := h'.attempt_inv
    obtain ⟨rfl, rfl⟩ := ih₁ h₁
    obtain ⟨rfl, rfl⟩ := ih₂ h₂
    exact ⟨rfl, rfl⟩

end Runs

end Peg
