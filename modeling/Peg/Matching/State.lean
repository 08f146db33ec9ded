-- The state of one match: where it is in the text and what it has recorded. Every match
-- begins with a new state, so nothing carries over from one match to the next.
import Peg.Arena.Rule
import Peg.Error
import Peg.Log
import Peg.Text.Cursor

namespace Peg

open Text

/-- The state of a match. -/
structure MatchState where
  cursor : Cursor
  /-- The captures so far, last one first. -/
  recorded : List Capture
  /-- The name that is being matched. A reference to it from its own rule is refused. -/
  active : Option String
  /-- How many rules matching is inside of. -/
  depth : Nat
  /-- Whether rules are logged as they are entered and left. -/
  trace : Bool
  /-- The log of this match, last entry first. -/
  log : List LogEntry

namespace MatchState

/-- The state at the start of a text. -/
def ofText (input : List Char) (trace : Bool) : MatchState :=
  ⟨.ofText input, [], none, 0, trace, []⟩

def position (s : MatchState) : Nat := s.cursor.position

/-! ## The cursor -/

/-- The state at another position. -/
def seek (s : MatchState) (position : Nat) : Except Fault MatchState :=
  match s.cursor.seek? position with
  | none => .error (.seekOutOfRange position (byteLength s.cursor.input))
  | some cursor => .ok { s with cursor }

/-- The next character, and the state behind it. -/
def read (s : MatchState) : Option Char × MatchState :=
  match s.cursor.read? with
  | none => (none, s)
  | some (c, cursor) => (some c, { s with cursor })

/-! ## Captures -/

/-- The captures so far, in the order in which they were recorded. -/
def captures (s : MatchState) : List Capture := s.recorded.reverse

/-- The number of captures so far. -/
def captureCount (s : MatchState) : Nat := s.recorded.length

/-- Drops all captures but the first `count`. -/
def keepCaptures (s : MatchState) (count : Nat) : MatchState :=
  { s with recorded := s.recorded.drop (s.recorded.length - count) }

/-- Records that `rule` has matched from `start` up to the current position. -/
def record (s : MatchState) (start : Nat) (rule : RuleId) : Except Fault MatchState :=
  match Span.between? s.cursor.input start s.position with
  | none => .error (.spanOutOfOrder start s.position)
  | some span => .ok { s with recorded := ⟨span, rule⟩ :: s.recorded }

/-! ## The active name -/

def setActive (s : MatchState) (name : Option String) : MatchState := { s with active := name }

/-- Makes a name the active one, and answers the one before. -/
def activate (s : MatchState) (name : String) : Option String × MatchState :=
  (s.active, s.setActive (some name))

/-! ## Depth and log -/

/-- Adds to the log if the match is traced. -/
def report (s : MatchState) (entry : Nat → LogEntry) : MatchState :=
  if s.trace then { s with log := entry s.depth :: s.log } else s

/-- Goes into a rule. -/
def enter {σ : Type} (s : MatchState) (rule : Rule σ) : MatchState :=
  { s with depth := s.depth + 1 }.report fun depth => .entered depth rule.label

/-- Comes out of a rule. -/
def leave {σ : Type} (s : MatchState) (rule : Rule σ) (matched : Bool) : Except Fault MatchState :=
  let s := s.report fun depth => .left depth rule.label matched
  match s.depth with
  | 0 => .error .notEntered
  | depth + 1 => .ok { s with depth }

/-! ## Small facts -/

/-- What is kept are the captures that were recorded first. -/
theorem captures_keepCaptures (s : MatchState) (count : Nat) :
    (s.keepCaptures count).captures = s.captures.take count := by
  simp [captures, keepCaptures, List.take_reverse]

end MatchState

end Peg
