-- Matching rules against text, with backtracking. A rule that fails puts the position back
-- to where it began, with one exception: a sequence stays where its last part gave up, and
-- whatever stands around it puts the position back.
import Peg.Matching.State
import Peg.Arena.Basic

namespace Peg

open Text

variable {σ : Type}

/-- A step of matching. `true` is a match and `false` is none; a step that halts keeps the
state it had got to. -/
abbrev Match := EStateM Halt MatchState

namespace Match

/-! ## Single characters and texts -/

/-- Whether one list of bytes comes before another one, or is the same, in the order of a
dictionary. -/
def bytesLe : List UInt8 → List UInt8 → Bool
  | [], _ => true
  | _ :: _, [] => false
  | a :: as, b :: bs => if a = b then bytesLe as bs else a < b

/-- Whether a character lies between two others, in the order of their UTF-8 bytes. -/
def inRange (lo hi c : Char) : Bool :=
  bytesLe (String.utf8EncodeChar lo) (String.utf8EncodeChar c) &&
    bytesLe (String.utf8EncodeChar c) (String.utf8EncodeChar hi)

/-- Moves on to a new cursor, if there is one. -/
def moveTo (cursor : Option Cursor) : Match Bool := do
  match cursor with
  | none => return false
  | some cursor =>
    modify ({ · with cursor })
    return true

def literal (text : String) : Match Bool := do
  moveTo (Cursor.readText? text.toList (← get).cursor)

def range (lo hi : Char) : Match Bool := do
  moveTo <| match (← get).cursor.read? with
    | none => none
    | some (c, next) => if inRange lo hi c then some next else none

/-- The regular expression sees only the text that is left, and the position moves to the
end of what it finds there. One that reads single bytes may end inside of a character, which is
no position. -/
def pattern (finder : Option Regex.Finder) : Match Bool := do
  let cursor := (← get).cursor
  match finder.bind (·.findEnd? cursor.rest) with
  | none => return false
  | some count =>
    match cursor.advance? count with
    | none =>
      throw (.fault (.seekOutOfRange (cursor.position + count) (byteLength cursor.input)))
    | some cursor => moveTo (some cursor)

/-! ## Going back -/

/-- Goes on with the state that an operation gives, or halts with its fault. -/
def become : Except Fault MatchState → Match Unit
  | .error fault => throw (.fault fault)
  | .ok s => set s

/-- Moves back to the position of an earlier state. -/
def backTo (entry : MatchState) : Match Unit := do become ((← get).seek entry.position)

/-- Moves back unless there was a match. -/
def keepIf (entry : MatchState) (matched : Bool) : Match Bool := do
  if !matched then backTo entry
  return matched

/-- Records a capture from the position of an earlier state up to the current one. -/
def capture (entry : MatchState) (rule : RuleId) : Match Unit := do
  become ((← get).record entry.position rule)

/-! ## Repetition and names -/

/-- Repeats `attempt` until it fails, and answers how often it has matched. It also stops
after a match of nothing, which would go on for ever. `count` matches have been made. -/
def repeatWithin (attempt : Match Bool) : Nat → Nat → Match Nat
  | 0, _ => throw .outOfFuel
  | rounds + 1, count => do
    let entry ← get
    if ← attempt then
      if (← get).position = entry.position then return count + 1
      else repeatWithin attempt rounds (count + 1)
    else
      backTo entry
      return count

/-- Repeats `attempt` as often as it matches. All but the last match read a character, so
there are no more of them than characters, and one. -/
def repeatAll (attempt : Match Bool) : Match Nat := do
  repeatWithin attempt ((← get).cursor.rest.length + 2) 0

/-- Makes `attempt` with `name` as the active name, and puts the one before back, also when
`attempt` halts. -/
def underName (name : String) (attempt : Match Bool) : Match Bool := fun s =>
  match attempt (s.setActive (some name)) with
  | .ok matched t => .ok matched (t.setActive s.active)
  | .error halt t => .error halt (t.setActive s.active)

/-! ## Rules -/

/-- Matches a rule whose parts are matched by `eval`. The rule's own index is `id`. -/
def rule (g : Arena σ) (eval : RuleId → Match Bool) (id : RuleId) : Rule σ → Match Bool
  | .literal text => literal text
  | .range lo hi => range lo hi
  | .pattern _ finder => pattern finder
  | .not a => do
    let entry ← get
    let matched ← eval a
    backTo entry
    return !matched
  | .endOfInput a => do
    let entry ← get
    let matched ← eval a
    keepIf entry (matched && (← get).cursor.atEnd)
  | .sequence a b => do
    if ← eval a then eval b else return false
  | .spaced a b => do
    if ← eval a then
      if ← eval g.whitespace then eval b else return false
    else return false
  | .choice a b => do
    let entry ← get
    if ← eval a then return true
    backTo entry
    keepIf entry (← eval b)
  | .zeroOrMore a => do
    let _ ← repeatAll (eval a)
    return true
  | .oneOrMore a => do
    let entry ← get
    let count ← repeatAll (eval a)
    keepIf entry (count > 0)
  | .optional a => do
    let entry ← get
    let _ ← keepIf entry (← eval a)
    return true
  | .reference name => do
    let entry ← get
    if entry.active = some name then
      modify (·.report (.blocked · name))
      return false
    match g.named? name with
    | none => throw (.error (.unknownRule name))
    | some a => keepIf entry (← underName name (eval a))
  | .action a _ => do
    let entry ← get
    if ← eval a then
      capture entry id
      return true
    modify (·.keepCaptures entry.captureCount)
    keepIf entry false

/-- Matches the rule `id`. `fuel` is how many rules may stand inside each other. -/
def evalWithin (g : Arena σ) : Nat → RuleId → Match Bool
  | 0, _ => throw .outOfFuel
  | fuel + 1, id => do
    match g.rule? id with
    | none => throw (.fault .noSuchRule)
    | some r =>
      modify (·.enter r)
      let matched ← rule g (evalWithin g fuel) id r
      become ((← get).leave r matched)
      return matched

/-- How many rules can stand inside each other without one of them coming back at the same
place and with the same active name, which would go on for ever. -/
def depthBound (g : Arena σ) (s : MatchState) : Nat :=
  g.size * (s.cursor.rest.length + 1) * (g.names.length + 2) + 1

/-- Matches the rule `id` at the position of the state. -/
def eval (g : Arena σ) (id : RuleId) : Match Bool := fun s =>
  evalWithin g (depthBound g s) id s

end Match

end Peg
