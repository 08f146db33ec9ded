-- What can be said of an expression without a text: whether its matches are bound to the start
-- or the end of a text, and whether they are made of whole characters.
import Peg.Regex.Basic

namespace Peg.Regex

open Text

/-- What is known of the matches of an expression. -/
structure Traits where
  /-- Only conditions are tested, and nothing is read. -/
  readsNothing : Bool := false
  /-- Every match begins where the text does. -/
  atStart : Bool := false
  /-- Every match ends where the text does. -/
  atEnd : Bool := false
  /-- The start of the text is asked for somewhere. -/
  asksForStart : Bool := false
  /-- The end of the text is asked for somewhere. -/
  asksForEnd : Bool := false
  /-- Bytes are read that are no characters by themselves. -/
  readsBytes : Bool := false

namespace Traits

/-- The traits of a condition. -/
def ofAssertion (condition : Assertion) : Traits :=
  let start := condition == .textStart
  let stop := condition == .textEnd
  { readsNothing := true, atStart := start, atEnd := stop, asksForStart := start, asksForEnd := stop }

/-- The traits of a repetition. One that may be left out is not bound to anything. -/
def repeated (optional : Bool) (t : Traits) : Traits :=
  { t with atStart := !optional && t.atStart, atEnd := !optional && t.atEnd }

/-- Whether a sequence is bound as its parts say, when those that only test conditions may
come first. -/
def anyBound (bound : Traits → Bool) : List Traits → Bool
  | [] => false
  | t :: more => bound t || (t.readsNothing && anyBound bound more)

def concat (parts : List Traits) : Traits where
  readsNothing := parts.all (·.readsNothing)
  atStart := anyBound (·.atStart) parts
  atEnd := anyBound (·.atEnd) parts.reverse
  asksForStart := parts.any (·.asksForStart)
  asksForEnd := parts.any (·.asksForEnd)
  readsBytes := parts.any (·.readsBytes)

def either (choices : List Traits) : Traits where
  readsNothing := choices.all (·.readsNothing)
  atStart := choices.all (·.atStart)
  atEnd := choices.all (·.atEnd)
  asksForStart := choices.any (·.asksForStart)
  asksForEnd := choices.any (·.asksForEnd)
  readsBytes := choices.any (·.readsBytes)

end Traits

mutual

def traits : Regex → Traits
  | empty => { readsNothing := true }
  | literal _ | oneOf _ => {}
  | byteOf _ => { readsBytes := true }
  | assertion condition => .ofAssertion condition
  | group _ r => r.traits
  | plus _ r => r.traits.repeated false
  | counted _ least _ r => r.traits.repeated (least = 0)
  | concat parts => .concat (traitsAll parts)
  | either choices => .either (traitsAll choices)

/-- The traits of each expression. -/
def traitsAll : List Regex → List Traits
  | [] => []
  | r :: more => r.traits :: traitsAll more

end

end Peg.Regex
