-- What building and matching report while they go on.

namespace Peg

/-- One report. A depth is the number of rules that matching is inside of, with the rule
that is reported. -/
inductive LogEntry where
  | neverMatches (source : String)
  | redefined (name : String)
  | entered (depth : Nat) (label : String)
  | left (depth : Nat) (label : String) (matched : Bool)
  | blocked (depth : Nat) (name : String)
  | noMatch (bytes : Nat)
  | replaying (captures : Nat)
deriving DecidableEq, Repr

namespace LogEntry

/-- The outermost rule stands at the margin. -/
def indent (depth : Nat) : String := String.ofList (List.replicate (2 * (depth - 1)) ' ')

def line : LogEntry → String
  | neverMatches source => "WARN pattern /" ++ source ++ "/ will never match"
  | redefined name => "WARN production '" ++ name ++ "' defined more than once"
  | entered depth label => "DEBUG " ++ indent depth ++ "++ " ++ label
  | left depth label matched =>
    "DEBUG " ++ indent depth ++ "-- " ++ label ++ ": " ++ toString matched
  | blocked depth name => "DEBUG " ++ indent depth ++ "-- named rule " ++ name ++ ": blocked"
  | noMatch bytes => "TRACE no match for input of " ++ toString bytes ++ " bytes"
  | replaying captures => "TRACE matched, replaying " ++ toString captures ++ " captures"

end LogEntry

end Peg
