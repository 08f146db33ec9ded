-- Rules as expressions, and the rules that can be reached from a rule.
import Peg.Arena.Basic

namespace Peg

open Text

variable {σ : Type}

namespace Arena

/-! ## Expressions -/

/-- The expression of a rule, with `fuel` as the number of rules that may stand inside each
other. There is none when a rule is missing. -/
def renderWithin (g : Arena σ) : Nat → RuleId → Option String
  | 0, _ => none
  | fuel + 1, id => do
    let sub := g.renderWithin fuel
    match ← g.rule? id with
    | .literal text => return quoted text.toList
    | .range lo hi => return quotedChar lo ++ ".." ++ quotedChar hi
    | .pattern source _ => return "/" ++ source ++ "/"
    | .not a => return "!" ++ (← sub a)
    | .endOfInput a => return (← sub a) ++ " !!"
    | .sequence a b => return "(" ++ (← sub a) ++ " ~ " ++ (← sub b) ++ ")"
    | .spaced a b => return "(" ++ (← sub a) ++ " ~~ " ++ (← sub b) ++ ")"
    | .choice a b => return "(" ++ (← sub a) ++ " | " ++ (← sub b) ++ ")"
    | .zeroOrMore a => return (← sub a) ++ "*"
    | .oneOrMore a => return (← sub a) ++ "+"
    | .optional a => return "[ " ++ (← sub a) ++ " ]"
    | .reference name => return name
    | .action a _ => return "(" ++ (← sub a) ++ " => action)"

/-- The expression of a rule. A rule only refers to rules before it, so no more rules than
its index, and itself, stand inside each other. Names are not followed. -/
def render? (g : Arena σ) (id : RuleId) : Option String := g.renderWithin (id.index + 1) id

/-! ## Reach -/

/-- The rules that a rule refers to directly, also by name. -/
def successors (g : Arena σ) (rule : Rule σ) : List RuleId :=
  match rule with
  | .reference name => (g.named? name).toList
  | rule => rule.children

/-- The rules of `seen`, and those that can be reached from `todo`. -/
def reachWithin (g : Arena σ) : Nat → List RuleId → List RuleId → List RuleId
  | 0, _, seen => seen
  | _ + 1, [], seen => seen
  | fuel + 1, id :: todo, seen =>
    if seen.contains id then g.reachWithin fuel todo seen
    else
      match g.rule? id with
      | none => g.reachWithin fuel todo seen
      | some rule => g.reachWithin fuel (g.successors rule ++ todo) (id :: seen)

/-- The rules that can be reached from a rule, with their indices, in order. Each rule
brings at most two more. -/
def reachable (g : Arena σ) (id : RuleId) : List (Nat × Rule σ) :=
  let seen := g.reachWithin (2 * g.size + 2) [id] []
  (List.range g.size).filterMap fun i =>
    if seen.contains ⟨i⟩ then (g.rule? ⟨i⟩).map (i, ·) else none

end Arena

end Peg
