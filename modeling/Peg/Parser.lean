-- A parser owns a grammar and runs it. Actions do not run while matching goes on: a match
-- that succeeds is replayed onto the output, and any other leaves the output alone.
-- Whoever builds rules for a parser has the engine for the patterns among them.
import Peg.Arena.Build
import Peg.Matching.Match
import Peg.Regex.Engine

namespace Peg

open Text

variable {σ : Type}

/-! ## Replaying -/

/-- Runs the action of a capture's rule. -/
def Arena.replayOne (g : Arena σ) (r : Replay) (output : σ) : σ :=
  match g.rule? r.current.rule with
  | some (.action _ run) => run output r
  | _ => output

/-- Runs the actions of captures in order. `last` has been replayed just before. -/
def Arena.replayAfter (g : Arena σ) : Option Capture → List Capture → σ → σ
  | _, [], output => output
  | last, c :: more, output => g.replayAfter (some c) more (g.replayOne ⟨c, last⟩ output)

/-- Runs the actions of captures in order. -/
def Arena.replay (g : Arena σ) (captures : List Capture) (output : σ) : σ :=
  g.replayAfter none captures output

/-! ## Parsers -/

/-- Builds the rules of a grammar and answers the one to begin with. -/
abbrev Definition (σ : Type) := ExceptT Fault (Build σ) RuleId

/-- A grammar with the rule to begin with. -/
structure Parser (σ : Type) where
  arena : Arena σ
  /-- The rule to begin with. -/
  root : Option RuleId
  /-- What is to build the rules on first use, as long as it has not run. -/
  definition : Option (Definition σ)
  /-- Whether matches are traced. -/
  debug : Bool

namespace Parser

/-- A parser without rules of its own. -/
def empty : Parser σ := ⟨.fresh, none, none, false⟩

/-- A parser whose rules are built when they are first needed. -/
def ofDefinition (definition : Definition σ) : Parser σ :=
  { empty with definition := some definition }

def setRoot (p : Parser σ) (root : RuleId) : Parser σ := { p with root := some root }

def setDebug (p : Parser σ) (debug : Bool) : Parser σ := { p with debug }

/-- Builds on the rules of the parser. This does not run the definition. -/
def build {α : Type} (p : Parser σ) (steps : Build σ α) : α × Parser σ :=
  let (answer, arena) := steps.run p.arena
  (answer, { p with arena })

/-- The rule to begin with. Unless there is one, the definition runs, and it runs at most
once: it is gone afterwards, even if it fails. -/
def takeRoot (p : Parser σ) : Except Halt RuleId × Parser σ :=
  match p.root with
  | some root => (.ok root, p)
  | none =>
    match p.definition with
    | none => (.error (.error .missingRoot), p)
    | some definition =>
      match definition.run.run p.arena with
      | (.error fault, arena) => (.error (.fault fault), { p with arena, definition := none })
      | (.ok root, arena) => (.ok root, { p with arena, definition := none, root := some root })

/-! ## Parsing -/

/-- What comes of a parse: whether the text matched, the output, and the log. -/
structure Outcome (σ : Type) where
  result : Except Halt Bool
  output : σ
  log : List LogEntry

/-- Matches the rule `root` from the start of the text, and replays the match if there is
one. -/
def parseFrom (p : Parser σ) (root : RuleId) (input : List Char) (output : σ) : Outcome σ :=
  match Match.eval p.arena root (.ofText input p.debug) with
  | .error halt s => ⟨.error halt, output, s.log.reverse⟩
  | .ok false s => ⟨.ok false, output, s.log.reverse ++ [.noMatch (byteLength input)]⟩
  | .ok true s =>
    ⟨.ok true, p.arena.replay s.captures output,
      s.log.reverse ++ [.replaying s.captures.length]⟩

/-- Matches a text from its start. It need not match to its end. -/
def parse (p : Parser σ) (input : List Char) (output : σ) : Outcome σ × Parser σ :=
  match p.takeRoot with
  | (.error halt, p) => (⟨.error halt, output, []⟩, p)
  | (.ok root, p) => (p.parseFrom root input output, p)

/-! ## Small facts -/

/-- A root stays until another one is set. -/
@[simp] theorem takeRoot_of_root {p : Parser σ} {root : RuleId} (h : p.root = some root) :
    p.takeRoot = (.ok root, p) := by
  simp [takeRoot, h]

/-- After a definition has run there is none left. -/
theorem definition_takeRoot {p : Parser σ} (h : p.root = none) :
    p.takeRoot.2.definition = none := by
  unfold takeRoot
  rw [h]
  dsimp only
  split
  · assumption
  · split <;> rfl

end Parser

end Peg
