-- The rules that the definition of arithmetic makes, each with its place in the arena.
import Mathlib.Tactic.IntervalCases
import Peg.Arithmetic.Grammars
import Peg.Proofs.Arithmetic.Meaning
import Peg.Proofs.Layout

namespace Peg.Arithmetic

/-! ## The arena -/

/-- The rules for numbers and groups, which begin at place 10. -/
def factorRules : List (Rule Calculator) :=
  [.range '0' '9', .oneOrMore ⟨10⟩, .literal ".", .sequence ⟨12⟩ ⟨11⟩, .optional ⟨13⟩,
    .sequence ⟨11⟩ ⟨14⟩, .action ⟨15⟩ pushNumber, .literal "(", .reference "primary", .literal ")",
    .spaced ⟨18⟩ ⟨19⟩, .spaced ⟨17⟩ ⟨20⟩, .choice ⟨21⟩ ⟨16⟩]

/-- The rules for an operand and operations behind it, which begin at place `base`. -/
def chainRules (base : Nat) (space : RuleId) (operand : String)
    (first second : String × Operation) : List (Rule Calculator) :=
  [.reference operand, .literal first.1, .spaced ⟨base + 1⟩ ⟨base⟩,
    .action ⟨base + 2⟩ (applyOperation first.2), .reference operand, .literal second.1,
    .spaced ⟨base + 5⟩ ⟨base + 4⟩, .action ⟨base + 6⟩ (applyOperation second.2),
    .choice ⟨base + 3⟩ ⟨base + 7⟩, .sequence space ⟨base + 8⟩, .zeroOrMore ⟨base + 9⟩,
    .reference operand, .spaced ⟨base + 11⟩ ⟨base + 10⟩]

/-- The arena of the arithmetic parser. -/
def arithmetic : Arena Calculator where
  rules := (spaceRules ++ factorRules ++
    chainRules 23 ⟨9⟩ "tertiary" ("*", .mul) ("/", .div) ++
    chainRules 36 ⟨9⟩ "secondary" ("+", .add) ("-", .sub) ++
    [Rule.reference "primary", .endOfInput ⟨49⟩]).toArray
  names := [("primary", ⟨48⟩), ("secondary", ⟨35⟩), ("tertiary", ⟨22⟩)]
  whitespace := ⟨9⟩
  warnings := []

theorem run_leftAssociative (operand : String) (first second : String × Operation)
    (g : Arena Calculator) :
    (leftAssociative operand first second).run g =
      (⟨g.size + 12⟩,
        { g with rules := g.rules ++ chainRules g.size g.whitespace operand first second }) := by
  simp only [leftAssociative, operationTail, Build.chain, Build.zeroOrMore, Build.sequence,
    Build.spaced, Build.action, Build.run_bind, Build.run_push, Build.run_reference,
    Build.run_unary, Build.run_binary, Build.run_binary_text, Build.run_pure, Build.run_whitespace,
    Arena.size, Array.size_push]
  simp [chainRules]

theorem run_define : define.run Arena.fresh = (⟨50⟩, arithmetic) := by
  rw [fresh_eq]
  simp only [define, Build.chain, Build.oneOrMore, Build.optional, Build.sequence, Build.choice,
    Build.action, Build.endOfInput, Build.run_bind, Build.run_push, Build.run_range,
    Build.run_literal, Build.run_reference, Build.run_unary, Build.run_binary,
    Build.run_binary_text, Build.run_pure, Build.run_modify, run_leftAssociative, Arena.register,
    Arena.size, spaceRules, List.push_toArray, List.size_toArray, List.length_cons, List.length_nil,
    List.nil_append, List.cons_append, Nat.zero_add, Nat.reduceAdd]
  rfl

/-- The arithmetic parser builds its arena on first use. -/
theorem takeRoot_arithmetic :
    parser.takeRoot = (.ok ⟨50⟩, ⟨arithmetic, some ⟨50⟩, none, false⟩) := by
  unfold Parser.takeRoot
  simp only [parser, Parser.ofDefinition, Parser.empty, Build.run_lift, run_define]

/-! ## Single rules -/

theorem hasDefaultSpace : arithmetic.HasDefaultSpace := by
  intro k hk
  interval_cases k <;> rfl

theorem rule?_digit : arithmetic.rule? ⟨10⟩ = some (.range '0' '9') := rfl

theorem rule?_digits : arithmetic.rule? ⟨11⟩ = some (.oneOrMore ⟨10⟩) := rfl

theorem rule?_point : arithmetic.rule? ⟨12⟩ = some (.literal ".") := rfl

theorem rule?_fraction : arithmetic.rule? ⟨13⟩ = some (.sequence ⟨12⟩ ⟨11⟩) := rfl

theorem rule?_anyFraction : arithmetic.rule? ⟨14⟩ = some (.optional ⟨13⟩) := rfl

theorem rule?_numeral : arithmetic.rule? ⟨15⟩ = some (.sequence ⟨11⟩ ⟨14⟩) := rfl

theorem rule?_number : arithmetic.rule? ⟨16⟩ = some (.action ⟨15⟩ pushNumber) := rfl

theorem rule?_opening : arithmetic.rule? ⟨17⟩ = some (.literal "(") := rfl

theorem rule?_inside : arithmetic.rule? ⟨18⟩ = some (.reference "primary") := rfl

theorem rule?_closing : arithmetic.rule? ⟨19⟩ = some (.literal ")") := rfl

theorem rule?_closed : arithmetic.rule? ⟨20⟩ = some (.spaced ⟨18⟩ ⟨19⟩) := rfl

theorem rule?_group : arithmetic.rule? ⟨21⟩ = some (.spaced ⟨17⟩ ⟨20⟩) := rfl

theorem rule?_factor : arithmetic.rule? ⟨22⟩ = some (.choice ⟨21⟩ ⟨16⟩) := rfl

theorem rule?_whole : arithmetic.rule? ⟨49⟩ = some (.reference "primary") := rfl

theorem rule?_root : arithmetic.rule? ⟨50⟩ = some (.endOfInput ⟨49⟩) := rfl

/-! ## Levels in the arena -/

/-- The name under which the rule for a part is registered. -/
def Part.name : Part → String
  | factor => "tertiary"
  | chain .product | tail .product _ => "secondary"
  | chain .sum | tail .sum _ => "primary"

/-- The rule for a part. For operations behind operands, it is the one that they are read by. -/
def Part.rule : Part → RuleId
  | factor => ⟨22⟩
  | chain .product => ⟨35⟩
  | tail .product _ => ⟨33⟩
  | chain .sum => ⟨48⟩
  | tail .sum _ => ⟨46⟩

/-- The place at which the rules for a level begin. -/
def Level.base : Level → Nat
  | product => 23
  | sum => 36

/-- The operations of a level, in the order in which they are tried. -/
def Level.first : Level → Operation
  | product => .mul
  | sum => .add

def Level.second : Level → Operation
  | product => .div
  | sum => .sub

/-- The rules for a level stand at their places. -/
theorem rule?_level (l : Level) {k : Nat} (hk : k < 13) :
    arithmetic.rule? ⟨l.base + k⟩ =
      (chainRules l.base ⟨9⟩ l.operand.name (l.first.symbol, l.first)
        (l.second.symbol, l.second))[k]? := by
  cases l <;> interval_cases k <;> rfl

end Peg.Arithmetic
