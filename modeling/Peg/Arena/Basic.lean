-- The arena: rules in the order in which they were made, each known by its index. Rules are
-- only ever added. A name is a second way to refer to a rule, and may stand for another rule
-- later on.
import Peg.Arena.Rule
import Peg.Error
import Peg.Log

namespace Peg

variable {σ : Type}

/-! ## The arena -/

/-- Rules with their names, the rule for white space, and the warnings that building them
gave, last one first. A name that is given twice stands for what it was given last. -/
structure Arena (σ : Type) where
  rules : Array (Rule σ)
  names : List (String × RuleId)
  whitespace : RuleId
  warnings : List LogEntry

namespace Arena

def size (g : Arena σ) : Nat := g.rules.size

def rule? (g : Arena σ) (id : RuleId) : Option (Rule σ) := g.rules[id.index]?

/-- The rule that a name stands for. -/
def named? (g : Arena σ) (name : String) : Option RuleId := g.names.lookup name

/-- Lets a name stand for a rule. -/
def register (g : Arena σ) (name : String) (id : RuleId) : Arena σ :=
  { g with names := (name, id) :: g.names }

def warn (g : Arena σ) (entry : LogEntry) : Arena σ :=
  { g with warnings := entry :: g.warnings }

/-! ## References without a rule -/

/-- The name that a rule refers to, if it stands for nothing. -/
def dangling? (g : Arena σ) : Rule σ → Option String
  | .reference name => if (g.named? name).isNone then some name else none
  | _ => none

/-- Checks that every name which is referred to stands for a rule. The error is about the
reference with the lowest index. -/
def validate (g : Arena σ) : Except GrammarError Unit :=
  match g.rules.toList.findSome? g.dangling? with
  | some name => .error (.unknownRule name)
  | none => .ok ()

/-! ## Small facts -/

@[simp] theorem named?_register (g : Arena σ) (name other : String) (id : RuleId) :
    (g.register name id).named? other = if other = name then some id else g.named? other := by
  by_cases h : other = name
  · simp [register, named?, h]
  · have h' : (other == name) = false := by simpa using h
    simp [register, named?, List.lookup_cons, h', h]

/-- Nothing is wrong exactly when every reference has a rule. -/
theorem validate_eq_ok_iff (g : Arena σ) :
    g.validate = .ok () ↔ ∀ name, .reference name ∈ g.rules.toList → (g.named? name).isSome := by
  unfold validate
  constructor
  · intro h name hmem
    split at h
    · cases h
    · next hnone =>
      have := List.findSome?_eq_none_iff.1 hnone _ hmem
      simpa [dangling?, Option.isSome_iff_ne_none] using this
  · intro h
    split
    · next name hsome =>
      obtain ⟨r, hr, hd⟩ := List.exists_of_findSome?_eq_some hsome
      cases r <;> simp [dangling?] at hd
      · next other =>
        have := h _ hr
        simp [hd.1] at this
    · rfl

end Arena

end Peg
