-- What builders make of an arena, step by step.
import Peg.Arena.Build

namespace Peg.Build

variable {σ : Type} {α β : Type}

theorem run_pure (a : α) (g : Arena σ) : (pure a : Build σ α).run g = (a, g) := by
  rw [StateT.run_pure]
  rfl

theorem run_bind (x : Build σ α) (f : α → Build σ β) (g : Arena σ) :
    (x >>= f).run g = (f (x.run g).1).run (x.run g).2 := by
  rw [StateT.run_bind]
  rfl

theorem run_modify (f : Arena σ → Arena σ) (g : Arena σ) :
    (modify f : Build σ Unit).run g = (⟨⟩, f g) := by
  rw [StateT.run_modify]
  rfl

theorem run_whitespace (g : Arena σ) :
    (whitespace : Build σ RuleId).run g = (g.whitespace, g) := rfl

/-- Steps that cannot fail, among steps that can. -/
theorem run_lift {ε : Type} (x : Build σ α) (g : Arena σ) :
    ((liftM x : ExceptT ε (Build σ) α).run).run g = (.ok (x.run g).1, (x.run g).2) := rfl

/-- Steps that can fail and do not. -/
theorem run_bind_ok {ε : Type} {x : ExceptT ε (Build σ) α} {f : α → ExceptT ε (Build σ) β}
    {g h : Arena σ} {a : α} (hx : x.run.run g = (.ok a, h)) :
    ((x >>= f).run).run g = ((f a).run).run h := by
  rw [ExceptT.run_bind, run_bind, hx]

/-- A round of a loop that goes on. -/
theorem run_forIn_cons {ε : Type} {a : α} {l : List α}
    {f : α → PUnit → ExceptT ε (Build σ) (ForInStep PUnit)} {g h : Arena σ}
    (ha : ((f a ⟨⟩).run).run g = (.ok (.yield ⟨⟩), h)) :
    ((forIn (a :: l) ⟨⟩ f : ExceptT ε (Build σ) PUnit).run).run g =
      ((forIn l ⟨⟩ f : ExceptT ε (Build σ) PUnit).run).run h := by
  rw [List.forIn_cons, run_bind_ok ha]

/-- Steps for each of a list, one after another. -/
theorem run_forM {ε : Type} (l : List α) (f : α → Build σ Unit) (g : Arena σ) :
    ((l.forM fun a => (liftM (f a) : ExceptT ε (Build σ) Unit)).run).run g =
      (.ok (), l.foldl (fun g a => ((f a).run g).2) g) := by
  induction l generalizing g with
  | nil => rfl
  | cons a l ih => exact ih ((f a).run g).2

/-- An action around the rule of a name takes its place. -/
theorem run_attach (name : String) (run : Action σ) (g : Arena σ) :
    (attach name run).run.run g =
      match g.named? name with
      | none => (.error (.unknownRule name), g)
      | some id =>
        let made := (action id run).run g
        (.ok made.1, made.2.register name made.1) := by
  have hrun : (attach name run).run.run g = (match g.named? name with
    | none => throw (.unknownRule name)
    | some id => do
      let id ← (action id run : Build σ RuleId)
      modify (·.register name id)
      return id : ExceptT GrammarError (Build σ) RuleId).run.run g := rfl
  rw [hrun]
  split <;> rfl

/-- A rule is added at the end. -/
theorem run_push (r : Rule σ) (g : Arena σ) :
    (push r).run g = (⟨g.size⟩, { g with rules := g.rules.push r }) := by
  rw [push, StateT.run_modifyGet]
  rfl

theorem run_attach_of_none {name : String} {run : Action σ} {g : Arena σ}
    (h : g.named? name = none) :
    (attach name run).run.run g = (.error (.unknownRule name), g) := by
  rw [run_attach, h]

theorem run_attach_of_some {name : String} {run : Action σ} {g : Arena σ} {a : RuleId}
    (h : g.named? name = some a) :
    (attach name run).run.run g =
      (.ok ((push (.action a run)).run g).1,
        ((push (.action a run)).run g).2.register name ((push (.action a run)).run g).1) := by
  rw [run_attach, h]
  rfl

section

variable (g : Arena σ)

theorem run_literal (text : String) : (literal text).run g = (push (.literal text)).run g := rfl

theorem run_range (lo hi : Char) : (range lo hi).run g = (push (.range lo hi)).run g := rfl

theorem run_reference (name : String) :
    (reference name).run g = (push (.reference name)).run g := rfl

/-- An operand that is a rule stands for itself. -/
theorem run_unary (form : RuleId → Rule σ) (a : RuleId) :
    (unary form a).run g = (push (form a)).run g := rfl

theorem run_binary (form : RuleId → RuleId → Rule σ) (a b : RuleId) :
    (binary form a b).run g = (push (form a b)).run g := rfl

/-- The literal of a text is added in front of the rule that has the text as its operand. -/
theorem run_binary_text (form : RuleId → RuleId → Rule σ) (text : String) (b : RuleId) :
    (binary form text b).run g = (do push (form (← push (.literal text)) b)).run g := rfl

end

end Peg.Build
