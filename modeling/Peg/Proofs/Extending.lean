-- What builders leave alone, whatever arena they start from: the rules that there are, the names
-- that stand for one, and the white space.
import Peg.Proofs.Building

namespace Peg

variable {σ : Type} {α β : Type}

/-- `h` has the rules of `g` at their places, and a name that stands for a rule in `g` stands for
one in `h`. -/
structure Arena.Extends (g h : Arena σ) : Prop where
  rule : ∀ {id r}, g.rule? id = some r → h.rule? id = some r
  named : ∀ {n}, (g.named? n).isSome → (h.named? n).isSome

section

variable {g h k : Arena σ} {id : RuleId}

theorem Arena.Extends.refl (g : Arena σ) : g.Extends g := ⟨fun h => h, fun h => h⟩

theorem Arena.Extends.trans (hgh : g.Extends h) (hhk : h.Extends k) : g.Extends k :=
  ⟨fun hr => hhk.rule (hgh.rule hr), fun hn => hhk.named (hgh.named hn)⟩

theorem index_lt_of_rule? {r : Rule σ} (hr : g.rule? id = some r) : id.index < g.size :=
  (Array.getElem?_eq_some_iff.1 hr).1

theorem rule?_push (g : Arena σ) (r : Rule σ) (id : RuleId) :
    ((Build.push r).run g).2.rule? id = if id.index = g.size then some r else g.rule? id := by
  rw [Build.run_push]
  exact Array.getElem?_push

theorem rule?_of_push {g : Arena σ} {r : Rule σ} :
    ((Build.push r).run g).2.rule? ((Build.push r).run g).1 = some r := by
  rw [rule?_push, Build.run_push, if_pos rfl]

theorem size_push (g : Arena σ) (r : Rule σ) : ((Build.push r).run g).2.size = g.size + 1 := by
  rw [Build.run_push]
  exact Array.size_push r

theorem Arena.Extends.push (g : Arena σ) (r : Rule σ) : g.Extends ((Build.push r).run g).2 where
  rule hr := by
    rw [rule?_push, if_neg (Nat.ne_of_lt (index_lt_of_rule? hr))]
    exact hr
  named hn := by
    rw [Build.run_push]
    exact hn

theorem Arena.Extends.register (g : Arena σ) (name : String) (id : RuleId) :
    g.Extends (g.register name id) where
  rule hr := hr
  named hn := by
    rw [Arena.named?_register]
    split
    · rfl
    · exact hn

end

/-! ## Arenas within others -/

/-- All of `g` is in `h`: its rules at their places, its names for the same rules, and its white
space. -/
structure Arena.Within (g h : Arena σ) : Prop where
  rule : ∀ {id r}, g.rule? id = some r → h.rule? id = some r
  named : ∀ {n id}, g.named? n = some id → h.named? n = some id
  whitespace : h.whitespace = g.whitespace

section

variable {g h k : Arena σ}

theorem Arena.Within.refl (g : Arena σ) : g.Within g := ⟨fun h => h, fun h => h, rfl⟩

theorem Arena.Within.trans (hgh : g.Within h) (hhk : h.Within k) : g.Within k where
  rule hr := hhk.rule (hgh.rule hr)
  named hn := hhk.named (hgh.named hn)
  whitespace := hhk.whitespace.trans hgh.whitespace

theorem Arena.Within.extends (hgh : g.Within h) : g.Extends h where
  rule := hgh.rule
  named hn := by
    obtain ⟨id, hid⟩ := Option.isSome_iff_exists.1 hn
    rw [hgh.named hid]
    rfl

theorem Arena.Within.push (g : Arena σ) (r : Rule σ) : g.Within ((Build.push r).run g).2 where
  rule := (Arena.Extends.push g r).rule
  named hn := by
    rw [Build.run_push]
    exact hn
  whitespace := by rw [Build.run_push]

theorem Arena.Within.warn (g : Arena σ) (entry : LogEntry) : g.Within (g.warn entry) :=
  ⟨fun h => h, fun h => h, rfl⟩

/-- A name that stands for nothing may be given to a rule. -/
theorem Arena.Within.register (hgh : g.Within h) {name : String} (hname : g.named? name = none)
    (id : RuleId) : g.Within (h.register name id) where
  rule := hgh.rule
  named {n id'} hn := by
    have hne : n ≠ name := fun heq => by rw [heq, hname] at hn; cases hn
    rw [Arena.named?_register, if_neg hne]
    exact hgh.named hn
  whitespace := hgh.whitespace

end

/-! ## Builders -/

namespace Build

/-- The steps keep whatever arena they start from within the one that they make. -/
def Keeping (x : Build σ α) : Prop := ∀ g : Arena σ, g.Within (x.run g).2

section

variable {x : Build σ α}

theorem Keeping.pure (a : α) : Keeping (Pure.pure a : Build σ α) := fun g => .refl g

theorem Keeping.bind {next : α → Build σ β} (hx : Keeping x) (hnext : ∀ a, Keeping (next a)) :
    Keeping (x >>= next) := by
  intro g
  rw [run_bind]
  exact (hx g).trans (hnext _ _)

theorem keeping_push (r : Rule σ) : Keeping (push r) := fun g => .push g r

theorem keeping_operand (a : Operand) : Keeping (operand a : Build σ RuleId) := by
  cases a with
  | rule id => exact .pure id
  | text text => exact keeping_push _

theorem keeping_unary (form : RuleId → Rule σ) (a : Operand) : Keeping (unary form a) :=
  (keeping_operand a).bind fun _ => keeping_push _

theorem keeping_binary (form : RuleId → RuleId → Rule σ) (a b : Operand) :
    Keeping (binary form a b) :=
  (keeping_operand a).bind fun _ => (keeping_operand b).bind fun _ => keeping_push _

theorem keeping_pattern [Regex.Library] (source : String) :
    Keeping (pattern source : Build σ RuleId) := by
  unfold pattern
  dsimp only
  split
  · exact Keeping.bind (fun g => .warn g _) fun _ => keeping_push _
  · exact keeping_push _

theorem keeping_oneOrMoreSpaced (a : Operand) : Keeping (oneOrMoreSpaced a : Build σ RuleId) :=
  (keeping_operand a).bind fun _ => (keeping_unary _ _).bind fun _ => keeping_binary _ _ _

theorem keeping_chain (form : RuleId → RuleId → Rule σ) (first : RuleId) (more : List RuleId) :
    Keeping (chain form first more) := by
  induction more generalizing first with
  | nil => exact .pure first
  | cons second more ih => exact (ih second).bind fun _ => keeping_push _

theorem keeping_chainAll (form : RuleId → RuleId → Rule σ) (ids : List RuleId) :
    Keeping (chainAll form ids).run := by
  cases ids with
  | nil => exact .pure _
  | cons first more => exact fun g => keeping_chain form first more g

end

/-! ## What the steps answer with -/

/-- What the steps answer with is as it should be, in whatever extends what they make. -/
structure Lasting (P : Arena σ → α → Prop) (x : Build σ α) : Prop where
  keeping : Keeping x
  answer : ∀ {g h}, (x.run g).2.Extends h → P h (x.run g).1

theorem Lasting.bind {P : Arena σ → α → Prop} {Q : Arena σ → β → Prop} {x : Build σ α}
    {next : α → Build σ β} (hx : Lasting P x)
    (hnext : ∀ a, Lasting (fun h b => P h a → Q h b) (next a)) : Lasting Q (x >>= next) where
  keeping := hx.keeping.bind fun a => (hnext a).keeping
  answer {g h} hext := by
    rw [run_bind] at hext ⊢
    have hlater := ((hnext (x.run g).1).keeping (x.run g).2).extends
    exact (hnext _).answer hext (hx.answer (hlater.trans hext))

theorem lasting_push (r : Rule σ) : Lasting (fun h id => h.rule? id = some r) (push r) where
  keeping := keeping_push r
  answer hext := hext.rule rule?_of_push

/-! ## Names and white space -/

section

variable (g : Arena σ)

theorem extends_register (name : String) (id : RuleId) :
    g.Extends ((register name id : Build σ (Option RuleId)).run g).2 := .register g name id

theorem extends_attach (name : String) (run : Action σ) :
    g.Extends ((attach name run).run.run g).2 := by
  rw [run_attach]
  cases g.named? name with
  | none => exact .refl g
  | some id => exact (keeping_unary (.action · run) id g).extends.trans (.register _ name _)

theorem extends_setWhitespace (id : RuleId) :
    g.Extends ((setWhitespace id : Build σ Unit).run g).2 := ⟨fun hr => hr, fun hn => hn⟩

end

end Build

end Peg
