-- What building does to an arena. Rules are only added, and each refers to rules before it; a name
-- that stands for a rule may come to stand for another one, but it never stands for nothing again.
import Mathlib.Tactic.IntervalCases
import Peg.Proofs.Extending
import Peg.Proofs.Layout
import Peg.Proofs.Safety

namespace Peg

variable {σ : Type}

/-! ## Arenas in order -/

/-- Every rule refers to rules before it, and names and white space refer to rules that there
are. -/
structure Arena.Ordered (g : Arena σ) : Prop where
  child : ∀ {id r b}, g.rule? id = some r → b ∈ r.children → b.index < id.index
  name : ∀ {n b}, g.named? n = some b → b.index < g.size
  whitespace : g.whitespace.index < g.size

/-- `h` is in order and has all that `g` has: its rules at their places, and its names. -/
structure Arena.Grown (g h : Arena σ) : Prop where
  ordered : h.Ordered
  size_le : g.size ≤ h.size
  rule : ∀ {id r}, g.rule? id = some r → h.rule? id = some r
  named : ∀ {n}, (g.named? n).isSome → (h.named? n).isSome

section

variable {g h k : Arena σ} {r : Rule σ} {id : RuleId}

theorem Arena.Grown.refl (hg : g.Ordered) : g.Grown g := ⟨hg, Nat.le_refl _, fun h => h, fun h => h⟩

theorem Arena.Grown.trans (hgh : g.Grown h) (hhk : h.Grown k) : g.Grown k where
  ordered := hhk.ordered
  size_le := Nat.le_trans hgh.size_le hhk.size_le
  rule hr := hhk.rule (hgh.rule hr)
  named hn := hhk.named (hgh.named hn)

theorem Arena.Grown.of_extends (hh : h.Ordered) (hsize : g.size ≤ h.size) (hgh : g.Extends h) :
    g.Grown h := ⟨hh, hsize, hgh.rule, hgh.named⟩

/-- A rule that refers to rules before it can be added. -/
theorem Arena.Grown.push (hg : g.Ordered) (hr : ∀ b ∈ r.children, b.index < g.size) :
    g.Grown ((Build.push r).run g).2 := by
  have hsize := size_push g r
  have hnamed : ∀ n, ((Build.push r).run g).2.named? n = g.named? n := fun n => by
    rw [Build.run_push]
    rfl
  refine .of_extends ⟨?_, ?_, ?_⟩ (by omega) (.push g r)
  · intro id r' b hr' hb
    rw [rule?_push] at hr'
    split at hr'
    · next hid =>
      cases hr'
      rw [hid]
      exact hr b hb
    · exact hg.child hr' hb
  · intro n b hb
    rw [hnamed] at hb
    rw [hsize]
    exact Nat.lt_succ_of_lt (hg.name hb)
  · rw [hsize]
    exact Nat.lt_succ_of_lt hg.whitespace

theorem Arena.Grown.register (hg : g.Ordered) (name : String) (hid : id.index < g.size) :
    g.Grown (g.register name id) := by
  refine .of_extends ⟨hg.child, ?_, hg.whitespace⟩ (Nat.le_refl _) (.register g name id)
  intro n b hb
  rw [Arena.named?_register] at hb
  split at hb
  · cases hb
    exact hid
  · exact hg.name hb

theorem Arena.Grown.warn (hg : g.Ordered) (entry : LogEntry) : g.Grown (g.warn entry) where
  ordered := ⟨hg.child, hg.name, hg.whitespace⟩
  size_le := Nat.le_refl _
  rule hr := hr
  named hn := hn

theorem Arena.Grown.setWhitespace (hg : g.Ordered) (hid : id.index < g.size) :
    g.Grown { g with whitespace := id } where
  ordered := ⟨hg.child, hg.name, hid⟩
  size_le := Nat.le_refl _
  rule hr := hr
  named hn := hn

end

/-! ## Steps that make a rule -/

/-- The operand is a text, or a rule of the arena. -/
def Arena.Owns (g : Arena σ) : Operand → Prop
  | .rule id => id.index < g.size
  | .text _ => True

theorem Arena.Owns.mono {g h : Arena σ} {a : Operand} (hgh : g.Grown h) (ha : g.Owns a) :
    h.Owns a := by
  cases a with
  | rule id => exact Nat.lt_of_lt_of_le ha hgh.size_le
  | text text => trivial

instance (g : Arena σ) (a : Operand) : Decidable (g.Owns a) :=
  match a with
  | .rule id => inferInstanceAs (Decidable (id.index < g.size))
  | .text _ => inferInstanceAs (Decidable True)

/-- The steps make a rule, perhaps on top of others. -/
structure Build.Makes (g : Arena σ) (x : Build σ RuleId) : Prop where
  grown : g.Grown (x.run g).2
  own : (x.run g).1.index < (x.run g).2.size

namespace Build

section

variable {g h : Arena σ} {x : Build σ RuleId} {a b : Operand}

theorem Makes.pure (hg : g.Ordered) {id : RuleId} (hid : id.index < g.size) :
    Makes g (Pure.pure id) := ⟨.refl hg, hid⟩

theorem Makes.push (hg : g.Ordered) {r : Rule σ} (hr : ∀ b ∈ r.children, b.index < g.size) :
    Makes g (Build.push r) := by
  refine ⟨.push hg hr, ?_⟩
  exact Nat.lt_of_lt_of_eq (Nat.lt_succ_self g.size) (size_push g r).symm

/-- What comes behind the steps may refer to what they have made. -/
theorem Makes.bind {k : RuleId → Build σ RuleId} (hx : Makes g x)
    (hk : ∀ id h, g.Grown h → id.index < h.size → Makes h (k id)) : Makes g (x >>= k) := by
  obtain ⟨hgrown, hown⟩ := hx
  obtain ⟨hgrown', hown'⟩ := hk _ _ hgrown hown
  refine ⟨?_, ?_⟩
  · rw [run_bind]
    exact hgrown.trans hgrown'
  · rw [run_bind]
    exact hown'

theorem Makes.operand (hg : g.Ordered) (ha : g.Owns a) : Makes g (Build.operand a) := by
  cases a with
  | rule id => exact .pure hg ha
  | text text => exact .push hg (by simp [Rule.children])

theorem Makes.unary {form : RuleId → Rule σ} (hform : ∀ a, (form a).children = [a])
    (hg : g.Ordered) (ha : g.Owns a) : Makes g (Build.unary form a) := by
  refine (Makes.operand hg ha).bind fun id h hgrown hid => ?_
  apply Makes.push hgrown.ordered
  rw [hform]
  intro b hb
  rwa [List.mem_singleton.1 hb]

theorem Makes.binary {form : RuleId → RuleId → Rule σ}
    (hform : ∀ a b, (form a b).children = [a, b]) (hg : g.Ordered) (ha : g.Owns a)
    (hb : g.Owns b) : Makes g (Build.binary form a b) := by
  refine (Makes.operand hg ha).bind fun ida h hgrown hida => ?_
  have hb' := Arena.Owns.mono hgrown hb
  refine (Makes.operand hgrown.ordered hb').bind fun idb k hgrown' hidb => ?_
  apply Makes.push hgrown'.ordered
  rw [hform]
  intro c hc
  simp only [List.mem_cons, List.not_mem_nil, or_false] at hc
  rcases hc with rfl | rfl
  · exact Nat.lt_of_lt_of_le hida hgrown'.size_le
  · exact hidb

theorem Makes.pattern [Regex.Library] (hg : g.Ordered) (source : String) :
    Makes g (Build.pattern source) := by
  have hpush : ∀ (h : Arena σ), g.Grown h → ∀ finder,
      Makes h (Build.push (.pattern source finder)) := fun h hgrown finder =>
    .push hgrown.ordered (by simp [Rule.children])
  unfold Build.pattern
  dsimp only
  split
  · have hwarn := hpush _ (.warn hg (.neverMatches source))
    refine ⟨?_, ?_⟩
    · rw [run_bind, run_modify]
      exact (Arena.Grown.warn hg _).trans (hwarn _).grown
    · rw [run_bind, run_modify]
      exact (hwarn _).own
  · exact hpush g (.refl hg) _

theorem Makes.oneOrMoreSpaced (hg : g.Ordered) (ha : g.Owns a) :
    Makes g (Build.oneOrMoreSpaced a) := by
  refine (Makes.operand hg ha).bind fun id h hgrown hid => ?_
  have hmore : Makes h (Build.zeroOrMore id) := .unary (fun _ => rfl) hgrown.ordered hid
  refine hmore.bind fun more k hgrown' hmore => ?_
  exact .binary (fun _ _ => rfl) hgrown'.ordered (Nat.lt_of_lt_of_le hid hgrown'.size_le) hmore

theorem Makes.chain {form : RuleId → RuleId → Rule σ}
    (hform : ∀ a b, (form a b).children = [a, b]) (hg : g.Ordered) {first : RuleId}
    (hfirst : first.index < g.size) {more : List RuleId}
    (hmore : ∀ id ∈ more, id.index < g.size) : Makes g (Build.chain form first more) := by
  induction more generalizing first with
  | nil => exact .pure hg hfirst
  | cons second more ih =>
    obtain ⟨hsecond, hmore⟩ := List.forall_mem_cons.1 hmore
    refine (ih hsecond hmore).bind fun tail h hgrown htail => ?_
    apply Makes.push hgrown.ordered
    rw [hform]
    intro c hc
    simp only [List.mem_cons, List.not_mem_nil, or_false] at hc
    rcases hc with rfl | rfl
    · exact Nat.lt_of_lt_of_le hfirst hgrown.size_le
    · exact htail

theorem grown_chainAll {form : RuleId → RuleId → Rule σ}
    (hform : ∀ a b, (form a b).children = [a, b]) (hg : g.Ordered) {ids : List RuleId}
    (hids : ∀ id ∈ ids, id.index < g.size) :
    g.Grown ((Build.chainAll form ids).run.run g).2 := by
  cases ids with
  | nil => exact .refl hg
  | cons first more =>
    obtain ⟨hfirst, hmore⟩ := List.forall_mem_cons.1 hids
    exact (Makes.chain hform hg hfirst hmore).grown

theorem grown_attach (hg : g.Ordered) (name : String) (run : Action σ) :
    g.Grown ((Build.attach name run).run.run g).2 := by
  rw [Build.run_attach]
  cases hname : g.named? name with
  | none => exact .refl hg
  | some id =>
    have hmade : Makes g (Build.action id run) := .unary (fun _ => rfl) hg (hg.name hname)
    exact hmade.grown.trans (.register hmade.grown.ordered name hmade.own)

/-- Attaches actions to names, one after another, and answers what came of each. A name that stands
for nothing is passed over. -/
def attachAll : List (String × Action σ) → Build σ (List (Except GrammarError RuleId))
  | [] => return []
  | (name, run) :: more => do
    let answer ← (attach name run).run
    let answers ← attachAll more
    return answer :: answers

theorem run_attachAll_cons (name : String) (run : Action σ) (more : List (String × Action σ))
    (g : Arena σ) :
    (attachAll ((name, run) :: more)).run g =
      (((attach name run).run.run g).1 :: ((attachAll more).run ((attach name run).run.run g).2).1,
        ((attachAll more).run ((attach name run).run.run g).2).2) := by
  rw [attachAll, run_bind, run_bind, run_pure]

theorem grown_attachAll (hg : g.Ordered) (calls : List (String × Action σ)) :
    g.Grown ((attachAll calls).run g).2 := by
  induction calls generalizing g with
  | nil => exact .refl hg
  | cons call more ih =>
    have hone := grown_attach hg call.1 call.2
    rw [run_attachAll_cons]
    exact hone.trans (ih hone.ordered)

theorem whitespace_attach (name : String) (run : Action σ) (g : Arena σ) :
    ((attach name run).run.run g).2.whitespace = g.whitespace := by
  rw [run_attach]
  cases g.named? name <;> rfl

end

end Build

/-- The arena has grown out of a new one, and has the same white space. -/
structure Arena.DefaultSpaced (g : Arena σ) : Prop where
  grown : Arena.Grown .fresh g
  whitespace : g.whitespace = ⟨9⟩

theorem Arena.DefaultSpaced.attach {g : Arena σ} (hg : g.DefaultSpaced) (name : String)
    (run : Action σ) : ((Build.attach name run).run.run g).2.DefaultSpaced where
  grown := hg.grown.trans (Build.grown_attach hg.grown.ordered name run)
  whitespace := (Build.whitespace_attach name run g).trans hg.whitespace

theorem Arena.DefaultSpaced.attachAll {g : Arena σ} (hg : g.DefaultSpaced)
    (calls : List (String × Action σ)) : ((Build.attachAll calls).run g).2.DefaultSpaced := by
  induction calls generalizing g with
  | nil => exact hg
  | cons call more ih =>
    rw [Build.run_attachAll_cons]
    exact ih (hg.attach call.1 call.2)

/-! ## Arenas that are built -/

/-- The builders that make one rule, perhaps on top of others, of texts and of rules of the
arena. -/
inductive Arena.Call (g : Arena σ) : Build σ RuleId → Prop where
  | literal (text : String) : g.Call (Build.literal text)
  | range (lo hi : Char) : g.Call (Build.range lo hi)
  | pattern [Regex.Library] (source : String) : g.Call (Build.pattern source)
  | reference (name : String) : g.Call (Build.reference name)
  | not {a : Operand} : g.Owns a → g.Call (Build.not a)
  | endOfInput {a : Operand} : g.Owns a → g.Call (Build.endOfInput a)
  | zeroOrMore {a : Operand} : g.Owns a → g.Call (Build.zeroOrMore a)
  | oneOrMore {a : Operand} : g.Owns a → g.Call (Build.oneOrMore a)
  | oneOrMoreSpaced {a : Operand} : g.Owns a → g.Call (Build.oneOrMoreSpaced a)
  | optional {a : Operand} : g.Owns a → g.Call (Build.optional a)
  | action {a : Operand} (run : Action σ) : g.Owns a → g.Call (Build.action a run)
  | sequence {a b : Operand} : g.Owns a → g.Owns b → g.Call (Build.sequence a b)
  | spaced {a b : Operand} : g.Owns a → g.Owns b → g.Call (Build.spaced a b)
  | choice {a b : Operand} : g.Owns a → g.Owns b → g.Call (Build.choice a b)

/-- What comes of a new arena by the calls that builders allow. A call that is refused may leave
the arena as it was. -/
inductive Arena.Built : Arena σ → Prop where
  | fresh : Built .fresh
  | call {g : Arena σ} {x : Build σ RuleId} : Built g → g.Call x → Built (x.run g).2
  | sequenceOf {g : Arena σ} {ids : List RuleId} :
    Built g → (∀ id ∈ ids, id.index < g.size) → Built ((Build.sequenceOf ids).run.run g).2
  | spacedOf {g : Arena σ} {ids : List RuleId} :
    Built g → (∀ id ∈ ids, id.index < g.size) → Built ((Build.spacedOf ids).run.run g).2
  | choiceOf {g : Arena σ} {ids : List RuleId} :
    Built g → (∀ id ∈ ids, id.index < g.size) → Built ((Build.choiceOf ids).run.run g).2
  | register {g : Arena σ} (name : String) {id : RuleId} :
    Built g → id.index < g.size → Built ((Build.register name id).run g).2
  | attach {g : Arena σ} (name : String) (run : Action σ) :
    Built g → Built ((Build.attach name run).run.run g).2
  | setWhitespace {g : Arena σ} {id : RuleId} :
    Built g → id.index < g.size → Built ((Build.setWhitespace id).run g).2

section

variable {g : Arena σ} {x : Build σ RuleId}

theorem Arena.Call.makes (hg : g.Ordered) (h : g.Call x) : Build.Makes g x := by
  cases h with
  | literal text => exact .push hg (by simp [Rule.children])
  | range lo hi => exact .push hg (by simp [Rule.children])
  | pattern source => exact .pattern hg source
  | reference name => exact .push hg (by simp [Rule.children])
  | not ha => exact .unary (fun _ => rfl) hg ha
  | endOfInput ha => exact .unary (fun _ => rfl) hg ha
  | zeroOrMore ha => exact .unary (fun _ => rfl) hg ha
  | oneOrMore ha => exact .unary (fun _ => rfl) hg ha
  | oneOrMoreSpaced ha => exact .oneOrMoreSpaced hg ha
  | optional ha => exact .unary (fun _ => rfl) hg ha
  | action run ha => exact .unary (fun _ => rfl) hg ha
  | sequence ha hb => exact .binary (fun _ _ => rfl) hg ha hb
  | spaced ha hb => exact .binary (fun _ _ => rfl) hg ha hb
  | choice ha hb => exact .binary (fun _ _ => rfl) hg ha hb

theorem ordered_fresh : (Arena.fresh : Arena σ).Ordered := by
  rw [fresh_eq]
  refine ⟨?_, ?_, ?_⟩
  · rintro ⟨k⟩ r b hr hb
    have hk : k < 10 := index_lt_of_rule? hr
    revert b
    interval_cases k <;> cases hr <;> simp [spaceRules, Rule.children]
  · intro n b hb
    cases hb
  · show 9 < 10
    omega

/-- Building only ever adds to a new arena. -/
theorem Arena.Built.grown (h : g.Built) : Arena.Grown .fresh g := by
  induction h with
  | fresh => exact .refl ordered_fresh
  | call _ hx ih => exact ih.trans (hx.makes ih.ordered).grown
  | sequenceOf _ hids ih => exact ih.trans (Build.grown_chainAll (fun _ _ => rfl) ih.ordered hids)
  | spacedOf _ hids ih => exact ih.trans (Build.grown_chainAll (fun _ _ => rfl) ih.ordered hids)
  | choiceOf _ hids ih => exact ih.trans (Build.grown_chainAll (fun _ _ => rfl) ih.ordered hids)
  | register name _ hid ih => exact ih.trans (.register ih.ordered name hid)
  | attach name run _ ih => exact ih.trans (Build.grown_attach ih.ordered name run)
  | setWhitespace _ hid ih => exact ih.trans (.setWhitespace ih.ordered hid)

theorem Arena.Built.ordered (h : g.Built) : g.Ordered := h.grown.ordered

/-- What has grown out of a new arena has the rules of the default white space. -/
theorem Arena.Grown.hasDefaultSpace (h : Arena.Grown .fresh g) : g.HasDefaultSpace := by
  intro k hk
  have hlt : k < (spaceRules (σ := σ)).length := hk
  rw [List.getElem?_eq_getElem hlt]
  apply h.rule
  rw [fresh_eq, Arena.rule?, List.getElem?_toArray]
  exact List.getElem?_eq_getElem hlt

theorem Arena.Ordered.closed (hg : g.Ordered) : g.Closed where
  child hr hb := Nat.lt_trans (hg.child hr hb) (index_lt_of_rule? hr)
  name := hg.name
  whitespace := hg.whitespace

end

end Peg
