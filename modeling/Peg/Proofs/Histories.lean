-- What becomes of a new arena by any number of edits, each of which is given only ids that the
-- arena has answered before. Edits may be refused half way; the arena stays in order all the same,
-- and it keeps every rule and every name.
import Peg.Arena.Render
import Peg.Proofs.Attaching
import Peg.Proofs.Ebnf.Installing

namespace Peg

open Ebnf

variable {σ : Type}

/-! ## Expressions of rules -/

/-- Every rule has an expression. The rules that stand inside of it come before it, one before the
other, so there is an end to them. -/
theorem Arena.Ordered.rendered {g : Arena σ} (hg : g.Ordered) {id : RuleId}
    (hid : id.index < g.size) :
    ∃ text, ∀ fuel, id.index < fuel → g.renderWithin fuel id = some text := by
  obtain ⟨k⟩ := id
  induction k using Nat.strong_induction_on with
  | _ k ih =>
  obtain ⟨r, hr⟩ := Option.isSome_iff_exists.1 (rule?_isSome.2 hid)
  have hpart : ∀ b ∈ r.children,
      ∃ text, ∀ fuel, k ≤ fuel → g.renderWithin fuel b = some text := by
    intro b hb
    have hbk : b.index < k := hg.child hr hb
    obtain ⟨text, htext⟩ := ih b.index hbk (Nat.lt_trans hbk hid)
    exact ⟨text, fun fuel hfuel => htext fuel (Nat.lt_of_lt_of_le hbk hfuel)⟩
  have hrule : ∀ text, (∀ fuel, k ≤ fuel → g.renderWithin (fuel + 1) ⟨k⟩ = some text) →
      ∃ text, ∀ fuel, k < fuel → g.renderWithin fuel ⟨k⟩ = some text := by
    refine fun text h => ⟨text, fun fuel hfuel => ?_⟩
    obtain ⟨fuel, rfl⟩ := Nat.exists_eq_succ_of_ne_zero (Nat.ne_zero_of_lt hfuel)
    exact h fuel (Nat.le_of_lt_succ hfuel)
  cases r with
  | literal | range | pattern | reference =>
    exact hrule _ fun fuel _ => by simp [renderWithin, hr]; rfl
  | not a | endOfInput a | zeroOrMore a | oneOrMore a | optional a | action a _ =>
    obtain ⟨text, htext⟩ := hpart a (by simp [Rule.children])
    exact hrule _ fun fuel hfuel => by simp [renderWithin, hr, htext fuel hfuel]; rfl
  | sequence a b | spaced a b | choice a b =>
    obtain ⟨text, htext⟩ := hpart a (by simp [Rule.children])
    obtain ⟨text', htext'⟩ := hpart b (by simp [Rule.children])
    exact hrule _ fun fuel hfuel => by
      simp [renderWithin, hr, htext fuel hfuel, htext' fuel hfuel]; rfl

/-! ## Edits -/

/-- A rule to be made, perhaps on top of others. -/
inductive Builder (σ : Type) where
  | literal (text : String)
  | range (lo hi : Char)
  | pattern (library : Regex.Library) (source : String)
  | reference (name : String)
  | not (a : Operand)
  | endOfInput (a : Operand)
  | zeroOrMore (a : Operand)
  | oneOrMore (a : Operand)
  | oneOrMoreSpaced (a : Operand)
  | optional (a : Operand)
  | action (a : Operand) (run : Action σ)
  | sequence (a b : Operand)
  | spaced (a b : Operand)
  | choice (a b : Operand)

def Builder.build : Builder σ → Build σ RuleId
  | literal text => Build.literal text
  | range lo hi => Build.range lo hi
  | pattern library source => @Build.pattern σ library source
  | reference name => Build.reference name
  | not a => Build.not a
  | endOfInput a => Build.endOfInput a
  | zeroOrMore a => Build.zeroOrMore a
  | oneOrMore a => Build.oneOrMore a
  | oneOrMoreSpaced a => Build.oneOrMoreSpaced a
  | optional a => Build.optional a
  | action a run => Build.action a run
  | sequence a b => Build.sequence a b
  | spaced a b => Build.spaced a b
  | choice a b => Build.choice a b

def Builder.operands : Builder σ → List Operand
  | literal _ | range _ _ | pattern _ _ | reference _ => []
  | not a | endOfInput a | zeroOrMore a | oneOrMore a | oneOrMoreSpaced a | optional a
  | action a _ => [a]
  | sequence a b | spaced a b | choice a b => [a, b]

/-- Something that is asked of an arena. -/
inductive Edit (σ : Type) where
  | make (b : Builder σ)
  | sequenceOf (ids : List RuleId)
  | spacedOf (ids : List RuleId)
  | choiceOf (ids : List RuleId)
  | register (name : String) (id : RuleId)
  | attach (name : String) (run : Action σ)
  | whitespace
  | setWhitespace (id : RuleId)
  /-- The rule that a name stands for. -/
  | named (name : String)
  /-- The rules that a rule refers to. -/
  | children (id : RuleId)
  | expression (spacing : Spacing) (e : Expr)
  | install (spacing : Spacing) (grammar : Grammar)

/-- The steps, with the id that they have answered as a list. -/
def Build.one (x : Build σ RuleId) : Build σ (List RuleId) := return [← x]

/-- The steps, with the id that they have answered as a list, which is empty if they are refused. -/
def Build.tried {ε : Type} (x : ExceptT ε (Build σ) RuleId) : Build σ (List RuleId) :=
  return (← x.run).toOption.toList

/-- Does what is asked, and answers with ids. An edit that is refused may have made some rules, but
it does not answer any. -/
def Edit.run : Edit σ → Build σ (List RuleId)
  | make b => .one b.build
  | sequenceOf ids => .tried (Build.sequenceOf ids)
  | spacedOf ids => .tried (Build.spacedOf ids)
  | choiceOf ids => .tried (Build.choiceOf ids)
  | register name id => return (← Build.register name id).toList
  | attach name run => .tried (Build.attach name run)
  | whitespace => .one Build.whitespace
  | setWhitespace id => do
    Build.setWhitespace id
    return []
  | named name => return ((← get).named? name).toList
  | children id => return (((← get).rule? id).map (·.children)).getD []
  | expression spacing e => .one (e.build spacing)
  | install spacing grammar => .tried (grammar.install spacing)

/-- The id that an operand is, if it is no text. -/
def Operand.ids : Operand → List RuleId
  | rule id => [id]
  | text _ => []

/-- The ids that an edit is given. -/
def Edit.operands : Edit σ → List RuleId
  | make b => b.operands.flatMap (·.ids)
  | sequenceOf ids | spacedOf ids | choiceOf ids => ids
  | register _ id | setWhitespace id | children id => [id]
  | attach _ _ | whitespace | named _ | expression _ _ | install _ _ => []

/-! ## One edit -/

/-- The steps keep the arena in order, and answer with ids of it. -/
structure Build.Yields (g : Arena σ) (x : Build σ (List RuleId)) : Prop where
  grown : g.Grown (x.run g).2
  own : ∀ id ∈ (x.run g).1, id.index < (x.run g).2.size

namespace Build

variable {g : Arena σ} {ε : Type}

theorem Makes.yields {x : Build σ RuleId} (hx : Makes g x) : Yields g (one x) where
  grown := hx.grown
  own id hid := by
    obtain rfl : id = (x.run g).1 := List.mem_singleton.1 hid
    exact hx.own

theorem Yields.tried {x : ExceptT ε (Build σ) RuleId} (hgrown : g.Grown (x.run.run g).2)
    (hown : ∀ id, (x.run.run g).1 = .ok id → id.index < (x.run.run g).2.size) :
    Yields g (tried x) where
  grown := hgrown
  own id hid := by
    apply hown
    have hsome : (x.run.run g).1.toOption = some id := Option.mem_toList.1 hid
    cases hanswer : (x.run.run g).1 with
    | error e => rw [hanswer] at hsome; cases hsome
    | ok id' => rw [hanswer] at hsome; cases hsome; rfl

theorem Yields.chainAll {form : RuleId → RuleId → Rule σ}
    (hform : ∀ a b, (form a b).children = [a, b]) (hg : g.Ordered) {ids : List RuleId}
    (hids : ∀ id ∈ ids, id.index < g.size) : Yields g (Build.tried (Build.chainAll form ids)) := by
  refine .tried (grown_chainAll hform hg hids) fun id hid => ?_
  cases ids with
  | nil => cases hid
  | cons first more =>
    obtain ⟨hfirst, hmore⟩ := List.forall_mem_cons.1 hids
    cases hid
    exact (Makes.chain hform hg hfirst hmore).own

theorem Yields.attach (hg : g.Ordered) (name : String) (run : Action σ) :
    Yields g (Build.tried (Build.attach name run)) := by
  refine .tried (grown_attach hg name run) fun id hid => ?_
  cases hfound : g.named? name with
  | none =>
    rw [run_attach_of_none hfound] at hid
    cases hid
  | some a =>
    have hmade : Makes g (Build.push (.action a run)) :=
      .push hg (by simpa [Rule.children] using hg.name hfound)
    rw [run_attach_of_some hfound] at hid ⊢
    cases hid
    exact hmade.own

theorem Yields.install (hg : g.Ordered) (spacing : Spacing) (grammar : Grammar) :
    Yields g (Build.tried (grammar.install spacing)) := by
  obtain ⟨_ | ⟨first, more⟩⟩ := grammar
  · exact .tried (.refl hg) fun id hid => by cases hid
  · have hall : g.Grown (installAll spacing (first :: more) g) := grown_installAll hg _
    have hput : Makes (installAll spacing (first :: more) g) (Build.reference first.name) :=
      .push hall.ordered (by simp [Rule.children])
    have hrun := run_install spacing first more g
    cases hvalid : (installAll spacing (first :: more) g).validate with
    | error e =>
      simp only [hvalid] at hrun
      refine .tried ?_ fun id hid => ?_
      · rw [hrun]
        exact hall
      · rw [hrun] at hid
        cases hid
    | ok =>
      simp only [hvalid] at hrun
      refine .tried ?_ fun id hid => ?_
      · rw [hrun]
        exact hall.trans hput.grown
      · rw [hrun] at hid ⊢
        cases hid
        exact hput.own

end Build

section

variable {g : Arena σ}

theorem Builder.call {b : Builder σ} (h : ∀ a ∈ b.operands, g.Owns a) : g.Call b.build := by
  cases b with
  | literal text => exact .literal text
  | range lo hi => exact .range lo hi
  | pattern library source => exact .pattern source
  | reference name => exact .reference name
  | not a => exact .not (h a (by simp [operands]))
  | endOfInput a => exact .endOfInput (h a (by simp [operands]))
  | zeroOrMore a => exact .zeroOrMore (h a (by simp [operands]))
  | oneOrMore a => exact .oneOrMore (h a (by simp [operands]))
  | oneOrMoreSpaced a => exact .oneOrMoreSpaced (h a (by simp [operands]))
  | optional a => exact .optional (h a (by simp [operands]))
  | action a run => exact .action run (h a (by simp [operands]))
  | sequence a b => exact .sequence (h a (by simp [operands])) (h b (by simp [operands]))
  | spaced a b => exact .spaced (h a (by simp [operands])) (h b (by simp [operands]))
  | choice a b => exact .choice (h a (by simp [operands])) (h b (by simp [operands]))

theorem Operand.owned {a : Operand} (h : ∀ id ∈ a.ids, id.index < g.size) : g.Owns a := by
  cases a with
  | rule id => exact h id (by simp [ids])
  | text text => trivial

/-- An edit that is given ids of an arena in order keeps it in order, and answers with ids of it. -/
theorem Edit.yields (hg : g.Ordered) {e : Edit σ} (h : ∀ id ∈ e.operands, id.index < g.size) :
    Build.Yields g e.run := by
  cases e with
  | make b =>
    refine ((Builder.call fun a ha => Operand.owned fun id hid => ?_).makes hg).yields
    exact h id (List.mem_flatMap.2 ⟨a, ha, hid⟩)
  | sequenceOf ids => exact .chainAll (fun _ _ => rfl) hg h
  | spacedOf ids => exact .chainAll (fun _ _ => rfl) hg h
  | choiceOf ids => exact .chainAll (fun _ _ => rfl) hg h
  | register name id =>
    refine ⟨.register hg name (h id (by simp [operands])), fun earlier hearlier => ?_⟩
    exact hg.name (Option.mem_toList.1 hearlier)
  | attach name run => exact .attach hg name run
  | whitespace => exact Build.Makes.yields ⟨.refl hg, hg.whitespace⟩
  | setWhitespace id =>
    exact ⟨.setWhitespace hg (h id (by simp [operands])), fun id hid => by cases hid⟩
  | named name => exact ⟨.refl hg, fun id hid => hg.name (Option.mem_toList.1 hid)⟩
  | children id =>
    refine ⟨.refl hg, fun b hb => ?_⟩
    have hpart : b ∈ ((g.rule? id).map (·.children)).getD [] := hb
    cases hr : g.rule? id with
    | none =>
      rw [hr] at hpart
      cases hpart
    | some r =>
      rw [hr] at hpart
      exact Nat.lt_trans (hg.child hr hpart) (index_lt_of_rule? hr)
  | expression spacing e =>
    obtain ⟨hadds, hat⟩ := e.puts_build spacing hg
    exact Build.Makes.yields ⟨hadds.grown, hat.lt⟩
  | install spacing grammar => exact .install hg spacing grammar

end

/-! ## Any number of edits -/

/-- An arena, and the ids that it has answered. -/
structure History (σ : Type) where
  arena : Arena σ
  known : List RuleId

namespace History

def start : History σ := ⟨.fresh, []⟩

def step (h : History σ) (e : Edit σ) : History σ :=
  let (ids, arena) := e.run.run h.arena
  ⟨arena, h.known ++ ids⟩

def after (h : History σ) (edits : List (Edit σ)) : History σ := edits.foldl step h

/-- Each edit is given only ids that have been answered before. -/
def Allows : History σ → List (Edit σ) → Prop
  | _, [] => True
  | h, e :: more => (∀ id ∈ e.operands, id ∈ h.known) ∧ (h.step e).Allows more

instance decidableAllows : (h : History σ) → (edits : List (Edit σ)) → Decidable (h.Allows edits)
  | _, [] => inferInstanceAs (Decidable True)
  | h, e :: more =>
    have := decidableAllows (h.step e) more
    inferInstanceAs (Decidable (_ ∧ (h.step e).Allows more))

/-- The arena is in order, and all ids are its own. -/
structure Sound (h : History σ) : Prop where
  ordered : h.arena.Ordered
  own : ∀ id ∈ h.known, id.index < h.arena.size

variable {h : History σ} {e : Edit σ} {edits : List (Edit σ)}

theorem sound_start : (start : History σ).Sound where
  ordered := ordered_fresh
  own id hid := by cases hid

theorem Sound.step (hh : h.Sound) (he : ∀ id ∈ e.operands, id ∈ h.known) :
    (h.step e).Sound ∧ h.arena.Grown (h.step e).arena := by
  obtain ⟨hgrown, hown⟩ := Edit.yields hh.ordered fun id hid => hh.own id (he id hid)
  refine ⟨⟨hgrown.ordered, fun id hid => ?_⟩, hgrown⟩
  rcases List.mem_append.1 hid with hid | hid
  · exact Nat.lt_of_lt_of_le (hh.own id hid) hgrown.size_le
  · exact hown id hid

theorem Sound.after (hh : h.Sound) (hedits : h.Allows edits) :
    (h.after edits).Sound ∧ h.arena.Grown (h.after edits).arena := by
  induction edits generalizing h with
  | nil => exact ⟨hh, .refl hh.ordered⟩
  | cons e more ih =>
    obtain ⟨hone, hgrown⟩ := hh.step hedits.1
    obtain ⟨hall, hgrown'⟩ := ih hone hedits.2
    exact ⟨hall, hgrown.trans hgrown'⟩

theorem allows_append {before later : List (Edit σ)} :
    h.Allows (before ++ later) ↔ h.Allows before ∧ (h.after before).Allows later := by
  induction before generalizing h with
  | nil => exact ⟨fun hlater => ⟨trivial, hlater⟩, And.right⟩
  | cons e more ih =>
    rw [List.cons_append, Allows, Allows, ih, and_assoc]
    rfl

end History

/-- Edits of a new arena, each of them with ids that have been answered before, are done or refused
in any order. Behind them every rule refers only to rules before it, and all ids that have been
answered, and those of names and of white space, are ids of rules. Every rule and every name that
was there after some of the edits is still there. Each rule can be looked up, and so can all rules
that a match of it comes to, and there is an end to its expression. -/
theorem edits_keep_an_arena_in_order {edits : List (Edit σ)}
    (hedits : (History.start : History σ).Allows edits) :
    (History.start.after edits).Sound ∧
      (∀ before later, edits = before ++ later →
        (History.start.after before).arena.Grown (History.start.after edits).arena) ∧
      ∀ id : RuleId, id.index < (History.start.after edits).arena.size →
        (∃ r, (History.start.after edits).arena.rule? id = some r) ∧
        (∀ s t, Match.eval (History.start.after edits).arena id s ≠ .error (.fault .noSuchRule) t) ∧
        ∃ text, ∀ fuel, id.index < fuel →
          (History.start.after edits).arena.renderWithin fuel id = some text := by
  obtain ⟨hsound, -⟩ := History.sound_start.after hedits
  refine ⟨hsound, ?_, fun id hid => ⟨?_, ?_, hsound.ordered.rendered hid⟩⟩
  · rintro before later rfl
    obtain ⟨hbefore, hlater⟩ := History.allows_append.1 hedits
    obtain ⟨hmiddle, -⟩ := History.sound_start.after hbefore
    obtain ⟨-, hgrown⟩ := hmiddle.after hlater
    rwa [History.after, History.after, List.foldl_append]
  · exact Option.isSome_iff_exists.1 (rule?_isSome.2 hid)
  · exact eval_ne_noSuchRule hsound.ordered.closed hid

/-- Words with an action, and three edits that are refused: a combination of nothing, a grammar that
refers to a name that stands for nothing, and an action for this name. -/
def wordEdits : List (Edit Unit) :=
  [.sequenceOf [],
    .make (.range 'a' 'z'),
    .make (.oneOrMoreSpaced (.rule ⟨10⟩)),
    .register "word" ⟨12⟩,
    .install .spaced ⟨[⟨"line", .concatenation (.identifier "word") (.identifier "stop")⟩]⟩,
    .attach "stop" fun output _ => output,
    .attach "word" fun output _ => output,
    .choiceOf [⟨16⟩, ⟨12⟩, ⟨10⟩],
    .setWhitespace ⟨18⟩]

/-- The refused grammar leaves three rules behind. What is built on later has an expression, and so
have these. -/
theorem words_are_edited_in_order :
    (History.start : History Unit).Allows wordEdits ∧
      (History.start.after wordEdits).known = [⟨10⟩, ⟨12⟩, ⟨16⟩, ⟨18⟩] ∧
      ∀ id : RuleId, id.index < 19 → ∃ text, ∀ fuel, id.index < fuel →
        (History.start.after wordEdits).arena.renderWithin fuel id = some text := by
  have hedits : (History.start : History Unit).Allows wordEdits := by decide +kernel
  have hsize : (History.start.after wordEdits).arena.size = 19 := by decide +kernel
  obtain ⟨-, -, hrules⟩ := edits_keep_an_arena_in_order hedits
  refine ⟨hedits, by decide +kernel, fun id hid => ?_⟩
  obtain ⟨-, -, hrendered⟩ := hrules id (hsize ▸ hid)
  exact hrendered

end Peg
