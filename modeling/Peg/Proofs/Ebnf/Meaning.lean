-- What a grammar means, told of its expressions without any rules: a relation between a text and
-- what is left of it. A grammar that has been installed matches what it means.
import Peg.Proofs.Ebnf.Installing
import Peg.Proofs.Semantics

namespace Peg.Ebnf

open Text

variable {σ : Type}

/-! ## The meaning of grammars -/

/-- What may be left out between the parts of a concatenation. -/
def Spacing.skip : Spacing → List Char → List Char
  | adjacent, x => x
  | spaced, x => x.dropWhile isLayoutBlank

/-- What is to be read: an expression, or the same one as often as it can be. `inside` is the name
of the production that is being read innermost. -/
inductive Aim where
  | once (inside : Option String) (e : Expr)
  | many (inside : Option String) (e : Expr)

/-- From a text an aim is met with so much of the text left, or it is not met. -/
inductive Grammar.Reads (grammar : Grammar) (spacing : Spacing) :
    Aim → List Char → Option (List Char) → Prop where
  | terminal {inside : Option String} {text : String} {y : List Char} :
    Reads grammar spacing (.once inside (.terminal text)) (text.toList ++ y) (some y)
  | terminalFails {inside : Option String} {text : String} {x : List Char} :
    ¬ text.toList <+: x → Reads grammar spacing (.once inside (.terminal text)) x none
  | range {inside : Option String} {lo hi c : Char} {y : List Char} :
    lo ≤ c → c ≤ hi → Reads grammar spacing (.once inside (.range lo hi)) (c :: y) (some y)
  | rangeFails {inside : Option String} {lo hi : Char} {x : List Char} :
    (∀ c ∈ x.head?, ¬ (lo ≤ c ∧ c ≤ hi)) →
      Reads grammar spacing (.once inside (.range lo hi)) x none
  | optional {inside : Option String} {e : Expr} {x y : List Char} :
    Reads grammar spacing (.once inside e) x (some y) →
      Reads grammar spacing (.once inside (.optional e)) x (some y)
  | optionalAbsent {inside : Option String} {e : Expr} {x : List Char} :
    Reads grammar spacing (.once inside e) x none →
      Reads grammar spacing (.once inside (.optional e)) x (some x)
  | repetition {inside : Option String} {e : Expr} {x : List Char} {r : Option (List Char)} :
    Reads grammar spacing (.many inside e) x r →
      Reads grammar spacing (.once inside (.repetition e)) x r
  /-- A group is its content. -/
  | group {inside : Option String} {e : Expr} {x : List Char} {r : Option (List Char)} :
    Reads grammar spacing (.once inside e) x r →
      Reads grammar spacing (.once inside (.group e)) x r
  /-- An exception is what it excepts from, where the text does not begin with what it excepts. -/
  | exception {inside : Option String} {base except : Expr} {x : List Char}
      {r : Option (List Char)} :
    Reads grammar spacing (.once inside except) x none →
      Reads grammar spacing (.once inside base) x r →
        Reads grammar spacing (.once inside (.exception base except)) x r
  | exceptionFails {inside : Option String} {base except : Expr} {x y : List Char} :
    Reads grammar spacing (.once inside except) x (some y) →
      Reads grammar spacing (.once inside (.exception base except)) x none
  /-- The second alternative is for where the first one fails. -/
  | alternationFirst {inside : Option String} {first second : Expr} {x y : List Char} :
    Reads grammar spacing (.once inside first) x (some y) →
      Reads grammar spacing (.once inside (.alternation first second)) x (some y)
  | alternationSecond {inside : Option String} {first second : Expr} {x : List Char}
      {r : Option (List Char)} :
    Reads grammar spacing (.once inside first) x none →
      Reads grammar spacing (.once inside second) x r →
        Reads grammar spacing (.once inside (.alternation first second)) x r
  | concatenation {inside : Option String} {first second : Expr} {x y : List Char}
      {r : Option (List Char)} :
    Reads grammar spacing (.once inside first) x (some y) →
      Reads grammar spacing (.once inside second) (spacing.skip y) r →
        Reads grammar spacing (.once inside (.concatenation first second)) x r
  | concatenationFails {inside : Option String} {first second : Expr} {x : List Char} :
    Reads grammar spacing (.once inside first) x none →
      Reads grammar spacing (.once inside (.concatenation first second)) x none
  /-- A name right inside of itself is refused. -/
  | refused {name : String} {x : List Char} :
    Reads grammar spacing (.once (some name) (.identifier name)) x none
  /-- A name is the last expression that has been given to it. -/
  | identifier {inside : Option String} {name : String} {e : Expr} {x : List Char}
      {r : Option (List Char)} :
    inside ≠ some name → lastOf name grammar.productions = some e →
      Reads grammar spacing (.once (some name) e) x r →
        Reads grammar spacing (.once inside (.identifier name)) x r
  /-- Repetition stops where the expression fails, -/
  | manyStop {inside : Option String} {e : Expr} {x : List Char} :
    Reads grammar spacing (.once inside e) x none →
      Reads grammar spacing (.many inside e) x (some x)
  /-- where it reads nothing, -/
  | manyIdle {inside : Option String} {e : Expr} {x : List Char} :
    Reads grammar spacing (.once inside e) x (some x) →
      Reads grammar spacing (.many inside e) x (some x)
  /-- and nowhere else. -/
  | manyStep {inside : Option String} {e : Expr} {x y : List Char} {r : Option (List Char)} :
    Reads grammar spacing (.once inside e) x (some y) → y ≠ x →
      Reads grammar spacing (.many inside e) y r → Reads grammar spacing (.many inside e) x r

/-- What a grammar makes of a text is what its first production makes of it. -/
def Grammar.Means (grammar : Grammar) (spacing : Spacing) (x : List Char)
    (r : Option (List Char)) : Prop :=
  ∃ first, grammar.productions.head? = some first ∧
    grammar.Reads spacing (.once none (.identifier first.name)) x r

/-! ## Installed grammars -/

section

variable {spacing : Spacing} {grammar : Grammar} {g : Arena σ} {e : Expr} {id : RuleId}
  {x y : List Char} {r : Option (List Char)} {inside : Option String}

/-- What a rule is, and what stands for it in the grammar, apart from groups. -/
inductive Expr.Form (spacing : Spacing) (g : Arena σ) : Expr → Rule σ → Prop where
  | identifier (name : String) : Form spacing g (.identifier name) (.reference name)
  | terminal (text : String) : Form spacing g (.terminal text) (.literal text)
  | range (lo hi : Char) : Form spacing g (.range lo hi) (.range lo hi)
  | optional {e : Expr} {a : RuleId} :
    e.At spacing g a → Form spacing g (.optional e) (.optional a)
  | repetition {e : Expr} {a : RuleId} :
    e.At spacing g a → Form spacing g (.repetition e) (.zeroOrMore a)
  | exception {base except : Expr} {guard a b : RuleId} :
    g.rule? guard = some (.not b) → base.At spacing g a → except.At spacing g b →
      Form spacing g (.exception base except) (.sequence guard a)
  | alternation {first second : Expr} {a b : RuleId} :
    first.At spacing g a → second.At spacing g b →
      Form spacing g (.alternation first second) (.choice a b)
  | adjacent {first second : Expr} {a b : RuleId} :
    spacing = .adjacent → first.At spacing g a → second.At spacing g b →
      Form spacing g (.concatenation first second) (.sequence a b)
  | spaced {first second : Expr} {a b : RuleId} :
    spacing = .spaced → first.At spacing g a → second.At spacing g b →
      Form spacing g (.concatenation first second) (.spaced a b)

/-- Groups aside, the expression that a rule stands for has the form of the rule. -/
theorem Expr.At.form (h : e.At spacing g id) {rule : Rule σ} (hr : g.rule? id = some rule) :
    ∃ e', e'.Form spacing g rule ∧ ∀ {grammar : Grammar} {inside x r},
      grammar.Reads spacing (.once inside e') x r → grammar.Reads spacing (.once inside e) x r := by
  induction h with
  | group _ ih =>
    obtain ⟨e', hform, hup⟩ := ih hr
    exact ⟨e', hform, fun h => .group (hup h)⟩
  | concatenation hr' ha hb =>
    rw [hr'] at hr
    cases hr
    cases spacing with
    | adjacent => exact ⟨_, .adjacent rfl ha hb, fun h => h⟩
    | spaced => exact ⟨_, .spaced rfl ha hb, fun h => h⟩
  | identifier hr' | terminal hr' | range hr' =>
    rw [hr'] at hr
    cases hr
    exact ⟨_, by constructor, fun h => h⟩
  | optional hr' ha _ | repetition hr' ha _ =>
    rw [hr'] at hr
    cases hr
    exact ⟨_, by constructor; exact ha, fun h => h⟩
  | exception hr' hguard ha hb =>
    rw [hr'] at hr
    cases hr
    exact ⟨_, .exception hguard ha hb, fun h => h⟩
  | alternation hr' ha hb =>
    rw [hr'] at hr
    cases hr
    exact ⟨_, .alternation ha hb, fun h => h⟩

/-- The white space of an installed grammar leaves out all layout. -/
theorem Installed.derives_space {productions : List Production}
    (hg : Installed spacing productions g) {active : Option String} (x : List Char) :
    Derives g (.once active g.whitespace) x (some (x.dropWhile isLayoutBlank)) := by
  have hspace : Answers g x ⟨⟨9⟩, active, x⟩ true (x.dropWhile isLayoutBlank) [] :=
    hg.grown.hasDefaultSpace.answers x
  rw [hg.whitespace]
  exact hspace.derived

/-! ## What an expression reads is derived -/

/-- What an aim has come to is derived for every rule that it may be the aim of. -/
def Aim.Derived (spacing : Spacing) (g : Arena σ) (x : List Char) (r : Option (List Char)) :
    Aim → Prop
  | .once inside e => ∀ id, e.At spacing g id → Derives g (.once inside id) x r
  | .many inside e => ∀ id, e.At spacing g id → Derives g (.many inside id) x r

namespace Aim.Derived

theorem terminal (text : String) (y : List Char) :
    (Aim.once inside (.terminal text)).Derived spacing g (text.toList ++ y) (some y) := by
  intro id hat
  cases hat with | terminal hr =>
  exact .literal hr

theorem terminalFails {text : String} (hx : ¬ text.toList <+: x) :
    (Aim.once inside (.terminal text)).Derived spacing g x none := by
  intro id hat
  cases hat with | terminal hr =>
  exact .literalFails hr hx

theorem range {lo hi c : Char} (hlo : lo ≤ c) (hhi : c ≤ hi) (y : List Char) :
    (Aim.once inside (.range lo hi)).Derived spacing g (c :: y) (some y) := by
  intro id hat
  cases hat with | range hr =>
  exact .range hr hlo hhi

theorem rangeFails {lo hi : Char} (hx : ∀ c ∈ x.head?, ¬ (lo ≤ c ∧ c ≤ hi)) :
    (Aim.once inside (.range lo hi)).Derived spacing g x none := by
  intro id hat
  cases hat with | range hr =>
  exact .rangeFails hr hx

theorem optional (h : (Aim.once inside e).Derived spacing g x (some y)) :
    (Aim.once inside (.optional e)).Derived spacing g x (some y) := by
  intro id hat
  cases hat with | optional hr ha =>
  exact .optional hr (h _ ha)

theorem optionalAbsent (h : (Aim.once inside e).Derived spacing g x none) :
    (Aim.once inside (.optional e)).Derived spacing g x (some x) := by
  intro id hat
  cases hat with | optional hr ha =>
  exact .optionalAbsent hr (h _ ha)

theorem repetition (h : (Aim.many inside e).Derived spacing g x r) :
    (Aim.once inside (.repetition e)).Derived spacing g x r := by
  intro id hat
  cases hat with | repetition hr ha =>
  exact .zeroOrMore hr (h _ ha)

theorem group (h : (Aim.once inside e).Derived spacing g x r) :
    (Aim.once inside (.group e)).Derived spacing g x r := by
  intro id hat
  cases hat with | group ha =>
  exact h id ha

/-- The rule of an exception looks ahead for what is excepted. -/
theorem exception {base except : Expr}
    (hexcept : (Aim.once inside except).Derived spacing g x none)
    (hbase : (Aim.once inside base).Derived spacing g x r) :
    (Aim.once inside (.exception base except)).Derived spacing g x r := by
  intro id hat
  cases hat with | exception hr hguard ha hb =>
  exact .sequence hr (.not hguard (hexcept _ hb)) (hbase _ ha)

theorem exceptionFails {base except : Expr}
    (hexcept : (Aim.once inside except).Derived spacing g x (some y)) :
    (Aim.once inside (.exception base except)).Derived spacing g x none := by
  intro id hat
  cases hat with | exception hr hguard ha hb =>
  exact .sequenceFails hr (.notFails hguard (hexcept _ hb))

theorem alternationFirst {first second : Expr}
    (hfirst : (Aim.once inside first).Derived spacing g x (some y)) :
    (Aim.once inside (.alternation first second)).Derived spacing g x (some y) := by
  intro id hat
  cases hat with | alternation hr ha hb =>
  exact .choiceFirst hr (hfirst _ ha)

theorem alternationSecond {first second : Expr}
    (hfirst : (Aim.once inside first).Derived spacing g x none)
    (hsecond : (Aim.once inside second).Derived spacing g x r) :
    (Aim.once inside (.alternation first second)).Derived spacing g x r := by
  intro id hat
  cases hat with | alternation hr ha hb =>
  exact .choiceSecond hr (hfirst _ ha) (hsecond _ hb)

/-- With white space between the parts, its rule leaves out what the meaning leaves out. -/
theorem concatenation {first second : Expr} (hg : Installed spacing grammar.productions g)
    (hfirst : (Aim.once inside first).Derived spacing g x (some y))
    (hsecond : (Aim.once inside second).Derived spacing g (spacing.skip y) r) :
    (Aim.once inside (.concatenation first second)).Derived spacing g x r := by
  intro id hat
  cases hat with | concatenation hr ha hb =>
  cases spacing with
  | adjacent => exact .sequence hr (hfirst _ ha) (hsecond _ hb)
  | spaced => exact .spaced hr (hfirst _ ha) (hg.derives_space y) (hsecond _ hb)

theorem concatenationFails {first second : Expr}
    (hfirst : (Aim.once inside first).Derived spacing g x none) :
    (Aim.once inside (.concatenation first second)).Derived spacing g x none := by
  intro id hat
  cases hat with | concatenation hr ha hb =>
  cases spacing with
  | adjacent => exact .sequenceFails hr (hfirst _ ha)
  | spaced => exact .spacedFails hr (hfirst _ ha)

theorem refused (name : String) (x : List Char) :
    (Aim.once (some name) (.identifier name)).Derived spacing g x none := by
  intro id hat
  cases hat with | identifier hr =>
  exact .refused hr

/-- The last expression that has been given to a name is what the name stands for in the arena. -/
theorem identifier {name : String} (hg : Installed spacing grammar.productions g)
    (hinside : inside ≠ some name) (hlast : lastOf name grammar.productions = some e)
    (h : (Aim.once (some name) e).Derived spacing g x r) :
    (Aim.once inside (.identifier name)).Derived spacing g x r := by
  intro id hat
  cases hat with | identifier hr =>
  obtain ⟨a, hnamed, ha⟩ := hg.named name e hlast
  exact .reference hr hinside hnamed (h a ha)

end Aim.Derived

/-- What an expression reads is derived for its rule. -/
theorem Grammar.Reads.derived {aim : Aim} (h : grammar.Reads spacing aim x r)
    (hg : Installed spacing grammar.productions g) : aim.Derived spacing g x r := by
  induction h with
  | terminal => exact .terminal _ _
  | terminalFails hx => exact .terminalFails hx
  | range hlo hhi => exact .range hlo hhi _
  | rangeFails hx => exact .rangeFails hx
  | optional _ ih => exact .optional ih
  | optionalAbsent _ ih => exact .optionalAbsent ih
  | repetition _ ih => exact .repetition ih
  | group _ ih => exact .group ih
  | exception _ _ ihexcept ihbase => exact .exception ihexcept ihbase
  | exceptionFails _ ih => exact .exceptionFails ih
  | alternationFirst _ ih => exact .alternationFirst ih
  | alternationSecond _ _ ih ih' => exact .alternationSecond ih ih'
  | concatenation _ _ ih ih' => exact .concatenation hg ih ih'
  | concatenationFails _ ih => exact .concatenationFails ih
  | refused => exact .refused _ _
  | identifier hinside hlast _ ih => exact .identifier hg hinside hlast ih
  | manyStop _ ih => exact fun id hat => .manyStop (ih id hat)
  | manyIdle _ ih => exact fun id hat => .manyIdle (ih id hat)
  | manyStep _ hne _ ih ih' => exact fun id hat => .manyStep (ih id hat) hne (ih' id hat)

/-! ## What is derived is read -/

/-- What a goal has come to is what the expressions say that its rule stands for. A rule that
forbids an expression tells whether the expression fails. -/
def Says (grammar : Grammar) (spacing : Spacing) (g : Arena σ) (x : List Char)
    (r : Option (List Char)) : Goal → Prop
  | .once inside id =>
    (∀ e : Expr, e.At spacing g id → grammar.Reads spacing (.once inside e) x r) ∧
    ∀ (e : Expr) (b : RuleId), g.rule? id = some (.not b) → e.At spacing g b →
      match r with
      | some y => y = x ∧ grammar.Reads spacing (.once inside e) x none
      | none => ∃ y, grammar.Reads spacing (.once inside e) x (some y)
  | .many inside id =>
    ∀ e : Expr, e.At spacing g id → grammar.Reads spacing (.many inside e) x r

/-- A rule that forbids nothing says what the expressions of its form say. -/
theorem Says.of_form {rule : Rule σ} (hr : g.rule? id = some rule) (hne : ∀ b, rule ≠ .not b)
    (h : ∀ e : Expr, e.Form spacing g rule → grammar.Reads spacing (.once inside e) x r) :
    Says grammar spacing g x r (.once inside id) := by
  constructor
  · intro e hat
    obtain ⟨e', hform, hup⟩ := hat.form hr
    exact hup (h e' hform)
  · intro e b hnot
    rw [hr] at hnot
    cases hnot
    exact absurd rfl (hne b)

/-- A rule that forbids another one stands for no expression. -/
theorem Says.of_not {b : RuleId} (hr : g.rule? id = some (.not b))
    (h : ∀ e : Expr, e.At spacing g b →
      match r with
      | some y => y = x ∧ grammar.Reads spacing (.once inside e) x none
      | none => ∃ y, grammar.Reads spacing (.once inside e) x (some y)) :
    Says grammar spacing g x r (.once inside id) := by
  constructor
  · intro e hat
    obtain ⟨e', hform, -⟩ := hat.form hr
    cases hform
  · intro e b' hnot
    rw [hr] at hnot
    cases hnot
    exact h e

namespace Says

theorem literal {text : String} (hr : g.rule? id = some (.literal text)) (y : List Char) :
    Says grammar spacing g (text.toList ++ y) (some y) (.once inside id) := by
  refine of_form hr (by simp) fun e hform => ?_
  cases hform
  exact .terminal

theorem literalFails {text : String} (hr : g.rule? id = some (.literal text))
    (hx : ¬ text.toList <+: x) : Says grammar spacing g x none (.once inside id) := by
  refine of_form hr (by simp) fun e hform => ?_
  cases hform
  exact .terminalFails hx

theorem range {lo hi c : Char} (hr : g.rule? id = some (.range lo hi)) (hlo : lo ≤ c)
    (hhi : c ≤ hi) (y : List Char) :
    Says grammar spacing g (c :: y) (some y) (.once inside id) := by
  refine of_form hr (by simp) fun e hform => ?_
  cases hform
  exact .range hlo hhi

theorem rangeFails {lo hi : Char} (hr : g.rule? id = some (.range lo hi))
    (hx : ∀ c ∈ x.head?, ¬ (lo ≤ c ∧ c ≤ hi)) :
    Says grammar spacing g x none (.once inside id) := by
  refine of_form hr (by simp) fun e hform => ?_
  cases hform
  exact .rangeFails hx

/-- Behind a rule that forbids an expression, a sequence is an exception. -/
theorem sequence {a b : RuleId} (hr : g.rule? id = some (.sequence a b))
    (ha : Says grammar spacing g x (some y) (.once inside a))
    (hb : Says grammar spacing g y r (.once inside b)) :
    Says grammar spacing g x r (.once inside id) := by
  refine of_form hr (by simp) fun e hform => ?_
  cases hform with
  | exception hguard hbase hexcept =>
    obtain ⟨rfl, hfails⟩ := ha.2 _ _ hguard hexcept
    exact .exception hfails (hb.1 _ hbase)
  | adjacent hspacing hfirst hsecond =>
    subst hspacing
    exact .concatenation (ha.1 _ hfirst) (hb.1 _ hsecond)

theorem sequenceFails {a b : RuleId} (hr : g.rule? id = some (.sequence a b))
    (ha : Says grammar spacing g x none (.once inside a)) :
    Says grammar spacing g x none (.once inside id) := by
  refine of_form hr (by simp) fun e hform => ?_
  cases hform with
  | exception hguard _ hexcept =>
    obtain ⟨y, hreads⟩ := ha.2 _ _ hguard hexcept
    exact .exceptionFails hreads
  | adjacent _ hfirst _ => exact .concatenationFails (ha.1 _ hfirst)

theorem spaced {a b : RuleId} {z : List Char} (hg : Installed spacing grammar.productions g)
    (hr : g.rule? id = some (.spaced a b))
    (ha : Says grammar spacing g x (some y) (.once inside a))
    (hspace : Derives g (.once inside g.whitespace) y (some z))
    (hb : Says grammar spacing g z r (.once inside b)) :
    Says grammar spacing g x r (.once inside id) := by
  refine of_form hr (by simp) fun e hform => ?_
  cases hform with
  | spaced hspacing hfirst hsecond =>
    subst hspacing
    cases Derives.unique (hg.derives_space y) hspace
    exact .concatenation (ha.1 _ hfirst) (hb.1 _ hsecond)

theorem spacedFails {a b : RuleId} (hr : g.rule? id = some (.spaced a b))
    (ha : Says grammar spacing g x none (.once inside a)) :
    Says grammar spacing g x none (.once inside id) := by
  refine of_form hr (by simp) fun e hform => ?_
  cases hform with
  | spaced _ hfirst _ => exact .concatenationFails (ha.1 _ hfirst)

theorem choiceFirst {a b : RuleId} (hr : g.rule? id = some (.choice a b))
    (ha : Says grammar spacing g x (some y) (.once inside a)) :
    Says grammar spacing g x (some y) (.once inside id) := by
  refine of_form hr (by simp) fun e hform => ?_
  cases hform with
  | alternation hfirst _ => exact .alternationFirst (ha.1 _ hfirst)

theorem choiceSecond {a b : RuleId} (hr : g.rule? id = some (.choice a b))
    (ha : Says grammar spacing g x none (.once inside a))
    (hb : Says grammar spacing g x r (.once inside b)) :
    Says grammar spacing g x r (.once inside id) := by
  refine of_form hr (by simp) fun e hform => ?_
  cases hform with
  | alternation hfirst hsecond => exact .alternationSecond (ha.1 _ hfirst) (hb.1 _ hsecond)

theorem zeroOrMore {a : RuleId} (hr : g.rule? id = some (.zeroOrMore a))
    (ha : Says grammar spacing g x r (.many inside a)) :
    Says grammar spacing g x r (.once inside id) := by
  refine of_form hr (by simp) fun e hform => ?_
  cases hform with
  | repetition hat => exact .repetition (ha _ hat)

theorem optional {a : RuleId} (hr : g.rule? id = some (.optional a))
    (ha : Says grammar spacing g x (some y) (.once inside a)) :
    Says grammar spacing g x (some y) (.once inside id) := by
  refine of_form hr (by simp) fun e hform => ?_
  cases hform with
  | optional hat => exact .optional (ha.1 _ hat)

theorem optionalAbsent {a : RuleId} (hr : g.rule? id = some (.optional a))
    (ha : Says grammar spacing g x none (.once inside a)) :
    Says grammar spacing g x (some x) (.once inside id) := by
  refine of_form hr (by simp) fun e hform => ?_
  cases hform with
  | optional hat => exact .optionalAbsent (ha.1 _ hat)

theorem refused {name : String} (hr : g.rule? id = some (.reference name)) (x : List Char) :
    Says grammar spacing g x none (.once (some name) id) := by
  refine of_form hr (by simp) fun e hform => ?_
  cases hform
  exact .refused

/-- The rule of a name stands for the last expression that has been given to the name. -/
theorem reference {name : String} {a : RuleId} (hg : Installed spacing grammar.productions g)
    (hr : g.rule? id = some (.reference name)) (hinside : inside ≠ some name)
    (hnamed : g.named? name = some a) (ha : Says grammar spacing g x r (.once (some name) a)) :
    Says grammar spacing g x r (.once inside id) := by
  refine of_form hr (by simp) fun e hform => ?_
  cases hform
  cases hlast : lastOf name grammar.productions with
  | none =>
    rw [hg.unnamed name hlast] at hnamed
    cases hnamed
  | some e =>
    obtain ⟨b, hb, hat⟩ := hg.named name e hlast
    rw [hnamed] at hb
    cases hb
    exact .identifier hinside hlast (ha.1 e hat)

end Says

/-- What is derived for a rule is what the expression says that the rule stands for. -/
theorem says_of_derives {goal : Goal} (h : Derives g goal x r)
    (hg : Installed spacing grammar.productions g) : Says grammar spacing g x r goal := by
  induction h with
  | literal hr => exact .literal hr _
  | literalFails hr hx => exact .literalFails hr hx
  | range hr hlo hhi => exact .range hr hlo hhi _
  | rangeFails hr hx => exact .rangeFails hr hx
  | pattern hr _ | patternFails hr _ => exact absurd hr (hg.noPattern _ _ _)
  | not hr _ ih => exact .of_not hr fun e hat => ⟨rfl, ih.1 e hat⟩
  | notFails hr _ ih => exact .of_not hr fun e hat => ⟨_, ih.1 e hat⟩
  | sequence hr _ _ ih ih' => exact .sequence hr ih ih'
  | sequenceFails hr _ ih => exact .sequenceFails hr ih
  | spaced hr _ hspace _ ih _ ih' => exact .spaced hg hr ih hspace ih'
  | spacedFails hr _ ih => exact .spacedFails hr ih
  | spacedFailsSpace _ _ hspace _ _ => cases Derives.unique (hg.derives_space _) hspace
  | choiceFirst hr _ ih => exact .choiceFirst hr ih
  | choiceSecond hr _ _ ih ih' => exact .choiceSecond hr ih ih'
  | zeroOrMore hr _ ih => exact .zeroOrMore hr ih
  | optional hr _ ih => exact .optional hr ih
  | optionalAbsent hr _ ih => exact .optionalAbsent hr ih
  | refused hr => exact .refused hr _
  | reference hr hinside hnamed _ ih => exact .reference hg hr hinside hnamed ih
  | endOfInput hr _ _ | endOfInputFails hr _ _ _ | oneOrMore hr _ _ _ _ | oneOrMoreFails hr _ _
  | action hr _ _ =>
    refine .of_form hr (by simp) fun e hform => ?_
    cases hform
  | manyStop _ ih => exact fun e hat => .manyStop (ih.1 e hat)
  | manyIdle _ ih => exact fun e hat => .manyIdle (ih.1 e hat)
  | manyStep _ hne _ ih ih' => exact fun e hat => .manyStep (ih.1 e hat) hne (ih' e hat)

/-- The reference to the first production stands for the meaning of the grammar. -/
theorem means_iff_derives {start : RuleId} {first : Production}
    (hfirst : grammar.productions.head? = some first)
    (hg : Installed spacing grammar.productions g)
    (hstart : g.rule? start = some (.reference first.name)) :
    grammar.Means spacing x r ↔ Derives g (.once none start) x r := by
  have hat : (Expr.identifier first.name).At spacing g start := .identifier hstart
  constructor
  · rintro ⟨first', hfirst', hreads⟩
    rw [hfirst] at hfirst'
    cases hfirst'
    exact hreads.derived hg start hat
  · intro h
    exact ⟨first, hfirst, (says_of_derives h hg).1 _ hat⟩

/-- A grammar that has been installed in a new arena matches a text from its start exactly as far as
the grammar means, and fails exactly where the grammar says so. No match comes to an error: one that
has no answer has no end, and the grammar has no meaning there. -/
theorem an_installed_grammar_matches_what_it_means {start : RuleId}
    (h : (grammar.install spacing).run.run Arena.fresh = (.ok start, g)) (input : List Char)
    (trace : Bool) :
    (∀ q, (∃ t, Match.eval g start (.ofText input trace) = .ok true t ∧ t.position = q) ↔
      ∃ y, grammar.Means spacing input (some y) ∧ offset input y = q) ∧
    ((∃ t, Match.eval g start (.ofText input trace) = .ok false t) ↔
      grammar.Means spacing input none) ∧
    ∀ halt t, Match.eval g start (.ofText input trace) = .error halt t →
      halt = .outOfFuel ∧ ∀ r, ¬ grammar.Means spacing input r := by
  obtain ⟨first, hfirst, hg, hstart, hnames⟩ := install_ok h
  have hmeans : ∀ r, grammar.Means spacing input r ↔ Derives g (.once none start) input r :=
    fun r => means_iff_derives hfirst hg hstart
  have hderived : ∀ {matched t}, Match.eval g start (.ofText input trace) = .ok matched t →
      grammar.Means spacing input (outcome matched t.cursor.rest) := fun hres =>
    (hmeans _).2 (eval_derived hres)
  have hanswer : ∀ r, grammar.Means spacing input r →
      ∃ t, Match.eval g start (.ofText input trace) = .ok r.isSome t ∧ ∀ y ∈ r, t.cursor.rest = y :=
    fun r hr => Derives.eval_ok (s := .ofText input trace) ((hmeans r).1 hr)
  have hposition : ∀ {matched t}, Match.eval g start (.ofText input trace) = .ok matched t →
      t.position = offset input t.cursor.rest := fun {matched t} hres => by
    obtain ⟨inside, -, hreach⟩ := eval_ok hres
    rw [MatchState.position, t.cursor.position_eq, hreach.input]
    rfl
  refine ⟨fun q => ⟨?_, ?_⟩, ⟨?_, ?_⟩, ?_⟩
  · rintro ⟨t, hres, rfl⟩
    exact ⟨t.cursor.rest, hderived hres, (hposition hres).symm⟩
  · rintro ⟨y, hy, rfl⟩
    obtain ⟨t, hres, ht⟩ := hanswer _ hy
    refine ⟨t, hres, ?_⟩
    rw [hposition hres, ht y rfl]
  · rintro ⟨t, hres⟩
    exact hderived hres
  · intro hnone
    obtain ⟨t, hres, -⟩ := hanswer _ hnone
    exact ⟨t, hres⟩
  · intro halt t hres
    have hfit : g.PatternsFit := fun id source finder hr => absurd hr (hg.noPattern _ _ _)
    refine ⟨outOfFuel_of_eval_error hg.grown.ordered.closed hfit hnames (index_lt_of_rule? hstart)
      hres, ?_⟩
    intro r hr
    obtain ⟨u, hok, -⟩ := hanswer r hr
    rw [hok] at hres
    cases hres

/-! ## Words without a letter -/

/-- A word is any number of letters other than `q`. -/
def wordGrammar : Grammar :=
  ⟨[⟨"word", .repetition (.exception (.identifier "letter") (.terminal "q"))⟩,
    ⟨"letter", .range 'a' 'z'⟩]⟩

theorem wordGrammar_means : wordGrammar.Means .adjacent ['a', 'q'] (some ['q']) := by
  have hletter : ∀ {c : Char} {y : List Char}, 'a' ≤ c → c ≤ 'z' →
      wordGrammar.Reads .adjacent (.once (some "word") (.identifier "letter")) (c :: y) (some y) :=
    fun hlo hhi => .identifier (by decide) rfl (.range hlo hhi)
  have hq : wordGrammar.Reads .adjacent (.once (some "word") (.terminal "q")) ['q'] (some []) :=
    .terminal (y := [])
  refine ⟨_, rfl, .identifier (by decide) rfl (.repetition ?_)⟩
  refine .manyStep (.exception (.terminalFails (by decide)) (hletter (by decide) (by decide)))
    (by decide) ?_
  exact .manyStop (.exceptionFails hq)

theorem a_word_ends_at_the_letter_that_is_left_out :
    ∃ g : Arena Unit, (wordGrammar.install .adjacent).run.run Arena.fresh = (.ok ⟨16⟩, g) ∧
      ∃ t, Match.eval g ⟨16⟩ (.ofText ['a', 'q'] false) = .ok true t ∧ t.position = 1 := by
  obtain ⟨g, hg⟩ : ∃ g : Arena Unit,
      (wordGrammar.install .adjacent).run.run Arena.fresh = (.ok ⟨16⟩, g) := ⟨_, rfl⟩
  obtain ⟨hmatches, -, -⟩ := an_installed_grammar_matches_what_it_means hg ['a', 'q'] false
  exact ⟨g, hg, (hmatches 1).2 ⟨['q'], wordGrammar_means, by decide⟩⟩

end

end Peg.Ebnf
