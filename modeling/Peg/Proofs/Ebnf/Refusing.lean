-- Which grammars are refused by which arenas. The names that count are those of the productions and
-- those that the arena knows, but whatever the arena refers to has to be among them, not only what
-- the grammar does.
import Peg.Proofs.Ebnf.Installing

namespace Peg

variable {σ : Type} {α β : Type}

/-! ## The names that an arena refers to -/

/-- Some rule of the arena refers to the name. -/
def Arena.Mentions (g : Arena σ) (name : String) : Prop :=
  ∃ id, g.rule? id = some (.reference name)

theorem mentions_push (g : Arena σ) (r : Rule σ) (name : String) :
    ((Build.push r).run g).2.Mentions name ↔ g.Mentions name ∨ r = .reference name := by
  constructor
  · rintro ⟨id, hr⟩
    rw [rule?_push] at hr
    split at hr
    · exact .inr (Option.some.inj hr)
    · exact .inl ⟨id, hr⟩
  · rintro (⟨id, hr⟩ | rfl)
    · exact ⟨id, (Arena.Extends.push g r).rule hr⟩
    · exact ⟨_, rule?_of_push⟩

/-- The steps add references to these names, whatever arena they start from, and no names. -/
structure Build.Mentioning (names : String → Prop) (x : Build σ α) : Prop where
  mentions : ∀ g n, (x.run g).2.Mentions n ↔ g.Mentions n ∨ names n
  named : ∀ g n, (x.run g).2.named? n = g.named? n

namespace Build

variable {names names' : String → Prop} {x : Build σ α}

theorem Mentioning.of_iff (hx : Mentioning names x) (h : ∀ n, names n ↔ names' n) :
    Mentioning names' x := ⟨fun g n => by rw [hx.mentions, h], hx.named⟩

theorem Mentioning.push {r : Rule σ} (hr : ∀ n, r = .reference n ↔ names n) :
    Mentioning names (Build.push r) where
  mentions g n := by rw [mentions_push, hr]
  named g n := by
    rw [run_push]
    rfl

theorem Mentioning.bind {next : α → Build σ β} (hx : Mentioning names x)
    (hnext : ∀ a, Mentioning names' (next a)) :
    Mentioning (fun n => names n ∨ names' n) (x >>= next) where
  mentions g n := by rw [run_bind, (hnext _).mentions, hx.mentions, or_assoc]
  named g n := by rw [run_bind, (hnext _).named, hx.named]

/-- A rule that is no reference can be added behind the steps. -/
theorem Mentioning.bind_push {form : α → Rule σ} (hx : Mentioning names x)
    (hform : ∀ a n, form a ≠ .reference n) :
    Mentioning names (x >>= fun a => Build.push (form a)) :=
  (hx.bind fun a => push fun n => iff_false_intro (hform a n)).of_iff fun _ => by rw [or_false]

end Build

namespace Ebnf

/-! ## The names that a grammar refers to -/

/-- The names in an expression. -/
def Expr.identifiers : Expr → List String
  | identifier name => [name]
  | terminal _ | range _ _ => []
  | optional e | repetition e | group e => e.identifiers
  | exception a b | alternation a b | concatenation a b => a.identifiers ++ b.identifiers

/-- The names on the right-hand sides of a grammar. -/
def Grammar.identifiers (grammar : Grammar) : List String :=
  grammar.productions.flatMap (·.body.identifiers)

/-- The names that a grammar defines. -/
def Grammar.names (grammar : Grammar) : List String := grammar.productions.map (·.name)

theorem Spacing.rule_ne_reference (spacing : Spacing) (a b : RuleId) (name : String) :
    (spacing.rule a b : Rule σ) ≠ .reference name := by
  cases spacing <;> simp [Spacing.rule]

/-- Building an expression adds references to the names in it. -/
theorem Expr.mentioning_build (spacing : Spacing) (e : Expr) :
    (e.build spacing : Build σ RuleId).Mentioning (· ∈ e.identifiers) := by
  induction e with
  | identifier name => exact .push fun n => by simp [identifiers, eq_comm]
  | terminal text => exact .push fun n => by simp [identifiers]
  | range lo hi => exact .push fun n => by simp [identifiers]
  | optional e ih => exact ih.bind_push (by simp)
  | repetition e ih => exact ih.bind_push (by simp)
  | group e ih => exact ih
  | exception base except ihbase ihexcept =>
    have hguard : ∀ b, (Build.push (.not b) : Build σ RuleId).Mentioning fun _ => False :=
      fun b => .push (by simp)
    refine (ihexcept.bind fun b => (hguard b).bind fun guard =>
      ihbase.bind_push (by simp)).of_iff fun n => ?_
    simp [identifiers, or_comm]
  | alternation first second ihfirst ihsecond =>
    refine (ihfirst.bind fun a => ihsecond.bind_push (by simp)).of_iff fun n => ?_
    simp [identifiers]
  | concatenation first second ihfirst ihsecond =>
    refine (ihfirst.bind fun a => ihsecond.bind_push
      fun b => spacing.rule_ne_reference a b).of_iff fun n => ?_
    simp [identifiers]

/-- What installing a production makes of an arena. -/
theorem install_mentions (spacing : Spacing) (p : Production) (g : Arena σ) (n : String) :
    (((p.install spacing).run g).2.Mentions n ↔ g.Mentions n ∨ n ∈ p.body.identifiers) ∧
      ((((p.install spacing).run g).2.named? n).isSome ↔ (g.named? n).isSome ∨ n = p.name) := by
  have hbuild : (p.body.build spacing : Build σ RuleId).Mentioning (· ∈ p.body.identifiers) :=
    p.body.mentioning_build spacing
  -- the name is given behind the building, and a warning changes nothing here
  have hregister : ∀ id, ((((p.body.build spacing).run g).2.register p.name id).named? n).isSome ↔
      (g.named? n).isSome ∨ n = p.name := by
    intro id
    rw [Arena.named?_register, hbuild.named]
    by_cases hn : n = p.name <;> simp [hn]
  rw [p.run_install]
  dsimp only
  split <;> exact ⟨hbuild.mentions g n, hregister _⟩

/-- What installing productions one after another makes of an arena. -/
theorem installAll_mentions (spacing : Spacing) (productions : List Production) (g : Arena σ)
    (n : String) :
    ((installAll spacing productions g).Mentions n ↔
        g.Mentions n ∨ n ∈ (Grammar.mk productions).identifiers) ∧
      (((installAll spacing productions g).named? n).isSome ↔
        (g.named? n).isSome ∨ n ∈ (Grammar.mk productions).names) := by
  induction productions generalizing g with
  | nil => simp [installAll, Grammar.identifiers, Grammar.names]
  | cons p more ih =>
    obtain ⟨hmentions, hnamed⟩ := install_mentions spacing p g n
    obtain ⟨hmore, hmore'⟩ := ih ((p.install spacing).run g).2
    refine ⟨hmore.trans ?_, hmore'.trans ?_⟩
    · rw [hmentions]
      simp [Grammar.identifiers, or_assoc]
    · rw [hnamed]
      simp only [Grammar.names, List.map_cons, List.mem_cons, or_assoc]

/-! ## Refused grammars -/

/-- The grammar refers to the name, or the arena does that it is to be installed in, and neither of
them knows it. -/
def Grammar.Misses (grammar : Grammar) (g : Arena σ) (name : String) : Prop :=
  (name ∈ grammar.identifiers ∨ g.Mentions name) ∧ name ∉ grammar.names ∧ g.named? name = none

section

variable {spacing : Spacing} {grammar : Grammar} {g : Arena σ} {name : String}

/-- A name is missed exactly when references to it dangle behind the productions. -/
theorem misses_iff (spacing : Spacing) :
    grammar.Misses g name ↔ ∃ id, (installAll spacing grammar.productions g).Dangles id name := by
  obtain ⟨hmentions, hnamed⟩ := installAll_mentions spacing grammar.productions g name
  have hunnamed : (installAll spacing grammar.productions g).named? name = none ↔
      name ∉ grammar.names ∧ g.named? name = none := by
    rw [← Option.not_isSome_iff_eq_none, hnamed, not_or, Option.not_isSome_iff_eq_none, and_comm]
  rw [Grammar.Misses, or_comm, ← hmentions, ← hunnamed]
  exact exists_and_right.symm

theorem install_empty (h : grammar.productions = []) :
    ((grammar.install spacing).run.run g).1 = .error .emptyGrammar := by
  obtain ⟨productions⟩ := grammar
  cases h
  rfl

/-- A grammar with productions is installed if no name is missed. -/
theorem install_answer (spacing : Spacing) (g : Arena σ) (hne : grammar.productions ≠ []) :
    (∃ id, ((grammar.install spacing).run.run g).1 = .ok id ∧ ∀ name, ¬ grammar.Misses g name) ∨
      ∃ name, ((grammar.install spacing).run.run g).1 =
        .error (.uninstallable (.unknownRule name)) ∧ grammar.Misses g name := by
  obtain ⟨_ | ⟨first, more⟩⟩ := grammar
  · exact absurd rfl hne
  · rw [run_install]
    cases hvalid : (installAll spacing (first :: more) g).validate with
    | ok =>
      simp only [hvalid]
      refine .inl ⟨_, rfl, ?_⟩
      intro name hmisses
      obtain ⟨id, hd⟩ := (misses_iff spacing).1 hmisses
      exact validate_eq_ok_iff_forall.1 hvalid id name hd
    | error e =>
      obtain ⟨id, name, rfl, hd, -⟩ := validate_eq_error_iff.1 hvalid
      simp only [hvalid]
      exact .inr ⟨name, rfl, (misses_iff spacing).2 ⟨id, hd⟩⟩

end

/-- A grammar is refused for want of productions, or for a name that stands for nothing and that it
refers to itself, or that a rule refers to which was there before. -/
theorem grammars_are_refused_for_missing_names (spacing : Spacing) (grammar : Grammar)
    (g : Arena σ) :
    let answer := ((grammar.install spacing).run.run g).1
    (answer = .error .emptyGrammar ↔ grammar.productions = []) ∧
      ((∃ name, answer = .error (.uninstallable (.unknownRule name))) ↔
        grammar.productions ≠ [] ∧ ∃ name, grammar.Misses g name) ∧
      (∀ name, answer = .error (.uninstallable (.unknownRule name)) → grammar.Misses g name) ∧
      ((∃ id, answer = .ok id) ↔ grammar.productions ≠ [] ∧ ∀ name, ¬ grammar.Misses g name) := by
  intro answer
  by_cases hempty : grammar.productions = []
  · have hanswer : answer = .error .emptyGrammar := install_empty hempty
    simp [hanswer, hempty]
  · obtain ⟨id, hid, hknown⟩ | ⟨name, hname, hmisses⟩ :=
      install_answer spacing g hempty
    · have hanswer : answer = .ok id := hid
      simp [hanswer, hempty, hknown]
    · have hanswer : answer = .error (.uninstallable (.unknownRule name)) := hname
      have hsome : ∃ name, grammar.Misses g name := ⟨name, hmisses⟩
      simp [hanswer, hempty, hsome, hmisses]

/-- A grammar that refers to no name at all. -/
def justX : Grammar := ⟨[⟨"a", .terminal "x"⟩]⟩

theorem just_x_waits_for_a_name :
    justX.Misses waiting "later" ∧
      ∀ name, ¬ justX.Misses (waiting.register "later" ⟨9⟩) name := by
  constructor
  · obtain ⟨-, -, hmisses, -⟩ := grammars_are_refused_for_missing_names .spaced justX waiting
    exact hmisses "later" rfl
  · obtain ⟨-, -, -, hinstalled⟩ :=
      grammars_are_refused_for_missing_names .spaced justX (waiting.register "later" ⟨9⟩)
    exact (hinstalled.1 ⟨_, rfl⟩).2

theorem a_reference_elsewhere_is_refused :
    waiting.Built ∧ justX.productions ≠ [] ∧ justX.identifiers = [] ∧ ∀ spacing,
      ((justX.install spacing).run.run waiting).1 =
        .error (.uninstallable (.unknownRule "later")) := by
  refine ⟨.call .fresh (.reference "later"), by decide, rfl, ?_⟩
  intro spacing
  cases spacing <;> rfl

section

variable {spacing : Spacing} {grammar other : Grammar} {g : Arena σ} {name : String}

/-- A grammar that is refused leaves its references behind, and every grammar that does not define
the name that it misses is refused from then on. -/
theorem Grammar.Misses.after_refusal (h : grammar.Misses g name) (hother : name ∉ other.names) :
    other.Misses ((grammar.install spacing).run.run g).2 name := by
  obtain ⟨_ | ⟨first, more⟩⟩ := grammar
  · obtain ⟨hmentions, -, hnamed⟩ := h
    exact ⟨.inr (hmentions.resolve_left (by simp [Grammar.identifiers])), hother, hnamed⟩
  · obtain ⟨id, hr, hnone⟩ := (misses_iff spacing).1 h
    rw [run_install]
    cases hvalid : (installAll spacing (first :: more) g).validate with
    | ok => exact absurd ⟨hr, hnone⟩ (validate_eq_ok_iff_forall.1 hvalid id name)
    | error e =>
      simp only [hvalid]
      exact ⟨.inr ⟨id, hr⟩, hother, hnone⟩

end

end Ebnf

end Peg
