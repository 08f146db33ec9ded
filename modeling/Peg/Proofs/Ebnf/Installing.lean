-- What installing a grammar makes of an arena. Each expression has its rules in it, and each name
-- stands for the rules of the last production with the name.
import Peg.Ebnf.Install
import Peg.Proofs.References

namespace Peg

variable {σ : Type}

/-! ## Arenas with more rules -/

/-- `h` has more rules than `g`, none of them a regular expression, and nothing else has changed. -/
structure Arena.Adds (g h : Arena σ) : Prop where
  grown : g.Grown h
  names : h.names = g.names
  whitespace : h.whitespace = g.whitespace
  added : ∀ {id source finder}, h.rule? id = some (.pattern source finder) →
    g.rule? id = some (.pattern source finder)

section

variable {g h k : Arena σ} {r : Rule σ}

theorem Arena.Adds.trans (hgh : g.Adds h) (hhk : h.Adds k) : g.Adds k where
  grown := hgh.grown.trans hhk.grown
  names := hhk.names.trans hgh.names
  whitespace := hhk.whitespace.trans hgh.whitespace
  added hr := hgh.added (hhk.added hr)

/-- A rule that is no regular expression can be added. -/
theorem Arena.Adds.push (hg : g.Ordered) (hr : ∀ b ∈ r.children, b.index < g.size)
    (hne : ∀ source finder, r ≠ .pattern source finder) :
    g.Adds ((Build.push r).run g).2 where
  grown := .push hg hr
  names := by rw [Build.run_push]
  whitespace := by rw [Build.run_push]
  added {id source finder} hid := by
    rw [rule?_push] at hid
    split at hid
    · cases hid
      exact absurd rfl (hne source finder)
    · exact hid

/-- The steps add rules, and the one that they answer with is as it should be. -/
structure Build.Puts (P : Arena σ → RuleId → Prop) (g : Arena σ) (x : Build σ RuleId) : Prop where
  adds : g.Adds (x.run g).2
  here : P (x.run g).2 (x.run g).1

theorem Build.Puts.bind {P Q : Arena σ → RuleId → Prop} {x : Build σ RuleId}
    {next : RuleId → Build σ RuleId} (hx : Build.Puts P g x)
    (hnext : ∀ id h, g.Adds h → P h id → Build.Puts Q h (next id)) :
    Build.Puts Q g (x >>= next) := by
  obtain ⟨hadds, hhere⟩ := hnext _ _ hx.adds hx.here
  constructor
  · rw [Build.run_bind]
    exact hx.adds.trans hadds
  · rw [Build.run_bind]
    exact hhere

theorem Build.Puts.push {P : Arena σ → RuleId → Prop} (hg : g.Ordered)
    (hr : ∀ b ∈ r.children, b.index < g.size)
    (hne : ∀ source finder, r ≠ .pattern source finder)
    (hP : ∀ h id, g.Grown h → h.rule? id = some r → P h id) : Build.Puts P g (Build.push r) :=
  have hadds := Arena.Adds.push hg hr hne
  ⟨hadds, hP _ _ hadds.grown rule?_of_push⟩

/-- Every name that the arena refers to stands for a rule. -/
def Arena.Resolved (g : Arena σ) : Prop :=
  ∀ id name, g.rule? id = some (.reference name) → (g.named? name).isSome

theorem resolved_of_validate (h : g.validate = .ok ()) : g.Resolved :=
  fun id name hr => g.validate_eq_ok_iff.1 h name (mem_rules_iff.2 ⟨id, hr⟩)

theorem Arena.Resolved.push_reference {name : String} (hg : g.Resolved)
    (hname : (g.named? name).isSome) : ((Build.push (.reference name)).run g).2.Resolved := by
  intro id other hr
  have hsome : (g.named? other).isSome := by
    rw [rule?_push] at hr
    split at hr
    · cases hr
      exact hname
    · exact hg id other hr
  rwa [Build.run_push]

/-- Where an arena keeps to itself and refers to no name that it does not have, a match that has no
answer has no end. -/
theorem outOfFuel_of_eval_error (hg : g.Closed) (hfit : g.PatternsFit) (hnames : g.Resolved)
    {id : RuleId} (hid : id.index < g.size) {s t : MatchState} {halt : Halt}
    (h : Match.eval g id s = .error halt t) : halt = .outOfFuel := by
  by_contra hfuel
  obtain ⟨inside, stop, -, hrun, -⟩ := eval_error h hfuel
  obtain ⟨name, rfl⟩ := hrun.harmless hg hfit (plan_harmless hg hfit hid) stop rfl
  obtain ⟨id', hr, hnone⟩ := hrun.dangles rfl
  have hsome := hnames id' name hr
  rw [hnone] at hsome
  cases hsome

end

namespace Ebnf

/-! ## Expressions in an arena -/

/-- The rule stands for the expression. -/
inductive Expr.At (spacing : Spacing) (g : Arena σ) : Expr → RuleId → Prop where
  | identifier {name : String} {id : RuleId} :
    g.rule? id = some (.reference name) → At spacing g (.identifier name) id
  | terminal {text : String} {id : RuleId} :
    g.rule? id = some (.literal text) → At spacing g (.terminal text) id
  | range {lo hi : Char} {id : RuleId} :
    g.rule? id = some (.range lo hi) → At spacing g (.range lo hi) id
  | optional {e : Expr} {id a : RuleId} :
    g.rule? id = some (.optional a) → At spacing g e a → At spacing g (.optional e) id
  | repetition {e : Expr} {id a : RuleId} :
    g.rule? id = some (.zeroOrMore a) → At spacing g e a → At spacing g (.repetition e) id
  | group {e : Expr} {id : RuleId} : At spacing g e id → At spacing g (.group e) id
  | exception {base except : Expr} {id guard a b : RuleId} :
    g.rule? id = some (.sequence guard a) → g.rule? guard = some (.not b) →
      At spacing g base a → At spacing g except b → At spacing g (.exception base except) id
  | alternation {first second : Expr} {id a b : RuleId} :
    g.rule? id = some (.choice a b) → At spacing g first a → At spacing g second b →
      At spacing g (.alternation first second) id
  | concatenation {first second : Expr} {id a b : RuleId} :
    g.rule? id = some (spacing.rule a b) → At spacing g first a → At spacing g second b →
      At spacing g (.concatenation first second) id

section

variable {spacing : Spacing} {g h : Arena σ} {e : Expr} {id : RuleId}

theorem Expr.At.mono (hgh : g.Grown h) (he : e.At spacing g id) : e.At spacing h id := by
  induction he with
  | identifier hr => exact .identifier (hgh.rule hr)
  | terminal hr => exact .terminal (hgh.rule hr)
  | range hr => exact .range (hgh.rule hr)
  | optional hr _ ih => exact .optional (hgh.rule hr) ih
  | repetition hr _ ih => exact .repetition (hgh.rule hr) ih
  | group _ ih => exact .group ih
  | exception hr hguard _ _ ih ih' => exact .exception (hgh.rule hr) (hgh.rule hguard) ih ih'
  | alternation hr _ _ ih ih' => exact .alternation (hgh.rule hr) ih ih'
  | concatenation hr _ _ ih ih' => exact .concatenation (hgh.rule hr) ih ih'

/-- A rule that stands for an expression is there. -/
theorem Expr.At.lt (he : e.At spacing g id) : id.index < g.size := by
  induction he with
  | group _ ih => exact ih
  | identifier hr | terminal hr | range hr => exact index_lt_of_rule? hr
  | optional hr _ _ | repetition hr _ _ => exact index_lt_of_rule? hr
  | exception hr _ _ _ _ _ | alternation hr _ _ _ _ | concatenation hr _ _ _ _ =>
    exact index_lt_of_rule? hr

theorem Spacing.children_rule (spacing : Spacing) (a b : RuleId) :
    (spacing.rule a b : Rule σ).children = [a, b] := by
  cases spacing <;> rfl

theorem Spacing.rule_ne_pattern (spacing : Spacing) (a b : RuleId) (source : String)
    (finder : Option Regex.Finder) :
    (spacing.rule a b : Rule σ) ≠ .pattern source finder := by
  cases spacing <;> simp [Spacing.rule]

/-- Building an expression puts its rules into an arena. -/
theorem Expr.puts_build (spacing : Spacing) (e : Expr) (hg : g.Ordered) :
    Build.Puts (e.At spacing) g (e.build spacing) := by
  induction e generalizing g with
  | identifier name =>
    exact .push hg (by simp [Rule.children]) (by simp) fun _ _ _ hr => .identifier hr
  | terminal text =>
    exact .push hg (by simp [Rule.children]) (by simp) fun _ _ _ hr => .terminal hr
  | range lo hi => exact .push hg (by simp [Rule.children]) (by simp) fun _ _ _ hr => .range hr
  | optional e ih =>
    refine (ih hg).bind fun a h hadds ha => ?_
    exact .push hadds.grown.ordered (by simpa [Rule.children] using ha.lt) (by simp)
      fun k _ hk hr => .optional hr (ha.mono hk)
  | repetition e ih =>
    refine (ih hg).bind fun a h hadds ha => ?_
    exact .push hadds.grown.ordered (by simpa [Rule.children] using ha.lt) (by simp)
      fun k _ hk hr => .repetition hr (ha.mono hk)
  | group e ih =>
    obtain ⟨hadds, hhere⟩ := ih hg
    exact ⟨hadds, .group hhere⟩
  | exception base except ihbase ihexcept =>
    refine (ihexcept hg).bind fun b h hadds hb => ?_
    have hnot : Build.Puts (fun k id => k.rule? id = some (.not b)) h (Build.push (.not b)) :=
      .push hadds.grown.ordered (by simpa [Rule.children] using hb.lt) (by simp) fun _ _ _ hr => hr
    refine hnot.bind fun guard h' hadds' hguard => ?_
    refine (ihbase hadds'.grown.ordered).bind fun a k hadds'' ha => ?_
    have hguard' := hadds''.grown.rule hguard
    have hb' := hb.mono (hadds'.trans hadds'').grown
    have hlt := index_lt_of_rule? hguard'
    exact .push hadds''.grown.ordered (by simpa [Rule.children] using ⟨hlt, ha.lt⟩) (by simp)
      fun m _ hm hr => .exception hr (hm.rule hguard') (ha.mono hm) (hb'.mono hm)
  | alternation first second ihfirst ihsecond =>
    refine (ihfirst hg).bind fun a h hadds ha => ?_
    refine (ihsecond hadds.grown.ordered).bind fun b h' hadds' hb => ?_
    have ha' := ha.mono hadds'.grown
    exact .push hadds'.grown.ordered (by simpa [Rule.children] using ⟨ha'.lt, hb.lt⟩) (by simp)
      fun k _ hk hr => .alternation hr (ha'.mono hk) (hb.mono hk)
  | concatenation first second ihfirst ihsecond =>
    refine (ihfirst hg).bind fun a h hadds ha => ?_
    refine (ihsecond hadds.grown.ordered).bind fun b h' hadds' hb => ?_
    have ha' := ha.mono hadds'.grown
    exact .push hadds'.grown.ordered (by simpa [Spacing.children_rule] using ⟨ha'.lt, hb.lt⟩)
      (spacing.rule_ne_pattern a b) fun k _ hk hr => .concatenation hr (ha'.mono hk) (hb.mono hk)

/-! ## Productions in an arena -/

/-- The expression of the last production with the name. -/
def lastOf (name : String) (productions : List Production) : Option Expr :=
  (productions.reverse.find? (·.name = name)).map (·.body)

theorem lastOf_append (name : String) (productions : List Production) (p : Production) :
    lastOf name (productions ++ [p]) =
      if p.name = name then some p.body else lastOf name productions := by
  unfold lastOf
  rw [List.reverse_append, List.reverse_singleton, List.singleton_append, List.find?_cons]
  by_cases h : p.name = name <;> simp [h]

/-- What a new arena has become by installing the productions. -/
structure Installed (spacing : Spacing) (productions : List Production) (g : Arena σ) : Prop where
  grown : Arena.Grown .fresh g
  whitespace : g.whitespace = ⟨9⟩
  noPattern : ∀ id source finder, g.rule? id ≠ some (.pattern source finder)
  /-- A name stands for the last expression that it has been given. -/
  named : ∀ name e, lastOf name productions = some e →
    ∃ id, g.named? name = some id ∧ e.At spacing g id
  /-- No other name stands for anything. -/
  unnamed : ∀ name, lastOf name productions = none → g.named? name = none

variable {productions : List Production}

theorem Installed.adds (hg : Installed spacing productions g) (hgh : g.Adds h) :
    Installed spacing productions h where
  grown := hg.grown.trans hgh.grown
  whitespace := hgh.whitespace.trans hg.whitespace
  noPattern id source finder hr := hg.noPattern id source finder (hgh.added hr)
  named name e he := by
    obtain ⟨id, hid, hat⟩ := hg.named name e he
    refine ⟨id, ?_, hat.mono hgh.grown⟩
    rw [Arena.named?, hgh.names]
    exact hid
  unnamed name hnone := by
    rw [Arena.named?, hgh.names]
    exact hg.unnamed name hnone

theorem Installed.register {p : Production} (hg : Installed spacing productions g)
    (hat : p.body.At spacing g id) :
    Installed spacing (productions ++ [p]) (g.register p.name id) where
  grown := hg.grown.trans (.register hg.grown.ordered p.name hat.lt)
  whitespace := hg.whitespace
  noPattern := hg.noPattern
  named name e he := by
    have hgrown : g.Grown (g.register p.name id) := .register hg.grown.ordered p.name hat.lt
    rw [lastOf_append] at he
    rw [Arena.named?_register]
    split at he
    · next hname =>
      cases he
      exact ⟨id, by rw [if_pos hname.symm], hat.mono hgrown⟩
    · next hname =>
      obtain ⟨id', hid', hat'⟩ := hg.named name e he
      exact ⟨id', by rw [if_neg (Ne.symm hname), hid'], hat'.mono hgrown⟩
  unnamed name hnone := by
    rw [lastOf_append] at hnone
    rw [Arena.named?_register]
    split at hnone
    · cases hnone
    · next hname =>
      rw [if_neg (Ne.symm hname)]
      exact hg.unnamed name hnone

theorem Installed.warn {entry : LogEntry} (hg : Installed spacing productions g) :
    Installed spacing productions (g.warn entry) where
  grown := hg.grown.trans (.warn hg.grown.ordered entry)
  whitespace := hg.whitespace
  noPattern := hg.noPattern
  named name e he := by
    obtain ⟨id, hid, hat⟩ := hg.named name e he
    exact ⟨id, hid, hat.mono (.warn hg.grown.ordered entry)⟩
  unnamed := hg.unnamed

theorem installed_fresh (spacing : Spacing) : Installed spacing [] (.fresh : Arena σ) where
  grown := .refl ordered_fresh
  whitespace := by rw [fresh_eq]
  noPattern := by
    rintro ⟨k⟩ source finder hr
    have hk : k < 10 := by
      have hlt := index_lt_of_rule? hr
      rwa [fresh_eq] at hlt
    rw [fresh_eq] at hr
    interval_cases k <;> cases hr
  named name e he := by cases he
  unnamed name _ := by
    rw [fresh_eq]
    rfl

/-- A production is built, and its name then stands for its rules, with a warning if it stood for
others. -/
theorem Production.run_install (spacing : Spacing) (p : Production) (g : Arena σ) :
    ((p.install spacing).run g).2 =
      let made := (p.body.build spacing).run g
      let named := made.2.register p.name made.1
      if (made.2.named? p.name).isSome then named.warn (.redefined p.name) else named := by
  unfold Production.install
  rw [Build.run_bind, Build.run_bind]
  dsimp only
  split
  · next hsome =>
    rw [Build.run_modify]
    exact (if_pos hsome).symm
  · next hnone => exact (if_neg hnone).symm

/-- Installing one more production. -/
theorem Installed.install (hg : Installed spacing productions g) (p : Production) :
    Installed spacing (productions ++ [p]) ((p.install spacing).run g).2 := by
  obtain ⟨hadds, hat⟩ := p.body.puts_build spacing hg.grown.ordered
  have hregistered := (hg.adds hadds).register hat
  rw [p.run_install]
  dsimp only
  split
  · exact hregistered.warn
  · exact hregistered

/-- The arena behind the productions. -/
def installAll (spacing : Spacing) (productions : List Production) (g : Arena σ) : Arena σ :=
  productions.foldl (fun g p => ((p.install spacing).run g).2) g

theorem Production.grown_install (hg : g.Ordered) (p : Production) :
    g.Grown ((p.install spacing).run g).2 := by
  obtain ⟨hadds, hat⟩ := p.body.puts_build spacing hg
  have hregistered := hadds.grown.trans (.register hadds.grown.ordered p.name hat.lt)
  rw [p.run_install]
  dsimp only
  split
  · exact hregistered.trans (.warn hregistered.ordered _)
  · exact hregistered

theorem grown_installAll (hg : g.Ordered) (productions : List Production) :
    g.Grown (installAll spacing productions g) := by
  induction productions generalizing g with
  | nil => exact .refl hg
  | cons p more ih =>
    have hone : g.Grown ((p.install spacing).run g).2 := p.grown_install hg
    exact hone.trans (ih hone.ordered)

theorem installed_installAll (hg : Installed spacing productions g) (more : List Production) :
    Installed spacing (productions ++ more) (installAll spacing more g) := by
  induction more generalizing g productions with
  | nil => rwa [List.append_nil]
  | cons p more ih =>
    rw [List.append_cons]
    exact ih (hg.install p)

/-- Installing a grammar installs its productions and then checks all references. -/
theorem run_install (spacing : Spacing) (first : Production) (more : List Production)
    (g : Arena σ) :
    (Grammar.install spacing ⟨first :: more⟩).run.run g =
      let h := installAll spacing (first :: more) g
      match h.validate with
      | .error e => (.error (.uninstallable e), h)
      | .ok () =>
        let put := (Build.reference first.name).run h
        (.ok put.1, put.2) := by
  unfold Grammar.install
  dsimp only
  rw [Build.run_bind_ok (Build.run_forM _ _ g)]
  show ((match (installAll spacing (first :: more) g).validate with
    | .error e => throw (.uninstallable e)
    | .ok () =>
      (Build.reference first.name : Build σ RuleId) : ExceptT Error (Build σ) RuleId).run).run
        (installAll spacing (first :: more) g) = _
  split <;> rfl

theorem lastOf_isSome {p : Production} (hp : p ∈ productions) :
    (lastOf p.name productions).isSome := by
  rw [lastOf, Option.isSome_map, List.find?_isSome]
  exact ⟨p, List.mem_reverse.2 hp, by simp⟩

theorem Installed.named_of_mem (hg : Installed spacing productions g) {p : Production}
    (hp : p ∈ productions) : (g.named? p.name).isSome := by
  obtain ⟨e, he⟩ := Option.isSome_iff_exists.1 (lastOf_isSome hp)
  obtain ⟨id, hid, -⟩ := hg.named p.name e he
  rw [hid]
  rfl

/-- Whatever comes of it, installing a grammar leaves its productions in the arena. -/
theorem installed_install (spacing : Spacing) (grammar : Grammar) :
    Installed spacing grammar.productions
      ((grammar.install spacing).run.run (.fresh : Arena σ)).2 := by
  obtain ⟨_ | ⟨first, more⟩⟩ := grammar
  · exact installed_fresh spacing
  · have hall : Installed spacing (first :: more)
        (installAll spacing (first :: more) (.fresh : Arena σ)) :=
      installed_installAll (installed_fresh spacing) (first :: more)
    rw [run_install]
    dsimp only
    split
    · exact hall
    · exact hall.adds (.push hall.grown.ordered (by simp [Rule.children]) (by simp))

theorem Installed.defaultSpaced (hg : Installed spacing productions g) : g.DefaultSpaced :=
  ⟨hg.grown, hg.whitespace⟩

/-- Installs a grammar and attaches actions to names, one after another, whatever comes of it. -/
def Grammar.equip (spacing : Spacing) (calls : List (String × Action σ)) (grammar : Grammar) :
    Build σ (Except Error RuleId × List (Except GrammarError RuleId)) := do
  let started ← (grammar.install spacing).run
  let answers ← Build.attachAll calls
  return (started, answers)

theorem Grammar.run_equip (spacing : Spacing) (calls : List (String × Action σ))
    (grammar : Grammar) (g : Arena σ) :
    (grammar.equip spacing calls).run g =
      ((((grammar.install spacing).run.run g).1,
        ((Build.attachAll calls).run ((grammar.install spacing).run.run g).2).1),
        ((Build.attachAll calls).run ((grammar.install spacing).run.run g).2).2) := by
  rw [equip, Build.run_bind, Build.run_bind, Build.run_pure]

/-- A grammar is installed, and then the calls are made. -/
theorem Grammar.run_equip_eq_iff {calls : List (String × Action σ)} {grammar : Grammar}
    {started : Except Error RuleId} {answers : List (Except GrammarError RuleId)} {g h : Arena σ} :
    (grammar.equip spacing calls).run g = ((started, answers), h) ↔
      ∃ g₀, (grammar.install spacing).run.run g = (started, g₀) ∧
        (Build.attachAll calls).run g₀ = (answers, h) := by
  rw [run_equip]
  constructor
  · intro heq
    cases heq
    exact ⟨_, rfl, rfl⟩
  · rintro ⟨g₀, hinstall, hattach⟩
    rw [hinstall, hattach]

theorem defaultSpaced_equip (spacing : Spacing) (calls : List (String × Action σ))
    (grammar : Grammar) : ((grammar.equip spacing calls).run .fresh).2.DefaultSpaced := by
  rw [grammar.run_equip]
  exact (installed_install spacing grammar).defaultSpaced.attachAll calls

/-- A grammar that can be installed has all its productions in the arena, and a reference to the
first one, and refers to no name that is not there. -/
theorem install_ok {grammar : Grammar} {start : RuleId} {g : Arena σ}
    (h : (grammar.install spacing).run.run Arena.fresh = (.ok start, g)) :
    ∃ first, grammar.productions.head? = some first ∧
      Installed spacing grammar.productions g ∧ g.rule? start = some (.reference first.name) ∧
      g.Resolved := by
  have hinstalled : Installed spacing grammar.productions g := by
    have hall := installed_install (σ := σ) spacing grammar
    rwa [h] at hall
  obtain ⟨_ | ⟨first, more⟩⟩ := grammar
  · cases h
  · rw [run_install] at h
    have hall : Installed spacing (first :: more)
        (installAll spacing (first :: more) (.fresh : Arena σ)) :=
      installed_installAll (installed_fresh spacing) (first :: more)
    generalize installAll spacing (first :: more) .fresh = k at h hall
    cases hvalid : k.validate with
    | error e =>
      simp only [hvalid] at h
      cases h
    | ok =>
      simp only [hvalid] at h
      cases h
      have hfirst : (k.named? first.name).isSome := hall.named_of_mem List.mem_cons_self
      exact ⟨first, rfl, hinstalled, rule?_of_push,
        (resolved_of_validate hvalid).push_reference hfirst⟩

end

end Ebnf

end Peg
