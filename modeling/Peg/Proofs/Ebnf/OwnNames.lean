-- Productions that mention their own name. A name is refused right inside of itself, wherever that
-- is and whatever has been read by then, so such a mention may as well be an expression that never
-- matches.
import Peg.Proofs.Ebnf.Refusing
import Peg.Proofs.Mirroring

namespace Peg

variable {σ : Type}

/-! ## Own names left out -/

namespace Ebnf

/-- The expression `( "" - "" )`, which matches nowhere. -/
def Expr.never : Expr := .group (.exception (.terminal "") (.terminal ""))

/-- The expression with one that never matches in place of a name. -/
def Expr.without (name : String) : Expr → Expr
  | identifier other => if other = name then never else identifier other
  | terminal text => terminal text
  | range lo hi => range lo hi
  | optional e => optional (e.without name)
  | repetition e => repetition (e.without name)
  | group e => group (e.without name)
  | exception base except => exception (base.without name) (except.without name)
  | alternation first second => alternation (first.without name) (second.without name)
  | concatenation first second => concatenation (first.without name) (second.without name)

def Production.withoutOwnName (p : Production) : Production :=
  { p with body := p.body.without p.name }

/-- The grammar with no production that mentions its own name. -/
def Grammar.withoutOwnNames (grammar : Grammar) : Grammar :=
  ⟨grammar.productions.map Production.withoutOwnName⟩

theorem Expr.mem_identifiers_without {name n : String} {e : Expr}
    (h : n ∈ (e.without name).identifiers) : n ∈ e.identifiers := by
  induction e with
  | identifier other =>
    rw [Expr.without] at h
    split at h
    · cases h
    · exact h
  | terminal | range => exact h
  | optional e ih | repetition e ih | group e ih => exact ih h
  | exception a b iha ihb | alternation a b iha ihb | concatenation a b iha ihb =>
    exact List.mem_append.2 ((List.mem_append.1 h).imp iha ihb)

section

variable {spacing : Spacing} {grammar : Grammar} {g : Arena σ} {name : String}

/-- Without own names a grammar still has all its names, and it refers to no more than before. -/
theorem Grammar.Misses.of_withoutOwnNames (h : grammar.withoutOwnNames.Misses g name) :
    grammar.Misses g name := by
  obtain ⟨hmentions, hnames, hnone⟩ := h
  refine ⟨hmentions.imp_left fun hmem => ?_, ?_, hnone⟩
  · simp only [Grammar.identifiers, Grammar.withoutOwnNames, List.mem_flatMap, List.mem_map]
      at hmem ⊢
    obtain ⟨_, ⟨p, hp, rfl⟩, hn⟩ := hmem
    exact ⟨p, hp, Expr.mem_identifiers_without hn⟩
  · simpa [Grammar.names, Grammar.withoutOwnNames, Production.withoutOwnName] using hnames

/-- A grammar that can be installed can be installed without own names. -/
theorem install_withoutOwnNames {start : RuleId}
    (h : ((grammar.install spacing).run.run g).1 = .ok start) :
    ∃ start', ((grammar.withoutOwnNames.install spacing).run.run g).1 = .ok start' := by
  have hne : grammar.productions ≠ [] := by
    intro hempty
    rw [install_empty hempty] at h
    cases h
  have hne' : grammar.withoutOwnNames.productions ≠ [] := by
    simpa [Grammar.withoutOwnNames] using hne
  have hknown : ∀ name, ¬ grammar.Misses g name := by
    rcases install_answer spacing g hne with ⟨-, -, hknown⟩ | ⟨name, hname, -⟩
    · exact hknown
    · rw [hname] at h
      cases h
  rcases install_answer spacing g hne' with ⟨start', hstart, -⟩ | ⟨name, -, hmisses⟩
  · exact ⟨start', hstart⟩
  · exact absurd hmisses.of_withoutOwnNames (hknown name)

theorem lastOf_withoutOwnNames (name : String) (productions : List Production) :
    lastOf name (productions.map Production.withoutOwnName) =
      (lastOf name productions).map (·.without name) := by
  unfold lastOf
  rw [← List.map_reverse, List.find?_map, Option.map_map, Option.map_map]
  have hnames : ((fun p : Production => decide (p.name = name)) ∘ Production.withoutOwnName) =
      fun p : Production => decide (p.name = name) := rfl
  rw [hnames]
  apply Option.map_congr
  intro p hp
  have hname : p.name = name := by simpa using List.find?_some hp
  show p.body.without p.name = p.body.without name
  rw [hname]

end

end Ebnf

/-! ## Rules with and without own names -/

open Ebnf

/-- Inside of the name, `b` stands for what `a` does but for the mentions of the name itself. The
actions around both are related by `T`. -/
inductive Twin (spacing : Spacing) (T : RuleId → RuleId → Prop) (g h : Arena σ) (name : String) :
    RuleId → RuleId → Prop where
  | expression {e : Expr} {a b : RuleId} :
    e.At spacing g a → (e.without name).At spacing h b → Twin spacing T g h name a b
  | not {a b a' b' : RuleId} :
    g.rule? a = some (.not a') → h.rule? b = some (.not b') → Twin spacing T g h name a' b' →
      Twin spacing T g h name a b
  | action {a b a' b' : RuleId} {run : Action σ} :
    g.rule? a = some (.action a' run) → h.rule? b = some (.action b' run) → T a b →
      Twin spacing T g h name a' b' → Twin spacing T g h name a b

/-- In both arenas the same names stand for something, and it is the same but for own names. -/
structure Arena.Twins (spacing : Spacing) (T : RuleId → RuleId → Prop) (g h : Arena σ) : Prop where
  left : g.DefaultSpaced
  right : h.DefaultSpaced
  named : ∀ name, Option.Rel (Twin spacing T g h name) (g.named? name) (h.named? name)

section

variable {spacing : Spacing} {T T' : RuleId → RuleId → Prop} {g g' h h' : Arena σ} {name : String}
  {a b : RuleId}

theorem Twin.mono (hg : g.Grown g') (hh : h.Grown h') (hT : ∀ {a b}, T a b → T' a b)
    (hab : Twin spacing T g h name a b) : Twin spacing T' g' h' name a b := by
  induction hab with
  | expression ha hb => exact .expression (ha.mono hg) (hb.mono hh)
  | not hr hr' _ ih => exact .not (hg.rule hr) (hh.rule hr') ih
  | action hr hr' hT' _ ih => exact .action (hg.rule hr) (hh.rule hr') (hT hT') ih

/-- A grammar and the same one without own names are twins when they have been installed. -/
theorem twins_of_installed {grammar : Grammar} (hg : Installed spacing grammar.productions g)
    (hh : Installed spacing grammar.withoutOwnNames.productions h) :
    Arena.Twins spacing (fun _ _ => False) g h where
  left := hg.defaultSpaced
  right := hh.defaultSpaced
  named name := by
    have hlast := lastOf_withoutOwnNames name grammar.productions
    cases he : lastOf name grammar.productions with
    | none =>
      rw [he] at hlast
      rw [hg.unnamed name he, hh.unnamed name hlast]
      exact .none
    | some e =>
      rw [he] at hlast
      obtain ⟨a, ha, hat⟩ := hg.named name e he
      obtain ⟨b, hb, hat'⟩ := hh.named name _ hlast
      rw [ha, hb]
      exact .some (.expression hat hat')

/-! ## Matching with and without own names -/

/-- The attempts are at twins inside of their name, or at references to one name. -/
inductive TwinAttempts (spacing : Spacing) (T : RuleId → RuleId → Prop) (g h : Arena σ) :
    Attempt → Attempt → Prop where
  | inside {name : String} {a b : RuleId} {x : List Char} :
    Twin spacing T g h name a b →
      TwinAttempts spacing T g h ⟨a, some name, x⟩ ⟨b, some name, x⟩
  | reference {name : String} {a b : RuleId} {active : Option String} {x : List Char} :
    g.rule? a = some (.reference name) → h.rule? b = some (.reference name) →
      TwinAttempts spacing T g h ⟨a, active, x⟩ ⟨b, active, x⟩

variable {input x : List Char} {active : Option String}

theorem Arena.Twins.reference_mirrors (hgh : Arena.Twins spacing T g h)
    (hr : g.rule? a = some (.reference name)) (hr' : h.rule? b = some (.reference name)) :
    (g.plan ⟨a, active, x⟩).Mirrors g h input (TwinAttempts spacing T g h)
      (h.plan ⟨b, active, x⟩) := by
  rw [plan_of_rule (a := ⟨a, active, x⟩) hr, plan_of_rule (a := ⟨b, active, x⟩) hr']
  refine ofRule_mirrors (S := fun _ _ => False) (hgh.left.spaceAlike hgh.right input) (.alone rfl)
    (fun hfalse _ => hfalse.elim) ?_
  rintro _ ⟨⟩ -
  rcases rel_cases (hgh.named name) with ⟨hnone, hnone'⟩ | ⟨a, b, ha, hb, hab⟩
  · rw [hnone, hnone']
    exact .none
  · rw [ha, hb]
    exact .some (.inside hab)

/-- Twins of one form, with twins as their parts, match alike. -/
theorem Arena.Twins.form_mirrors (hgh : Arena.Twins spacing T g h) {r r' : Rule σ}
    (hr : g.rule? a = some r) (hr' : h.rule? b = some r')
    (hform : r.SameForm (Twin spacing T g h name) r') (hne : ∀ n, r ≠ .reference n) :
    (g.plan ⟨a, some name, x⟩).Mirrors g h input (TwinAttempts spacing T g h)
      (h.plan ⟨b, some name, x⟩) := by
  rw [plan_of_rule (a := ⟨a, some name, x⟩) hr, plan_of_rule (a := ⟨b, some name, x⟩) hr']
  exact ofRule_mirrors (hgh.left.spaceAlike hgh.right input) hform (fun hab _ => .inside hab)
    fun n hn => absurd hn (hne n)

/-- A name is refused inside of itself, and the expression that never matches fails as well. -/
theorem Arena.Twins.own_name_mirrors (hr : g.rule? a = some (.reference name))
    (hb : Expr.never.At spacing h b) :
    (g.plan ⟨a, some name, x⟩).Mirrors g h input (TwinAttempts spacing T g h)
      (h.plan ⟨b, some name, x⟩) := by
  cases hb with | group hb =>
  cases hb with | @exception _ _ _ guard _ _ hr' hguard _ hexcept =>
  cases hexcept with | terminal hempty =>
  have hread : Answers h input ⟨guard, some name, x⟩ false x [] :=
    .not hguard (.literal (y := x) hempty)
  have hrefused : g.plan ⟨a, some name, x⟩ = .finish (.failed x) := by
    rw [plan_of_rule (a := ⟨a, some name, x⟩) hr]
    exact if_pos rfl
  rw [hrefused, plan_of_rule (a := ⟨b, some name, x⟩) hr']
  exact .right hread (.finish _)

theorem Arena.Twins.expression_mirrors (hgh : Arena.Twins spacing T g h) {e : Expr}
    (ha : e.At spacing g a) (hb : (e.without name).At spacing h b) :
    (g.plan ⟨a, some name, x⟩).Mirrors g h input (TwinAttempts spacing T g h)
      (h.plan ⟨b, some name, x⟩) := by
  induction e generalizing a b with
  | identifier other =>
    cases ha with | identifier hr =>
    rw [Expr.without] at hb
    split at hb
    · next hown =>
      subst hown
      exact Arena.Twins.own_name_mirrors hr hb
    · cases hb with | identifier hr' =>
      exact hgh.reference_mirrors hr hr'
  | terminal text =>
    cases ha with | terminal hr =>
    cases hb with | terminal hr' =>
    exact hgh.form_mirrors hr hr' (.alone rfl) (by simp)
  | range lo hi =>
    cases ha with | range hr =>
    cases hb with | range hr' =>
    exact hgh.form_mirrors hr hr' (.alone rfl) (by simp)
  | optional e _ =>
    cases ha with | optional hr ha =>
    cases hb with | optional hr' hb =>
    exact hgh.form_mirrors hr hr' (.optional (.expression ha hb)) (by simp)
  | repetition e _ =>
    cases ha with | repetition hr ha =>
    cases hb with | repetition hr' hb =>
    exact hgh.form_mirrors hr hr' (.zeroOrMore (.expression ha hb)) (by simp)
  | group e ih =>
    cases ha with | group ha =>
    cases hb with | group hb =>
    exact ih ha hb
  | exception base except _ _ =>
    cases ha with | exception hr hguard ha hexcept =>
    cases hb with | exception hr' hguard' hb hexcept' =>
    exact hgh.form_mirrors hr hr' (.sequence (.not hguard hguard' (.expression hexcept hexcept'))
      (.expression ha hb)) (by simp)
  | alternation first second _ _ =>
    cases ha with | alternation hr ha ha' =>
    cases hb with | alternation hr' hb hb' =>
    exact hgh.form_mirrors hr hr' (.choice (.expression ha hb) (.expression ha' hb')) (by simp)
  | concatenation first second _ _ =>
    cases ha with | concatenation hr ha ha' =>
    cases hb with | concatenation hr' hb hb' =>
    refine hgh.form_mirrors hr hr' ?_ (spacing.rule_ne_reference _ _)
    cases spacing with
    | adjacent => exact .sequence (.expression ha hb) (.expression ha' hb')
    | spaced => exact .spaced (.expression ha hb) (.expression ha' hb')

theorem Twin.plan_mirrors (hgh : Arena.Twins spacing T g h) (hab : Twin spacing T g h name a b) :
    (g.plan ⟨a, some name, x⟩).Mirrors g h input (TwinAttempts spacing T g h)
      (h.plan ⟨b, some name, x⟩) := by
  cases hab with
  | expression ha hb => exact hgh.expression_mirrors ha hb
  | not hr hr' hab => exact hgh.form_mirrors hr hr' (.not hab) (by simp)
  | action hr hr' _ hab => exact hgh.form_mirrors hr hr' (.action hab) (by simp)

/-- Rules of expressions record nothing. -/
theorem Ebnf.Expr.At.rule_ne_action {e : Expr} (he : e.At spacing g a) :
    ∃ r, g.rule? a = some r ∧ ∀ b run, r ≠ .action b run := by
  induction he with
  | group _ ih => exact ih
  | identifier hr | terminal hr | range hr => exact ⟨_, hr, by simp⟩
  | optional hr _ _ | repetition hr _ _ => exact ⟨_, hr, by simp⟩
  | exception hr _ _ _ _ _ | alternation hr _ _ _ _ => exact ⟨_, hr, by simp⟩
  | concatenation hr _ _ _ _ => exact ⟨_, hr, by cases spacing <;> simp [Spacing.rule]⟩

/-- The captures lie at one place, and are of related rules. -/
structure SameSpan (T : RuleId → RuleId → Prop) (c c' : Capture) : Prop where
  span : c'.span = c.span
  rule : T c.rule c'.rule

theorem Twin.recorded {l m : List Capture} {e : Ending} (hab : Twin spacing T g h name a b)
    (hlm : List.Forall₂ (SameSpan T) l m) :
    List.Forall₂ (SameSpan T) (g.recorded input ⟨a, active, x⟩ e l)
      (h.recorded input ⟨b, active, x⟩ e m) := by
  cases hab with
  | expression ha hb =>
    obtain ⟨r, hr, hne⟩ := ha.rule_ne_action
    obtain ⟨r', hr', hne'⟩ := hb.rule_ne_action
    rwa [Arena.recorded_of_ne_action hr hne, Arena.recorded_of_ne_action hr' hne']
  | not hr hr' _ =>
    rwa [Arena.recorded_of_ne_action hr (by simp), Arena.recorded_of_ne_action hr' (by simp)]
  | action hr hr' hT _ =>
    obtain ⟨answer, y⟩ := e
    simp only [Arena.recorded, hr, hr']
    cases answer with
    | error stop => exact hlm
    | ok matched =>
      cases matched with
      | false => exact .nil
      | true => exact List.rel_append hlm (.cons ⟨rfl, hT⟩ .nil)

theorem Arena.Twins.mirrors (hgh : Arena.Twins spacing T g h) (input : List Char) :
    g.Mirrors h input (TwinAttempts spacing T g h) (SameSpan T) where
  plan hab := by
    cases hab with
    | inside hab => exact hab.plan_mirrors hgh
    | reference hr hr' => exact hgh.reference_mirrors hr hr'
  recorded hab _ hlm := by
    cases hab with
    | inside hab => exact hab.recorded hlm
    | reference hr hr' =>
      rwa [Arena.recorded_of_ne_action hr (by simp), Arena.recorded_of_ne_action hr' (by simp)]

/-! ## Actions for twins -/

/-- What a name stands for stays related in arenas that have grown, as long as it stands for it. -/
theorem Arena.Twins.named_mono (hgh : Arena.Twins spacing T g h) (hg : g.Grown g')
    (hh : h.Grown h') (hT : ∀ {a b}, T a b → T' a b) {n : String}
    (hn : g'.named? n = g.named? n) (hn' : h'.named? n = h.named? n) :
    Option.Rel (Twin spacing T' g' h' n) (g'.named? n) (h'.named? n) := by
  rw [hn, hn']
  rcases rel_cases (hgh.named n) with ⟨hnone, hnone'⟩ | ⟨a, b, ha, hb, hab⟩
  · rw [hnone, hnone']
    exact .none
  · rw [ha, hb]
    exact .some (hab.mono hg hh hT)

theorem Arena.Twins.mono (hgh : Arena.Twins spacing T g h) (hT : ∀ {a b}, T a b → T' a b) :
    Arena.Twins spacing T' g h where
  left := hgh.left
  right := hgh.right
  named _ := hgh.named_mono (.refl hgh.left.grown.ordered) (.refl hgh.right.grown.ordered) hT
    rfl rfl

/-- An action for a name can be attached to both or to neither, and its rules are related then. -/
theorem Arena.Twins.attach (hgh : Arena.Twins spacing T g h) (name : String) (run : Action σ) :
    ∃ answer answer' g' h', (Build.attach name run).run.run g = (answer, g') ∧
      (Build.attach name run).run.run h = (answer', h') ∧
      answer'.map (fun _ => ()) = answer.map (fun _ => ()) ∧
      Arena.Twins spacing (fun a b => T a b ∨ answer = .ok a ∧ answer' = .ok b) g' h' := by
  have hleft := hgh.left.attach name run
  have hright := hgh.right.attach name run
  have hg := Build.grown_attach hgh.left.grown.ordered name run
  have hh := Build.grown_attach hgh.right.grown.ordered name run
  rcases rel_cases (hgh.named name) with ⟨hnone, hnone'⟩ | ⟨a, b, ha, hb, hab⟩
  · exact ⟨_, _, _, _, Build.run_attach_of_none hnone, Build.run_attach_of_none hnone', rfl,
      hgh.mono .inl⟩
  · rw [Build.run_attach_of_some ha] at hleft hg ⊢
    rw [Build.run_attach_of_some hb] at hright hh ⊢
    refine ⟨_, _, _, _, rfl, rfl, rfl, hleft, hright, fun n => ?_⟩
    by_cases hn : n = name
    · subst hn
      rw [Arena.named?_register, Arena.named?_register, if_pos rfl, if_pos rfl]
      exact .some (.action rule?_of_push rule?_of_push (.inr ⟨rfl, rfl⟩) (hab.mono hg hh .inl))
    · exact hgh.named_mono hg hh .inl ((Arena.named?_register _ _ _ _).trans (if_neg hn))
        ((Arena.named?_register _ _ _ _).trans (if_neg hn))

/-- What has become of calls, but for the ids that they have answered. -/
def verdicts (answers : List (Except GrammarError RuleId)) : List (Except GrammarError Unit) :=
  answers.map (Except.map fun _ => ())

/-- The rules are what one of the calls has answered, on either side. -/
def SameCall (calls : List (String × Action σ))
    (answers answers' : List (Except GrammarError RuleId)) (a b : RuleId) : Prop :=
  ∃ (k : Nat) (call : String × Action σ), calls[k]? = some call ∧ answers[k]? = some (.ok a) ∧
    answers'[k]? = some (.ok b)

theorem Arena.Twins.attachAll (hgh : Arena.Twins spacing T g h) (calls : List (String × Action σ)) :
    ∃ answers answers' g' h', (Build.attachAll calls).run g = (answers, g') ∧
      (Build.attachAll calls).run h = (answers', h') ∧ verdicts answers' = verdicts answers ∧
      Arena.Twins spacing (fun a b => T a b ∨ SameCall calls answers answers' a b) g' h' := by
  induction calls generalizing g h T with
  | nil => exact ⟨_, _, _, _, rfl, rfl, rfl, hgh.mono .inl⟩
  | cons call more ih =>
    obtain ⟨answer, answer', g', h', hone, hone', hverdict, hgh'⟩ := hgh.attach call.1 call.2
    obtain ⟨answers, answers', g'', h'', hmore, hmore', hverdicts, hgh''⟩ := ih hgh'
    refine ⟨answer :: answers, answer' :: answers', g'', h'', ?_, ?_, ?_, hgh''.mono ?_⟩
    · rw [Build.run_attachAll_cons, hone, hmore]
    · rw [Build.run_attachAll_cons, hone', hmore']
    · simp only [verdicts, List.map_cons] at hverdicts ⊢
      rw [hverdict, hverdicts]
    · rintro a b ((hT | ⟨rfl, rfl⟩) | ⟨k, call', hcall, ha, hb⟩)
      · exact .inl hT
      · exact .inr ⟨0, call, rfl, rfl, rfl⟩
      · exact .inr ⟨k + 1, call', hcall, ha, hb⟩

end

/-- A production that mentions its own name never goes around by it, whatever has been read by then.
With an expression that never matches in place of each such mention, a grammar is installed as well,
and the same actions are attached to it. Both match every text alike: to the same answer or the same
halt, at the same place, and with captures of the same calls at the same spans. -/
theorem own_names_never_match (spacing : Spacing) (grammar : Grammar)
    (calls : List (String × Action σ)) {start : RuleId}
    {answers : List (Except GrammarError RuleId)} {g : Arena σ}
    (hg : (grammar.equip spacing calls).run .fresh = ((.ok start, answers), g)) :
    ∃ start' answers' h,
      (grammar.withoutOwnNames.equip spacing calls).run .fresh = ((.ok start', answers'), h) ∧
      verdicts answers' = verdicts answers ∧
      ∀ (input : List Char) (trace : Bool),
        Alike (Match.eval g start (.ofText input trace))
          (Match.eval h start' (.ofText input trace)) ∧
        ∀ matched matched' t t', Match.eval g start (.ofText input trace) = .ok matched t →
          Match.eval h start' (.ofText input trace) = .ok matched' t' →
            List.Forall₂ (SameSpan (SameCall calls answers answers')) t.captures t'.captures := by
  obtain ⟨g₀, hinstall, hattach⟩ := Grammar.run_equip_eq_iff.1 hg
  obtain ⟨start', hstart'⟩ := install_withoutOwnNames (congrArg Prod.fst hinstall)
  obtain ⟨h₀, hinstall'⟩ : ∃ h₀,
      (grammar.withoutOwnNames.install spacing).run.run .fresh = (.ok start', h₀) :=
    ⟨_, Prod.ext hstart' rfl⟩
  -- both start at a reference to the name of the first production
  obtain ⟨first, hfirst, hinstalled, hr, -⟩ := install_ok hinstall
  obtain ⟨first', hfirst', hinstalled', hr', -⟩ := install_ok hinstall'
  obtain rfl : first' = first.withoutOwnName := by
    simpa [Grammar.withoutOwnNames, hfirst] using hfirst'.symm
  obtain ⟨_, answers', _, h, hattach₂, hattach', hverdicts, hgh⟩ :=
    (twins_of_installed hinstalled hinstalled').attachAll calls
  obtain ⟨rfl, rfl⟩ := Prod.ext_iff.1 (hattach.symm.trans hattach₂)
  refine ⟨start', answers', h, Grammar.run_equip_eq_iff.2 ⟨h₀, hinstall', hattach'⟩, hverdicts, ?_⟩
  intro input trace
  have hgrown := Build.grown_attachAll hinstalled.grown.ordered calls
  have hgrown' := Build.grown_attachAll hinstalled'.grown.ordered calls
  rw [hattach] at hgrown
  rw [hattach'] at hgrown'
  have htwins : Arena.Twins spacing (SameCall calls answers answers') g h :=
    hgh.mono fun hab => hab.resolve_left id
  have hmirrors := htwins.mirrors input
  have hstart : TwinAttempts spacing (SameCall calls answers answers') g h
      (MatchState.attempt (.ofText input trace) start)
      (MatchState.attempt (.ofText input trace) start') :=
    .reference (hgrown.rule hr) (hgrown'.rule hr')
  exact ⟨hmirrors.alike hstart, fun _ _ _ _ => hmirrors.captures hstart .nil⟩

/-- A letter in brackets, and these in brackets again. Only by another name do the brackets nest. -/
def nestGrammar : Grammar :=
  let inside : Expr := .group (.alternation (.identifier "nest") (.identifier "inner"))
  ⟨[⟨"nest", .alternation
      (.concatenation (.terminal "(") (.concatenation inside (.terminal ")"))) (.terminal "x")⟩,
    ⟨"inner", .identifier "nest"⟩]⟩

/-- What comes of the grammar in a new arena, and of an action for its nests. -/
def nests (grammar : Grammar) :
    (Except Error RuleId × List (Except GrammarError RuleId)) × Arena Unit :=
  (grammar.equip .adjacent [("nest", fun output _ => output)]).run .fresh

/-- The letter is read in its brackets by way of the other name, and both nests are captured, also
without the mention that never matches. -/
theorem a_letter_in_brackets_is_read_by_another_name :
    ∃ start' answers' h t t',
      nests nestGrammar = ((.ok ⟨20⟩, [.ok ⟨21⟩]), (nests nestGrammar).2) ∧
      nests nestGrammar.withoutOwnNames = ((.ok start', answers'), h) ∧
      Match.eval (nests nestGrammar).2 ⟨20⟩ (.ofText ['(', 'x', ')'] false) = .ok true t ∧
      Match.eval h start' (.ofText ['(', 'x', ')'] false) = .ok true t' ∧
      t'.cursor = t.cursor ∧ t.captures.length = 2 ∧ t'.captures.length = 2 := by
  have hanswers : (nests nestGrammar).1 = (.ok ⟨20⟩, [.ok ⟨21⟩]) := by decide +kernel
  have hg : nests nestGrammar = ((.ok ⟨20⟩, [.ok ⟨21⟩]), (nests nestGrammar).2) := by
    rw [← hanswers]
  obtain ⟨start', answers', h, hh, -, hall⟩ := own_names_never_match .adjacent nestGrammar _ hg
  obtain ⟨halike, hcaptures⟩ := hall ['(', 'x', ')'] false
  have hread : (match Match.eval (nests nestGrammar).2 ⟨20⟩ (.ofText ['(', 'x', ')'] false) with
      | .ok true t => t.captures.length == 2
      | _ => false) = true := by decide +kernel
  generalize Match.eval (nests nestGrammar).2 ⟨20⟩ (.ofText ['(', 'x', ')'] false) = result at *
  cases hresult' : Match.eval h start' (.ofText ['(', 'x', ')'] false) with
  | error halt t' =>
    rw [hresult'] at halike
    cases halike <;> cases hread
  | ok matched t' =>
    rw [hresult'] at halike hcaptures
    cases halike with | @answered _ t _ hcursor _ =>
    cases matched with
    | false => cases hread
    | true =>
      have hlength : t.captures.length = 2 := eq_of_beq hread
      exact ⟨start', answers', h, t, t', hg, hh, rfl, hresult', hcursor, hlength,
        (hcaptures _ _ _ _ rfl rfl).length_eq.symm.trans hlength⟩

end Peg
