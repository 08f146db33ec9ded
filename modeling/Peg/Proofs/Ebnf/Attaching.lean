-- Productions with actions. An action that is attached to a name stands around the rule of the name
-- from then on, wherever the name is referred to.
import Peg.Proofs.Ebnf.Installing

namespace Peg.Ebnf

variable {σ : Type}

/-! ## Actions around expressions -/

/-- The rule stands for the expression, with the action around it if there is one. -/
def Expr.Under (spacing : Spacing) (g : Arena σ) (e : Expr) : Option (Action σ) → RuleId → Prop
  | none, id => e.At spacing g id
  | some run, id => ∃ a, g.rule? id = some (.action a run) ∧ e.At spacing g a

/-- The productions are in the arena, and the actions around those that have one. -/
structure Attached (spacing : Spacing) (productions : List Production)
    (actions : List (String × Action σ)) (g : Arena σ) : Prop where
  grown : Arena.Grown .fresh g
  named : ∀ name e, lastOf name productions = some e →
    ∃ id, g.named? name = some id ∧ e.Under spacing g (actions.lookup name) id

section

variable {spacing : Spacing} {productions : List Production} {actions : List (String × Action σ)}
  {g h : Arena σ} {e : Expr} {run : Option (Action σ)} {id : RuleId}

theorem Expr.Under.mono (hgh : g.Grown h) (he : e.Under spacing g run id) :
    e.Under spacing h run id := by
  cases run with
  | none => exact Expr.At.mono hgh he
  | some run =>
    obtain ⟨a, hr, ha⟩ := he
    exact ⟨a, hgh.rule hr, ha.mono hgh⟩

theorem Attached.mono (hg : Attached spacing productions actions g) (hgh : g.Grown h)
    (hnames : h.names = g.names) : Attached spacing productions actions h where
  grown := hg.grown.trans hgh
  named name e he := by
    obtain ⟨id, hid, hunder⟩ := hg.named name e he
    refine ⟨id, ?_, hunder.mono hgh⟩
    rw [Arena.named?, hnames]
    exact hid

theorem Installed.attached (hg : Installed spacing productions g) :
    Attached spacing productions [] g := ⟨hg.grown, hg.named⟩

/-- An action can be attached to a production that has none yet. -/
theorem Attached.attach (hg : Attached spacing productions actions g) {name : String}
    (run : Action σ) (hname : (lastOf name productions).isSome)
    (hnew : actions.lookup name = none) :
    ∃ id h, (Build.attach name run).run.run g = (.ok id, h) ∧ g.Grown h ∧
      Attached spacing productions ((name, run) :: actions) h := by
  obtain ⟨e, he⟩ := Option.isSome_iff_exists.1 hname
  obtain ⟨a, ha, hunder⟩ := hg.named name e he
  have hat : e.At spacing g a := by rwa [hnew] at hunder
  have hgrown := Build.grown_attach hg.grown.ordered name run
  have hrun := Build.run_attach name run g
  rw [ha] at hrun
  rw [hrun] at hgrown
  refine ⟨_, _, hrun, hgrown, hg.grown.trans hgrown, ?_⟩
  intro other e' he'
  rw [Arena.named?_register, List.lookup_cons]
  by_cases hother : other = name
  · subst hother
    rw [he] at he'
    cases he'
    rw [if_pos rfl, beq_self_eq_true]
    exact ⟨_, rfl, a, rule?_of_push, hat.mono hgrown⟩
  · obtain ⟨b, hb, hunder'⟩ := hg.named other e' he'
    rw [if_neg hother, beq_false_of_ne hother]
    exact ⟨b, hb, hunder'.mono hgrown⟩

/-- One round of attaching actions. -/
def attachOne (x : String × Action σ) (_ : PUnit) : ExceptT Error (Build σ) (ForInStep PUnit) := do
  match ← ((Build.attach x.1 x.2).run : Build σ (Except GrammarError RuleId)) with
  | .error e =>
    throw (.uninstallable e)
  | .ok _ => return .yield ⟨⟩

/-- Actions are attached one after another. -/
theorem Attached.run_attachments (hg : Attached spacing productions actions g)
    (more : List (String × Action σ))
    (hmore : ∀ x ∈ more, (lastOf x.1 productions).isSome ∧ actions.lookup x.1 = none)
    (hnodup : (more.map Prod.fst).Nodup) :
    ∃ h, ((forIn more ⟨⟩ attachOne : ExceptT Error (Build σ) PUnit).run).run g = (.ok ⟨⟩, h) ∧
      g.Grown h ∧ Attached spacing productions (more.reverse ++ actions) h := by
  induction more generalizing actions g with
  | nil => exact ⟨g, rfl, .refl hg.grown.ordered, hg⟩
  | cons x more ih =>
    obtain ⟨⟨hname, hnew⟩, hmore⟩ := List.forall_mem_cons.1 hmore
    obtain ⟨id, k, hrun, hgk, hk⟩ := hg.attach x.2 hname hnew
    rw [List.map_cons, List.nodup_cons] at hnodup
    have hrest : ∀ y ∈ more, (lastOf y.1 productions).isSome ∧
        List.lookup y.1 (x :: actions) = none := by
      intro y hy
      obtain ⟨hlast, hnew⟩ := hmore y hy
      have hne : y.1 ≠ x.1 := fun h => hnodup.1 (List.mem_map.2 ⟨y, hy, h⟩)
      refine ⟨hlast, ?_⟩
      rw [List.lookup_cons, beq_false_of_ne hne]
      exact hnew
    obtain ⟨h, hrun', hkh, hh⟩ := ih hk hrest hnodup.2
    have hone : ((attachOne x ⟨⟩).run).run g = (.ok (.yield ⟨⟩), k) := by
      have hlift : ((liftM (Build.attach x.1 x.2).run : ExceptT Error (Build σ) _).run).run g =
          (.ok (.ok id), k) := by
        rw [Build.run_lift, hrun]
      unfold attachOne
      rw [Build.run_bind_ok hlift]
      rfl
    refine ⟨h, ?_, hgk.trans hkh, ?_⟩
    · rw [Build.run_forIn_cons hone]
      exact hrun'
    · rw [List.reverse_cons, List.append_assoc]
      exact hh

end

/-! ## What expressions answer -/

/-- Every rule that stands for the expression, without spacing, has the answer and the captures. -/
def Expr.Gives (g : Arena σ) (input : List Char) (inside : Option String) (e : Expr)
    (x : List Char) (matched : Bool) (y : List Char) (l : List Capture) : Prop :=
  ∀ id, e.At .adjacent g id → Answers g input ⟨id, inside, x⟩ matched y l

/-- Every rule that stands for the expression matches one time after another, until it fails or
reads nothing. -/
def Expr.GivesMany (g : Arena σ) (input : List Char) (inside : Option String) (e : Expr)
    (x y : List Char) (l : List Capture) : Prop :=
  ∀ id, e.At .adjacent g id → ∃ n, Repeats g input inside id x n y l

/-- What a name stands for has the answer and the captures. -/
def Calls (g : Arena σ) (input : List Char) (name : String) (x : List Char) (matched : Bool)
    (y : List Char) (l : List Capture) : Prop :=
  ∃ id, g.named? name = some id ∧ Answers g input ⟨id, some name, x⟩ matched y l

section

variable {g : Arena σ} {input x y z : List Char} {inside : Option String} {e first second : Expr}
  {matched : Bool} {l m : List Capture} {name : String}

theorem Expr.Gives.terminal {text : String} :
    (Expr.terminal text).Gives g input inside (text.toList ++ y) true y [] := by
  intro id hat
  cases hat with | terminal hr =>
  exact .literal hr

theorem Expr.Gives.terminal_fails {text : String} (h : ¬ text.toList <+: x) :
    (Expr.terminal text).Gives g input inside x false x [] := by
  intro id hat
  cases hat with | terminal hr =>
  exact .literal_fails hr h

theorem Expr.Gives.range {lo hi c : Char} (hlo : lo ≤ c) (hhi : c ≤ hi) :
    (Expr.range lo hi).Gives g input inside (c :: y) true y [] := by
  intro id hat
  cases hat with | range hr =>
  exact .range hr hlo hhi

theorem Expr.Gives.range_fails {lo hi : Char} (h : ∀ c ∈ x.head?, ¬ (lo ≤ c ∧ c ≤ hi)) :
    (Expr.range lo hi).Gives g input inside x false x [] := by
  intro id hat
  cases hat with | range hr =>
  exact .range_fails hr h

theorem Expr.Gives.concatenation (h : first.Gives g input inside x true y l)
    (h' : second.Gives g input inside y matched z m) :
    (Expr.concatenation first second).Gives g input inside x matched z (l ++ m) := by
  intro id hat
  cases hat with | concatenation hr ha hb =>
  exact .sequence hr (h _ ha) (h' _ hb)

theorem Expr.Gives.concatenation_fails (h : first.Gives g input inside x false y l) :
    (Expr.concatenation first second).Gives g input inside x false y l := by
  intro id hat
  cases hat with | concatenation hr ha hb =>
  exact .sequence_fails hr (h _ ha)

theorem Expr.Gives.alternation_first (h : first.Gives g input inside x true y l) :
    (Expr.alternation first second).Gives g input inside x true y l := by
  intro id hat
  cases hat with | alternation hr ha hb =>
  exact .choice_first hr (h _ ha)

theorem Expr.Gives.alternation_second (h : first.Gives g input inside x false y l)
    (h' : second.Gives g input inside x matched z m) :
    (Expr.alternation first second).Gives g input inside x matched (if matched then z else x)
      (l ++ m) := by
  intro id hat
  cases hat with | alternation hr ha hb =>
  exact .choice_second hr (h _ ha) (h' _ hb)

theorem Expr.Gives.optional (h : e.Gives g input inside x matched y l) :
    (Expr.optional e).Gives g input inside x true (if matched then y else x) l := by
  intro id hat
  cases hat with | optional hr ha =>
  exact .optional hr (h _ ha)

theorem Expr.GivesMany.stop (h : e.Gives g input inside x false y l) :
    e.GivesMany g input inside x x l :=
  fun id hat => ⟨0, .stop (h id hat)⟩

theorem Expr.GivesMany.step (h : e.Gives g input inside x true y l) (hne : y ≠ x)
    (h' : e.GivesMany g input inside y z m) : e.GivesMany g input inside x z (l ++ m) := by
  intro id hat
  obtain ⟨n, hn⟩ := h' id hat
  exact ⟨n + 1, .step (h id hat) hne hn⟩

theorem Expr.GivesMany.repetition (h : e.GivesMany g input inside x y l) :
    (Expr.repetition e).Gives g input inside x true y l := by
  intro id hat
  cases hat with | repetition hr ha =>
  obtain ⟨n, hn⟩ := h _ ha
  exact .zeroOrMore hr hn

/-- An identifier is what the name stands for, unless it is right inside of the name. -/
theorem Expr.Gives.identifier (hinside : inside ≠ some name)
    (h : Calls g input name x matched y l) :
    (Expr.identifier name).Gives g input inside x matched (if matched then y else x) l := by
  obtain ⟨a, ha, h⟩ := h
  intro id hat
  cases hat with | identifier hr =>
  exact .reference hr hinside ha h

end

/-! ## What names answer -/

section

variable {productions : List Production} {actions : List (String × Action σ)} {g : Arena σ}
  {input x y : List Char} {e : Expr} {matched : Bool} {l : List Capture} {name : String}

/-- A production without an action answers what its expression does. -/
theorem Attached.calls (hg : Attached .adjacent productions actions g)
    (he : lastOf name productions = some e) (hname : actions.lookup name = none)
    (h : e.Gives g input (some name) x matched y l) : Calls g input name x matched y l := by
  obtain ⟨id, hid, hunder⟩ := hg.named name e he
  rw [hname] at hunder
  exact ⟨id, hid, h id hunder⟩

/-- The capture of an action comes behind those of the expression. -/
theorem Attached.calls_action (hg : Attached .adjacent productions actions g) {run : Action σ}
    (he : lastOf name productions = some e) (hname : actions.lookup name = some run)
    (h : e.Gives g input (some name) x true y l) :
    ∃ id a, g.rule? id = some (.action a run) ∧
      Calls g input name x true y (l ++ [.between input x y id]) := by
  obtain ⟨id, hid, hunder⟩ := hg.named name e he
  rw [hname] at hunder
  obtain ⟨a, hr, ha⟩ := hunder
  exact ⟨id, a, hr, id, hid, .action hr (h a ha)⟩

theorem Attached.calls_action_fails (hg : Attached .adjacent productions actions g)
    {run : Action σ} (he : lastOf name productions = some e)
    (hname : actions.lookup name = some run) (h : e.Gives g input (some name) x false y l) :
    Calls g input name x false x [] := by
  obtain ⟨id, hid, hunder⟩ := hg.named name e he
  rw [hname] at hunder
  obtain ⟨a, hr, ha⟩ := hunder
  exact ⟨id, hid, .action_fails hr (h a ha)⟩

end

end Peg.Ebnf
