-- What the spacing of a grammar matters. It decides whether concatenations leave out white space,
-- and nothing else: on a text without any, both ways to install a grammar match alike.
import Peg.Proofs.Ebnf.Installing
import Peg.Proofs.Mirroring

namespace Peg

open Ebnf

variable {σ α β : Type}

/-! ## Arenas but for their spacing -/

/-- The second rule may leave out white space where the first one may not. -/
inductive Rule.Respaced : Rule σ → Rule σ → Prop where
  | same (r : Rule σ) : Respaced r r
  | between (a b : RuleId) : Respaced (.sequence a b) (.spaced a b)

/-- `h` is `g`, with white space that may be left out between the parts of some sequences. -/
structure Arena.Respaced (g h : Arena σ) : Prop where
  size : h.size = g.size
  rule : ∀ id, Option.Rel Rule.Respaced (g.rule? id) (h.rule? id)
  names : h.names = g.names
  whitespace : h.whitespace = g.whitespace

section

variable {g h : Arena σ} {r r' : Rule σ} {name : String} {id : RuleId}

theorem Arena.Respaced.refl (g : Arena σ) : g.Respaced g where
  size := rfl
  rule id := by
    cases g.rule? id with
    | none => exact .none
    | some r => exact .some (.same r)
  names := rfl
  whitespace := rfl

theorem Arena.Respaced.named? (hgh : g.Respaced h) (name : String) :
    h.named? name = g.named? name := by
  rw [Arena.named?, hgh.names, Arena.named?]

theorem Arena.Respaced.push (hgh : g.Respaced h) (hr : r.Respaced r') :
    ((Build.push r).run g).2.Respaced ((Build.push r').run h).2 where
  size := by
    rw [size_push, size_push, hgh.size]
  rule id := by
    rw [rule?_push, rule?_push, hgh.size]
    split
    · exact .some hr
    · exact hgh.rule id
  names := by
    rw [Build.run_push, Build.run_push]
    exact hgh.names
  whitespace := by
    rw [Build.run_push, Build.run_push]
    exact hgh.whitespace

theorem Arena.Respaced.register (hgh : g.Respaced h) (name : String) (id : RuleId) :
    (g.register name id).Respaced (h.register name id) where
  size := hgh.size
  rule := hgh.rule
  names := by rw [Arena.register, hgh.names, Arena.register]
  whitespace := hgh.whitespace

theorem Arena.Respaced.warn (hgh : g.Respaced h) (entry : LogEntry) :
    (g.warn entry).Respaced (h.warn entry) := ⟨hgh.size, hgh.rule, hgh.names, hgh.whitespace⟩

theorem Arena.Respaced.reference_iff (hgh : g.Respaced h) :
    h.rule? id = some (.reference name) ↔ g.rule? id = some (.reference name) := by
  rcases rel_cases (hgh.rule id) with ⟨hnone, hnone'⟩ | ⟨r, r', hr, hr', hrr⟩
  · rw [hnone, hnone']
  · rw [hr, hr']
    cases hrr with
    | same r => rfl
    | between a b => simp

theorem Arena.Respaced.dangles_iff (hgh : g.Respaced h) :
    h.Dangles id name ↔ g.Dangles id name := by
  rw [Arena.Dangles, Arena.Dangles, hgh.reference_iff, hgh.named?]

/-- The check finds the same. -/
theorem Arena.Respaced.validate_eq (hgh : g.Respaced h) : h.validate = g.validate := by
  cases hg : g.validate with
  | ok =>
    rw [validate_eq_ok_iff_forall] at hg ⊢
    exact fun id name hd => hg id name (hgh.dangles_iff.1 hd)
  | error e =>
    rw [validate_eq_error_iff] at hg ⊢
    simpa only [hgh.dangles_iff] using hg

end

/-! ## Building with either spacing -/

/-- From arenas that are alike but for their spacing, the steps come to such arenas again, and to
the same answer. -/
def Build.Respaces (x y : Build σ α) : Prop :=
  ∀ g h : Arena σ, g.Respaced h →
    (y.run h).1 = (x.run g).1 ∧ (x.run g).2.Respaced (y.run h).2

section

variable {g h : Arena σ}

theorem Build.Respaces.bind {x y : Build σ α} {next next' : α → Build σ β}
    (hxy : Build.Respaces x y) (hnext : ∀ a, Build.Respaces (next a) (next' a)) :
    Build.Respaces (x >>= next) (y >>= next') := by
  intro g h hgh
  obtain ⟨hanswer, hgh'⟩ := hxy g h hgh
  rw [Build.run_bind, Build.run_bind, hanswer]
  exact hnext _ _ _ hgh'

theorem Build.Respaces.push {r r' : Rule σ} (hr : r.Respaced r') :
    Build.Respaces (Build.push r) (Build.push r') := by
  intro g h hgh
  refine ⟨?_, hgh.push hr⟩
  rw [Build.run_push, Build.run_push, hgh.size]

theorem Build.Respaces.register (name : String) (id : RuleId) :
    Build.Respaces (Build.register name id : Build σ _) (Build.register name id) :=
  fun _ _ hgh => ⟨hgh.named? name, hgh.register name id⟩

theorem Build.Respaces.attach (name : String) (run : Action σ) :
    Build.Respaces (Build.attach name run).run (Build.attach name run).run := by
  intro g h hgh
  rw [Build.run_attach, Build.run_attach, hgh.named?]
  cases g.named? name with
  | none => exact ⟨rfl, hgh⟩
  | some a =>
    obtain ⟨hanswer, hgh'⟩ := Build.Respaces.push (.same (.action a run)) g h hgh
    simp only [Build.action, Build.run_unary, hanswer, true_and]
    exact hgh'.register name _

theorem Build.Respaces.attachAll (calls : List (String × Action σ)) :
    Build.Respaces (Build.attachAll calls) (Build.attachAll calls) := by
  induction calls with
  | nil => exact fun _ _ hgh => ⟨rfl, hgh⟩
  | cons call more ih =>
    exact (Build.Respaces.attach call.1 call.2).bind fun _ =>
      ih.bind fun _ _ _ hgh => ⟨rfl, hgh⟩

theorem Ebnf.Expr.respaces_build (e : Expr) :
    Build.Respaces (e.build .adjacent : Build σ RuleId) (e.build .spaced) := by
  induction e with
  | identifier name => exact .push (.same _)
  | terminal text => exact .push (.same _)
  | range lo hi => exact .push (.same _)
  | optional e ih => exact ih.bind fun _ => .push (.same _)
  | repetition e ih => exact ih.bind fun _ => .push (.same _)
  | group e ih => exact ih
  | exception base except ihBase ihExcept =>
    exact ihExcept.bind fun _ => (Build.Respaces.push (.same _)).bind fun _ =>
      ihBase.bind fun _ => .push (.same _)
  | alternation first second ihFirst ihSecond =>
    exact ihFirst.bind fun _ => ihSecond.bind fun _ => .push (.same _)
  | concatenation first second ihFirst ihSecond =>
    exact ihFirst.bind fun _ => ihSecond.bind fun _ => .push (.between _ _)

theorem Ebnf.Production.respaces_install (p : Production) :
    Build.Respaces (p.install .adjacent : Build σ Unit) (p.install .spaced) := by
  refine p.body.respaces_build.bind fun rule => (Build.Respaces.register _ _).bind fun earlier => ?_
  split
  · exact fun _ _ hgh => ⟨rfl, hgh.warn _⟩
  · exact fun _ _ hgh => ⟨rfl, hgh⟩

theorem respaced_installAll (hgh : g.Respaced h) (productions : List Production) :
    (installAll .adjacent productions g).Respaced (installAll .spaced productions h) := by
  induction productions generalizing g h with
  | nil => exact hgh
  | cons p more ih => exact ih (p.respaces_install g h hgh).2

theorem Ebnf.Grammar.respaces_install (grammar : Grammar) :
    Build.Respaces (grammar.install .adjacent : ExceptT Error (Build σ) RuleId).run
      (grammar.install .spaced).run := by
  intro g h hgh
  obtain ⟨_ | ⟨first, more⟩⟩ := grammar
  · exact ⟨rfl, hgh⟩
  · have hall := respaced_installAll hgh (first :: more)
    rw [run_install, run_install]
    dsimp only
    rw [hall.validate_eq]
    split
    · exact ⟨rfl, hall⟩
    · obtain ⟨hanswer, hput⟩ := Build.Respaces.push (.same (.reference first.name)) _ _ hall
      exact ⟨congrArg Except.ok hanswer, hput⟩

theorem Ebnf.Grammar.respaces_equip (calls : List (String × Action σ)) (grammar : Grammar) :
    Build.Respaces (grammar.equip .adjacent calls) (grammar.equip .spaced calls) :=
  grammar.respaces_install.bind fun _ =>
    (Build.Respaces.attachAll calls).bind fun _ _ _ hgh => ⟨rfl, hgh⟩

end

/-! ## Matching with either spacing -/

/-- The attempts are one and the same, with no blank in the text that is left. -/
def Attempt.SameBare (a b : Attempt) : Prop := b = a ∧ ∀ c ∈ a.rest, isLayoutBlank c = false

section

variable {g h : Arena σ} {a b : Attempt} {input : List Char}

theorem skip_of_bare {x : List Char} (hx : ∀ c ∈ x, isLayoutBlank c = false) :
    x.dropWhile isLayoutBlank = x := by
  apply dropWhile_of_not_startsWith
  rintro ⟨c, hc, hblank⟩
  rw [hx c (List.mem_of_mem_head? hc)] at hblank
  cases hblank

theorem Arena.Respaced.plan_mirrors (hgh : g.Respaced h) (hg : g.DefaultSpaced)
    (hh : h.DefaultSpaced) (hab : a.SameBare b) :
    (g.plan a).Mirrors g h input Attempt.SameBare (h.plan b) := by
  obtain ⟨rfl, hbare⟩ := hab
  have hrest : ∀ {y}, y <:+ b.rest → ∀ c ∈ y, isLayoutBlank c = false :=
    fun hy c hc => hbare c (hy.subset hc)
  rcases rel_cases (hgh.rule b.rule) with ⟨hnone, hnone'⟩ | ⟨r, r', hr, hr', hrr⟩
  · rw [plan_of_missing hnone, plan_of_missing hnone']
    exact .finish _
  · rw [plan_of_rule hr, plan_of_rule hr']
    cases hrr with
    | same r =>
      refine ofRule_mirrors (S := Eq) (hg.spaceAlike hh input) (.refl fun _ _ => rfl) ?_ ?_
      · rintro a _ y rfl hy
        exact ⟨rfl, hrest hy⟩
      · intro name _ _
        rw [hgh.named?]
        cases g.named? name with
        | none => exact .none
        | some a => exact .some ⟨rfl, hbare⟩
    | between a b' =>
      refine .attempt ⟨rfl, hbare⟩ rfl fun matched y hy => ?_
      cases matched with
      | false => exact .finish _
      | true =>
        -- the white space is there, and it is empty
        have hspace : Answers h input ⟨h.whitespace, b.active, y⟩ true y [] := by
          have hanswers : Answers h input ⟨⟨9⟩, b.active, y⟩ true (y.dropWhile isLayoutBlank) [] :=
            hh.grown.hasDefaultSpace.answers y
          rwa [skip_of_bare (hrest hy), ← hh.whitespace] at hanswers
        exact .right hspace (.attempt ⟨rfl, hrest hy⟩ rfl fun _ _ _ => .finish _)

theorem Arena.Respaced.recorded_eq (hgh : g.Respaced h) (e : Ending) (l : List Capture) :
    h.recorded input a e l = g.recorded input a e l := by
  unfold Arena.recorded
  rcases rel_cases (hgh.rule a.rule) with ⟨hnone, hnone'⟩ | ⟨r, r', hr, hr', hrr⟩
  · rw [hnone, hnone']
  · rw [hr, hr']
    cases hrr with
    | same r => rfl
    | between a b => rfl

theorem Arena.Respaced.mirrors (hgh : g.Respaced h) (hg : g.DefaultSpaced) (hh : h.DefaultSpaced)
    (input : List Char) : g.Mirrors h input Attempt.SameBare Eq where
  plan hab := hgh.plan_mirrors hg hh hab
  recorded := by
    rintro a _ e l m ⟨rfl, -⟩ - hlm
    rw [List.forall₂_eq_eq_eq] at hlm ⊢
    rw [hlm, hgh.recorded_eq]

end

/-- A grammar is installed in a new arena with either spacing, and actions are attached to it. The
answers are the same, and so are the ids. Where no blank is left of the text, every rule matches in
both arenas alike, with the same captures. -/
theorem spacing_matters_for_blanks_only (grammar : Grammar) (calls : List (String × Action σ))
    (s : MatchState) (hs : ∀ c ∈ s.cursor.rest, isLayoutBlank c = false) :
    ∃ answers g h, (grammar.equip .adjacent calls).run .fresh = (answers, g) ∧
      (grammar.equip .spaced calls).run .fresh = (answers, h) ∧
      ∀ id, Alike (Match.eval g id s) (Match.eval h id s) ∧
        ∀ matched matched' t t', Match.eval g id s = .ok matched t →
          Match.eval h id s = .ok matched' t' → t'.captures = t.captures := by
  obtain ⟨hanswers, hgh⟩ := grammar.respaces_equip calls .fresh .fresh (.refl _)
  have hg := defaultSpaced_equip .adjacent calls grammar
  have hh := defaultSpaced_equip .spaced calls grammar
  generalize (grammar.equip .adjacent calls).run .fresh = made at hanswers hgh hg ⊢
  generalize (grammar.equip .spaced calls).run .fresh = made' at hanswers hgh hh ⊢
  refine ⟨made.1, made.2, made'.2, rfl, Prod.ext hanswers rfl, fun id => ?_⟩
  have hmirrors := hgh.mirrors hg hh s.cursor.input
  have hstart : (s.attempt id).SameBare (s.attempt id) := ⟨rfl, hs⟩
  refine ⟨hmirrors.alike hstart, fun matched matched' t t' ht ht' => ?_⟩
  have hcaptures := hmirrors.captures hstart (List.forall₂_refl _) ht ht'
  rw [List.forall₂_eq_eq_eq] at hcaptures
  exact hcaptures.symm

/-- Two letters, one after the other. -/
def pairGrammar : Grammar :=
  ⟨[⟨"pair", .concatenation (.identifier "letter") (.identifier "letter")⟩,
    ⟨"letter", .range 'a' 'z'⟩]⟩

/-- A new arena with the grammar in it, and an action for each letter. -/
def pairs (spacing : Spacing) : Arena Unit :=
  ((pairGrammar.equip spacing [("letter", fun output _ => output)]).run .fresh).2

/-- A pair without a blank is read with either spacing, and both letters are captured. -/
theorem a_pair_is_read_with_either_spacing :
    ∃ t t', Match.eval (pairs .adjacent) ⟨14⟩ (.ofText ['a', 'b'] false) = .ok true t ∧
      Match.eval (pairs .spaced) ⟨14⟩ (.ofText ['a', 'b'] false) = .ok true t' ∧
      t'.cursor = t.cursor ∧ t'.captures = t.captures ∧ t.captures.length = 2 := by
  have hbare : ∀ c ∈ ['a', 'b'], isLayoutBlank c = false :=
    List.forall_mem_cons.2 ⟨rfl, List.forall_mem_singleton.2 rfl⟩
  obtain ⟨answers, g, h, hg, hh, hall⟩ := spacing_matters_for_blanks_only pairGrammar
    [("letter", fun (output : Unit) _ => output)] (.ofText ['a', 'b'] false) hbare
  obtain ⟨halike, hcaptures⟩ := hall ⟨14⟩
  obtain rfl : pairs .adjacent = g := congrArg Prod.snd hg
  obtain rfl : pairs .spaced = h := congrArg Prod.snd hh
  have hread : (match Match.eval (pairs .adjacent) ⟨14⟩ (.ofText ['a', 'b'] false) with
      | .ok true t => t.captures.length == 2
      | _ => false) = true := by decide +kernel
  generalize Match.eval (pairs .adjacent) ⟨14⟩ (.ofText ['a', 'b'] false) = result at *
  generalize Match.eval (pairs .spaced) ⟨14⟩ (.ofText ['a', 'b'] false) = result' at *
  cases halike with
  | @answered matched t t' hcursor _ =>
    cases matched with
    | false => cases hread
    | true => exact ⟨t, t', rfl, rfl, hcursor, hcaptures _ _ _ _ rfl rfl, eq_of_beq hread⟩
  | halted _ _ | endless => cases hread

end Peg
