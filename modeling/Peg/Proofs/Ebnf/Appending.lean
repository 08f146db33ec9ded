-- What expressions and grammars leave in an arena, rule by rule. Building an expression puts one
-- rule behind the others for each of its parts, and one more for each exception. Installing a
-- grammar does so for one production after another, and nothing is taken back when the check fails.
import Peg.Proofs.Ebnf.Refusing

namespace Peg

variable {σ : Type}

/-! ## Unfolding -/

/-- The parts of a rule, down to texts, ranges and names, wherever their rules stand. -/
inductive Tree where
  | literal (text : String)
  | range (lo hi : Char)
  | reference (name : String)
  | not (inner : Tree)
  | optional (inner : Tree)
  | zeroOrMore (inner : Tree)
  | sequence (first second : Tree)
  | spaced (first second : Tree)
  | choice (first second : Tree)
deriving DecidableEq, Repr

/-- From the rule on, the arena unfolds to the tree. The rules of its parts are listed, each as
often as it is met. -/
inductive Arena.Unfolds (g : Arena σ) : RuleId → Tree → List RuleId → Prop where
  | literal {id : RuleId} {text : String} :
    g.rule? id = some (.literal text) → Unfolds g id (.literal text) [id]
  | range {id : RuleId} {lo hi : Char} :
    g.rule? id = some (.range lo hi) → Unfolds g id (.range lo hi) [id]
  | reference {id : RuleId} {name : String} :
    g.rule? id = some (.reference name) → Unfolds g id (.reference name) [id]
  | not {id a : RuleId} {t : Tree} {l : List RuleId} :
    g.rule? id = some (.not a) → Unfolds g a t l → Unfolds g id (.not t) (id :: l)
  | optional {id a : RuleId} {t : Tree} {l : List RuleId} :
    g.rule? id = some (.optional a) → Unfolds g a t l → Unfolds g id (.optional t) (id :: l)
  | zeroOrMore {id a : RuleId} {t : Tree} {l : List RuleId} :
    g.rule? id = some (.zeroOrMore a) → Unfolds g a t l → Unfolds g id (.zeroOrMore t) (id :: l)
  | sequence {id a b : RuleId} {t u : Tree} {l m : List RuleId} :
    g.rule? id = some (.sequence a b) → Unfolds g a t l → Unfolds g b u m →
      Unfolds g id (.sequence t u) (id :: (l ++ m))
  | spaced {id a b : RuleId} {t u : Tree} {l m : List RuleId} :
    g.rule? id = some (.spaced a b) → Unfolds g a t l → Unfolds g b u m →
      Unfolds g id (.spaced t u) (id :: (l ++ m))
  | choice {id a b : RuleId} {t u : Tree} {l m : List RuleId} :
    g.rule? id = some (.choice a b) → Unfolds g a t l → Unfolds g b u m →
      Unfolds g id (.choice t u) (id :: (l ++ m))

/-- Each place from `m` up to `n` is there once, and there is no other. -/
structure Fills (places : List RuleId) (m n : Nat) : Prop where
  nodup : places.Nodup
  mem_iff : ∀ id, id ∈ places ↔ m ≤ id.index ∧ id.index < n

/-- From the rule on, the arena unfolds to the tree and to no other one. Its rules are those from
`m` up to `n`, and no two parts of the tree share one. -/
def Arena.Spans (g : Arena σ) (id : RuleId) (tree : Tree) (m n : Nat) : Prop :=
  ∃ places, (∀ t l, g.Unfolds id t l ↔ t = tree ∧ l = places) ∧ Fills places m n

/-- `h` has rules behind those of `g`, and nothing else has changed. -/
structure Arena.Appends (g h : Arena σ) : Prop where
  size_le : g.size ≤ h.size
  rule : ∀ id, id.index < g.size → h.rule? id = g.rule? id
  names : h.names = g.names
  whitespace : h.whitespace = g.whitespace
  warnings : h.warnings = g.warnings

section

variable {g h k : Arena σ} {id : RuleId} {t u : Tree} {l l' : List RuleId} {m n o : Nat}

/-- There is only one way to unfold a rule. -/
theorem Arena.Unfolds.unique (h₁ : g.Unfolds id t l) (h₂ : g.Unfolds id u l') :
    u = t ∧ l' = l := by
  induction h₁ generalizing u l' with
  | literal hr | range hr | reference hr => cases h₂ <;> simp_all
  | not hr _ ih | optional hr _ ih | zeroOrMore hr _ ih => cases h₂ <;> grind
  | sequence hr _ _ ih ih' | spaced hr _ _ ih ih' | choice hr _ _ ih ih' => cases h₂ <;> grind

theorem Arena.Appends.trans (hgh : g.Appends h) (hhk : h.Appends k) : g.Appends k where
  size_le := Nat.le_trans hgh.size_le hhk.size_le
  rule id hid := (hhk.rule id (Nat.lt_of_lt_of_le hid hgh.size_le)).trans (hgh.rule id hid)
  names := hhk.names.trans hgh.names
  whitespace := hhk.whitespace.trans hgh.whitespace
  warnings := hhk.warnings.trans hgh.warnings

theorem Arena.Appends.push (g : Arena σ) (r : Rule σ) : g.Appends ((Build.push r).run g).2 where
  size_le := by
    rw [size_push]
    exact Nat.le_succ _
  rule id hid := by rw [rule?_push, if_neg (Nat.ne_of_lt hid)]
  names := by rw [Build.run_push]
  whitespace := by rw [Build.run_push]
  warnings := by rw [Build.run_push]

/-- What rules unfold to stays when others are added. -/
theorem Arena.Unfolds.mono (hgh : ∀ id, id.index < g.size → h.rule? id = g.rule? id)
    (ht : g.Unfolds id t l) : h.Unfolds id t l := by
  have hrule : ∀ {id r}, g.rule? id = some r → h.rule? id = some r := fun hr =>
    (hgh _ (index_lt_of_rule? hr)).trans hr
  induction ht with
  | literal hr => exact .literal (hrule hr)
  | range hr => exact .range (hrule hr)
  | reference hr => exact .reference (hrule hr)
  | not hr _ ih => exact .not (hrule hr) ih
  | optional hr _ ih => exact .optional (hrule hr) ih
  | zeroOrMore hr _ ih => exact .zeroOrMore (hrule hr) ih
  | sequence hr _ _ ih ih' => exact .sequence (hrule hr) ih ih'
  | spaced hr _ _ ih ih' => exact .spaced (hrule hr) ih ih'
  | choice hr _ _ ih ih' => exact .choice (hrule hr) ih ih'

theorem Arena.Unfolds.spans (ht : g.Unfolds id t l) (hl : Fills l m n) : g.Spans id t m n :=
  ⟨l, fun _ _ => ⟨ht.unique, fun ⟨htree, hplaces⟩ => htree ▸ hplaces ▸ ht⟩, hl⟩

theorem Arena.Spans.exists (h : g.Spans id t m n) : ∃ l, g.Unfolds id t l ∧ Fills l m n := by
  obtain ⟨l, hunique, hl⟩ := h
  exact ⟨l, (hunique t l).2 ⟨rfl, rfl⟩, hl⟩

theorem Arena.Spans.mono (hgh : ∀ id, id.index < g.size → h.rule? id = g.rule? id)
    (ht : g.Spans id t m n) : h.Spans id t m n := by
  obtain ⟨l, hunfolds, hl⟩ := ht.exists
  exact (hunfolds.mono hgh).spans hl

/-! ## Places -/

theorem Fills.single (n : Nat) : Fills [⟨n⟩] n (n + 1) := by
  refine ⟨by simp, fun id => ?_⟩
  obtain ⟨k⟩ := id
  simp only [List.mem_singleton, RuleId.mk.injEq]
  omega

theorem Fills.append (hl : Fills l m n) (hl' : Fills l' n o) (hmn : m ≤ n) (hno : n ≤ o) :
    Fills (l ++ l') m o where
  nodup := by
    refine List.nodup_append.2 ⟨hl.nodup, hl'.nodup, ?_⟩
    rintro id hid _ hid' rfl
    rw [hl.mem_iff] at hid
    rw [hl'.mem_iff] at hid'
    omega
  mem_iff id := by
    rw [List.mem_append, hl.mem_iff, hl'.mem_iff]
    omega

theorem Fills.perm (hl : Fills l m n) (hperm : l.Perm l') : Fills l' m n where
  nodup := hperm.nodup_iff.1 hl.nodup
  mem_iff id := by rw [← hperm.mem_iff, hl.mem_iff]

/-- The last place may be listed first. -/
theorem Fills.cons_last (hl : Fills l m n) (hmn : m ≤ n) : Fills (⟨n⟩ :: l) m (n + 1) :=
  (hl.append (.single n) hmn (Nat.le_succ n)).perm List.perm_append_comm

end

/-! ## Steps that lay out a tree -/

/-- Behind the rules of `g` come as many as the count says. They are those of the tree, and the id
is that of its root. -/
structure Arena.Laid (tree : Tree) (count : Nat) (g h : Arena σ) (id : RuleId) : Prop where
  appends : g.Appends h
  size : h.size = g.size + count
  spans : h.Spans id tree g.size h.size

/-- The steps lay out the tree, whatever arena they start from. -/
def Build.Lays (tree : Tree) (count : Nat) (x : Build σ RuleId) : Prop :=
  ∀ g : Arena σ, Arena.Laid tree count g (x.run g).2 (x.run g).1

namespace Build

section

variable {x y : Build σ RuleId} {t u : Tree} {m n : Nat}

theorem Lays.leaf {r : Rule σ}
    (hr : ∀ {h : Arena σ} {id}, h.rule? id = some r → h.Unfolds id t [id]) :
    Lays t 1 (push r) := by
  intro g
  refine ⟨.push g r, size_push g r, ?_⟩
  rw [size_push]
  exact (hr rule?_of_push).spans (.single g.size)

theorem Lays.unary {form : RuleId → Rule σ} {node : Tree → Tree} (hx : Lays t m x)
    (hform : ∀ {h : Arena σ} {id a l}, h.rule? id = some (form a) → h.Unfolds a t l →
      h.Unfolds id (node t) (id :: l)) :
    Lays (node t) (m + 1) (x >>= fun a => push (form a)) := by
  intro g
  obtain ⟨happends, hsize, hspans⟩ := hx g
  obtain ⟨l, hunfolds, hl⟩ := hspans.exists
  rw [run_bind]
  generalize x.run g = made at *
  obtain ⟨a, h⟩ := made
  dsimp only at *
  have hpush : h.Appends ((push (form a)).run h).2 := .push h (form a)
  refine ⟨happends.trans hpush, by rw [size_push, hsize, Nat.add_assoc], ?_⟩
  rw [size_push]
  exact (hform rule?_of_push (hunfolds.mono hpush.rule)).spans (hl.cons_last happends.size_le)

theorem Lays.binary {form : RuleId → RuleId → Rule σ} {node : Tree → Tree → Tree}
    (hx : Lays t m x) (hy : Lays u n y)
    (hform : ∀ {h : Arena σ} {id a b l l'}, h.rule? id = some (form a b) → h.Unfolds a t l →
      h.Unfolds b u l' → h.Unfolds id (node t u) (id :: (l ++ l'))) :
    Lays (node t u) (m + n + 1) (x >>= fun a => y >>= fun b => push (form a b)) := by
  intro g
  obtain ⟨happends, hsize, hspans⟩ := hx g
  obtain ⟨l, hunfolds, hl⟩ := hspans.exists
  rw [run_bind]
  generalize x.run g = made at *
  obtain ⟨a, h⟩ := made
  obtain ⟨happends', hsize', hspans'⟩ := hy h
  obtain ⟨l', hunfolds', hl'⟩ := hspans'.exists
  dsimp only at *
  rw [run_bind]
  generalize y.run h = made at *
  obtain ⟨b, k⟩ := made
  dsimp only at *
  have hpush : k.Appends ((push (form a b)).run k).2 := .push k (form a b)
  have hall := hl.append hl' happends.size_le happends'.size_le
  refine ⟨(happends.trans happends').trans hpush, by rw [size_push]; omega, ?_⟩
  rw [size_push]
  refine (hform rule?_of_push ?_ ?_).spans (hall.cons_last (by omega))
  · exact hunfolds.mono (happends'.trans hpush).rule
  · exact hunfolds'.mono hpush.rule

end

end Build

namespace Ebnf

/-! ## Expressions -/

/-- The tree of two parts. -/
def Spacing.tree : Spacing → Tree → Tree → Tree
  | adjacent => .sequence
  | spaced => .spaced

/-- What an expression says, without its groups. -/
def Expr.translation (spacing : Spacing) : Expr → Tree
  | identifier name => .reference name
  | terminal text => .literal text
  | range lo hi => .range lo hi
  | optional e => .optional (e.translation spacing)
  | repetition e => .zeroOrMore (e.translation spacing)
  | group e => e.translation spacing
  | exception base except =>
    .sequence (.not (except.translation spacing)) (base.translation spacing)
  | alternation a b => .choice (a.translation spacing) (b.translation spacing)
  | concatenation a b => spacing.tree (a.translation spacing) (b.translation spacing)

/-- The number of parts of an expression that are no groups. -/
def Expr.ungrouped : Expr → Nat
  | identifier _ | terminal _ | range _ _ => 1
  | optional e | repetition e => e.ungrouped + 1
  | group e => e.ungrouped
  | exception a b | alternation a b | concatenation a b => a.ungrouped + b.ungrouped + 1

/-- The number of exceptions in an expression. -/
def Expr.exceptions : Expr → Nat
  | identifier _ | terminal _ | range _ _ => 0
  | optional e | repetition e | group e => e.exceptions
  | exception a b => a.exceptions + b.exceptions + 1
  | alternation a b | concatenation a b => a.exceptions + b.exceptions

/-- The number of rules that an expression is built of. -/
def Expr.count : Expr → Nat
  | identifier _ | terminal _ | range _ _ => 1
  | optional e | repetition e => e.count + 1
  | group e => e.count
  | exception base except => except.count + 1 + base.count + 1
  | alternation a b | concatenation a b => a.count + b.count + 1

section

variable {spacing : Spacing} {first p : Production} {productions more : List Production}
variable {g h k : Arena σ}

theorem Expr.count_eq (e : Expr) : e.count = e.ungrouped + e.exceptions := by
  induction e with
  | identifier _ | terminal _ | range _ _ => rfl
  | group e ih => exact ih
  | optional e ih | repetition e ih =>
    simp only [count, ungrouped, exceptions, ih]
    omega
  | exception a b iha ihb | alternation a b iha ihb | concatenation a b iha ihb =>
    simp only [count, ungrouped, exceptions, iha, ihb]
    omega

theorem Expr.lays_build (spacing : Spacing) (e : Expr) :
    Build.Lays (e.translation spacing) e.count (e.build spacing : Build σ RuleId) := by
  induction e with
  | identifier name => exact .leaf .reference
  | terminal text => exact .leaf .literal
  | range lo hi => exact .leaf .range
  | optional e ih => exact ih.unary .optional
  | repetition e ih => exact ih.unary .zeroOrMore
  | group e ih => exact ih
  | exception base except ihbase ihexcept =>
    have h := (ihexcept.unary .not).binary ihbase .sequence
    rwa [bind_assoc] at h
  | alternation first second ihfirst ihsecond => exact ihfirst.binary ihsecond .choice
  | concatenation first second ihfirst ihsecond =>
    cases spacing with
    | adjacent => exact ihfirst.binary ihsecond .sequence
    | spaced => exact ihfirst.binary ihsecond .spaced

/-! ## Productions -/

/-- The name of the production stands for what was built for it when the arena was `k`. -/
structure Production.Bound (spacing : Spacing) (p : Production) (k h : Arena σ) : Prop where
  named : h.named? p.name = some ((p.body.build spacing).run k).1
  spans : h.Spans ((p.body.build spacing).run k).1 (p.body.translation spacing) k.size
    (k.size + p.body.count)

/-- The names, in order, of the productions whose name is known already when they are reached. -/
def repeated (known : String → Bool) : List Production → List String
  | [] => []
  | p :: more =>
    let later := repeated (fun name => known name || name == p.name) more
    if known p.name then p.name :: later else later

/-- The number of rules that the productions are built of. -/
def countAll (productions : List Production) : Nat := (productions.map (·.body.count)).sum

/-- What one production makes of `g`. -/
structure Production.Leaves (spacing : Spacing) (p : Production) (g h : Arena σ) : Prop where
  size : h.size = g.size + p.body.count
  rule : ∀ id, id.index < g.size → h.rule? id = g.rule? id
  whitespace : h.whitespace = g.whitespace
  bound : p.Bound spacing g h
  others : ∀ name, name ≠ p.name → h.named? name = g.named? name
  warnings : h.warnings =
    if (g.named? p.name).isSome then .redefined p.name :: g.warnings else g.warnings

/-- What productions and so many rules behind them make of `g`. -/
structure Receives (spacing : Spacing) (productions : List Production) (extra : Nat)
    (g h : Arena σ) : Prop where
  size : h.size = g.size + countAll productions + extra
  rule : ∀ id, id.index < g.size → h.rule? id = g.rule? id
  whitespace : h.whitespace = g.whitespace
  /-- A name stands for the last production with the name, and this one was built where those
  before it had left the arena. -/
  bound : ∀ before p after, productions = before ++ p :: after →
    (∀ q ∈ after, q.name ≠ p.name) → p.Bound spacing (installAll spacing before g) h
  /-- All other names stand for what they stood for. -/
  others : ∀ name, (∀ p ∈ productions, name ≠ p.name) → h.named? name = g.named? name
  /-- There is a warning for each name that was known already, and the last one comes first. -/
  warnings : h.warnings =
    ((repeated (fun name => (g.named? name).isSome) productions).map .redefined).reverse ++
      g.warnings

theorem Production.Bound.mono (hp : p.Bound spacing g h)
    (hnamed : k.named? p.name = h.named? p.name)
    (hrule : ∀ id, id.index < h.size → k.rule? id = h.rule? id) : p.Bound spacing g k :=
  ⟨hnamed.trans hp.named, hp.spans.mono hrule⟩

theorem Production.leaves_install (spacing : Spacing) (p : Production) (g : Arena σ) :
    p.Leaves spacing g ((p.install spacing).run g).2 := by
  obtain ⟨happends, hsize, hspans⟩ := p.body.lays_build spacing g
  have hnamed : ∀ name, ((p.body.build spacing).run g).2.named? name = g.named? name := by
    intro name
    rw [Arena.named?, happends.names]
    rfl
  rw [hsize] at hspans
  rw [p.run_install]
  dsimp only
  rw [hnamed]
  have hbound : p.Bound spacing g (((p.body.build spacing).run g).2.register p.name
      ((p.body.build spacing).run g).1) :=
    ⟨(Arena.named?_register ..).trans (if_pos rfl), hspans.mono fun _ _ => by rfl⟩
  have hothers : ∀ name, name ≠ p.name → (((p.body.build spacing).run g).2.register p.name
      ((p.body.build spacing).run g).1).named? name = g.named? name := fun name hname =>
    ((Arena.named?_register ..).trans (if_neg hname)).trans (hnamed name)
  split
  · next hsome =>
    refine ⟨hsize, happends.rule, happends.whitespace, ?_, hothers, ?_⟩
    · exact hbound.mono rfl fun _ _ => by rfl
    · rw [if_pos hsome, ← happends.warnings]
      rfl
  · next hnone =>
    refine ⟨hsize, happends.rule, happends.whitespace, hbound, hothers, ?_⟩
    rw [if_neg hnone]
    exact happends.warnings

theorem receives_nil (g : Arena σ) : Receives spacing [] 0 g g where
  size := rfl
  rule _ _ := rfl
  whitespace := rfl
  bound before p after h := by simp at h
  others _ _ := rfl
  warnings := rfl

/-- One production comes first. -/
theorem Receives.cons {extra : Nat} (hp : p.Leaves spacing g ((p.install spacing).run g).2)
    (hmore : Receives spacing more extra ((p.install spacing).run g).2 h) :
    Receives spacing (p :: more) extra g h where
  size := by
    rw [hmore.size, hp.size, countAll, countAll, List.map_cons, List.sum_cons]
    omega
  rule id hid := by
    rw [hmore.rule id (by rw [hp.size]; omega), hp.rule id hid]
  whitespace := hmore.whitespace.trans hp.whitespace
  bound before q after heq hafter := by
    cases before with
    | nil =>
      cases heq
      exact hp.bound.mono (hmore.others p.name fun q hq => (hafter q hq).symm) hmore.rule
    | cons r before =>
      cases heq
      exact hmore.bound before q after rfl hafter
  others name hname := by
    obtain ⟨hp', hmore'⟩ := List.forall_mem_cons.1 hname
    exact (hmore.others name hmore').trans (hp.others name hp')
  warnings := by
    have hknown : (fun name => (((p.install spacing).run g).2.named? name).isSome) =
        fun name => (g.named? name).isSome || name == p.name := by
      funext name
      by_cases hname : name = p.name
      · simp [hname, hp.bound.named]
      · simp [hname, hp.others name hname]
    rw [hmore.warnings, hknown, hp.warnings, repeated]
    split <;> simp

theorem receives_installAll (spacing : Spacing) (productions : List Production) (g : Arena σ) :
    Receives spacing productions 0 g (installAll spacing productions g) := by
  induction productions generalizing g with
  | nil => exact receives_nil g
  | cons p more ih => exact (ih _).cons (p.leaves_install spacing g)

/-- A rule may come behind the productions. -/
theorem Receives.push (hg : Receives spacing productions 0 g h) (r : Rule σ) :
    Receives spacing productions 1 g ((Build.push r).run h).2 := by
  have happends := Arena.Appends.push h r
  have hnamed : ∀ name, ((Build.push r).run h).2.named? name = h.named? name := by
    intro name
    rw [Arena.named?, happends.names]
    rfl
  refine ⟨by rw [size_push, hg.size], ?_, happends.whitespace.trans hg.whitespace, ?_, ?_,
    happends.warnings.trans hg.warnings⟩
  · intro id hid
    exact (happends.rule id (by rw [hg.size]; omega)).trans (hg.rule id hid)
  · intro before p after heq hafter
    exact (hg.bound before p after heq hafter).mono (hnamed p.name) happends.rule
  · intro name hname
    exact (hnamed name).trans (hg.others name hname)

/-! ## Grammars -/

/-- What comes of installing a grammar that begins with `first`: the check fails, or there is a
reference to the first production behind the others, which is the answer. -/
inductive Grammar.Outcome (spacing : Spacing) (first : Production) (more : List Production)
    (g : Arena σ) : Except Error RuleId → Arena σ → Prop where
  | refused {h : Arena σ} (name : String) : Receives spacing (first :: more) 0 g h →
    Outcome spacing first more g (.error (.uninstallable (.unknownRule name))) h
  | installed {h : Arena σ} : Receives spacing (first :: more) 1 g h →
    h.rule? ⟨g.size + countAll (first :: more)⟩ = some (.reference first.name) →
    Outcome spacing first more g (.ok ⟨g.size + countAll (first :: more)⟩) h

theorem outcome_install (spacing : Spacing) (first : Production) (more : List Production)
    (g : Arena σ) :
    Grammar.Outcome spacing first more g ((Grammar.install spacing ⟨first :: more⟩).run.run g).1
      ((Grammar.install spacing ⟨first :: more⟩).run.run g).2 := by
  have hall := receives_installAll spacing (first :: more) g
  rw [run_install]
  generalize installAll spacing (first :: more) g = h at hall
  cases hvalid : h.validate with
  | error e =>
    obtain ⟨id, name, rfl, -⟩ := validate_eq_error_iff.1 hvalid
    simp only [hvalid]
    exact .refused name hall
  | ok =>
    simp only [hvalid]
    have hplace : ((Build.reference first.name).run h).1 =
        ⟨g.size + countAll (first :: more)⟩ := by
      rw [Build.run_reference, Build.run_push, hall.size, Nat.add_zero]
    have hrule := rule?_of_push (g := h) (r := .reference first.name)
    rw [← Build.run_reference, hplace] at hrule
    rw [hplace]
    exact .installed (hall.push _) hrule

end

/-- Whatever the arena is, building an expression only adds to it: one rule for each part that is
no group and one more for each exception, and they unfold to what the expression says, each part
with a rule of its own. A grammar leaves the last production of each name behind, and a warning for
each name that was known already, also when it is refused, and a reference to its first production
when it is not. A grammar without productions leaves all as it was. -/
theorem expressions_and_grammars_only_add (spacing : Spacing) (g : Arena σ) :
    (∀ e : Expr, Arena.Laid (e.translation spacing) (e.ungrouped + e.exceptions) g
      ((e.build spacing).run g).2 ((e.build spacing).run g).1) ∧
      (∀ first more, Grammar.Outcome spacing first more g
        ((Grammar.install spacing ⟨first :: more⟩).run.run g).1
        ((Grammar.install spacing ⟨first :: more⟩).run.run g).2) ∧
      (Grammar.install spacing ⟨[]⟩).run.run g = (.error .emptyGrammar, g) := by
  refine ⟨fun e => ?_, fun first more => outcome_install spacing first more g, rfl⟩
  rw [← e.count_eq]
  exact e.lays_build spacing g

-- what is taken out is built first, and a group has no rule
example : (((Expr.exception (.group (.identifier "a")) (.terminal "x")).build .adjacent).run
    (⟨#[], [], ⟨0⟩, []⟩ : Arena Unit)).2.rules =
      #[.literal "x", .not ⟨0⟩, .reference "a", .sequence ⟨1⟩ ⟨2⟩] := by
  rfl

end Ebnf

end Peg
