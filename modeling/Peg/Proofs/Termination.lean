-- Matching ends. It comes to a name before it has read anything only from names of a higher rank,
-- so it does not go round in circles without reading. A name inside of itself is refused, and a
-- repetition that reads nothing stops by itself, so neither of them needs a rank.
import Mathlib.Algebra.Order.BigOperators.Group.List
import Mathlib.Logic.Relation
import Peg.Proofs.Growth
import Peg.Proofs.Semantics

namespace Peg

variable {σ : Type}

/-! ## What may match nothing -/

/-- The rule may match without reading anything, as far as its form tells. -/
inductive Arena.MayBeEmpty (g : Arena σ) : RuleId → Prop where
  | literal {id : RuleId} : g.rule? id = some (.literal "") → g.MayBeEmpty id
  | pattern {id : RuleId} {source : String} {finder : Option Regex.Finder} :
    g.rule? id = some (.pattern source finder) → g.MayBeEmpty id
  | not {id a : RuleId} : g.rule? id = some (.not a) → g.MayBeEmpty id
  | optional {id a : RuleId} : g.rule? id = some (.optional a) → g.MayBeEmpty id
  | zeroOrMore {id a : RuleId} : g.rule? id = some (.zeroOrMore a) → g.MayBeEmpty id
  | reference {id : RuleId} {name : String} :
    g.rule? id = some (.reference name) → g.MayBeEmpty id
  | endOfInput {id a : RuleId} :
    g.rule? id = some (.endOfInput a) → g.MayBeEmpty a → g.MayBeEmpty id
  | oneOrMore {id a : RuleId} :
    g.rule? id = some (.oneOrMore a) → g.MayBeEmpty a → g.MayBeEmpty id
  | action {id a : RuleId} {run : Action σ} :
    g.rule? id = some (.action a run) → g.MayBeEmpty a → g.MayBeEmpty id
  | sequence {id a b : RuleId} :
    g.rule? id = some (.sequence a b) → g.MayBeEmpty a → g.MayBeEmpty b → g.MayBeEmpty id
  /-- The white space between the parts may always be empty. -/
  | spaced {id a b : RuleId} :
    g.rule? id = some (.spaced a b) → g.MayBeEmpty a → g.MayBeEmpty b → g.MayBeEmpty id
  | choiceFirst {id a b : RuleId} :
    g.rule? id = some (.choice a b) → g.MayBeEmpty a → g.MayBeEmpty id
  | choiceSecond {id a b : RuleId} :
    g.rule? id = some (.choice a b) → g.MayBeEmpty b → g.MayBeEmpty id

section

variable {g : Arena σ} {active : Option String} {id : RuleId} {x y : List Char}

/-- What is derived never goes back behind where it began. -/
theorem Derives.suffix {goal : Goal} {r : Option (List Char)} (h : Derives g goal x r) :
    ∀ y ∈ r, y <:+ x := by
  induction h with
  | literal _ =>
    rintro y ⟨⟩
    exact List.suffix_append _ _
  | range _ _ _ =>
    rintro y ⟨⟩
    exact List.suffix_cons _ _
  | pattern _ _ =>
    rintro y ⟨⟩
    exact List.suffix_append _ _
  | not _ _ _ | optionalAbsent _ _ _ | manyStop _ _ | manyIdle _ _ =>
    rintro y ⟨⟩
    exact List.suffix_rfl
  | endOfInput _ _ _ =>
    rintro y ⟨⟩
    exact List.nil_suffix
  | sequence _ _ _ ih ih' | oneOrMore _ _ _ ih ih' =>
    exact fun z hz => (ih' z hz).trans (ih _ rfl)
  | manyStep _ _ _ ih ih' => exact fun z hz => (ih' z hz).trans (ih _ rfl)
  | spaced _ _ _ _ ih ihspace ih' =>
    exact fun z hz => ((ih' z hz).trans (ihspace _ rfl)).trans (ih _ rfl)
  | choiceFirst _ _ ih | optional _ _ ih | zeroOrMore _ _ ih | action _ _ ih => exact ih
  | choiceSecond _ _ _ _ ih => exact ih
  | reference _ _ _ _ ih => exact ih
  | _ =>
    rintro y ⟨⟩

/-- What matches without reading anything has the form of what may. -/
theorem Derives.mayBeEmpty {goal : Goal} {r : Option (List Char)} (h : Derives g goal x r)
    (hgoal : goal = .once active id) (hr : r = some x) : g.MayBeEmpty id := by
  induction h generalizing id with
  | @literal _ _ text y hrule =>
    cases hgoal
    have hempty : text.toList = [] := List.append_left_eq_self.1 (Option.some.inj hr).symm
    obtain rfl : text = "" := by simpa using hempty
    exact .literal hrule
  | range hrule hlo hhi =>
    exact absurd (congrArg List.length (Option.some.inj hr)) (by simp)
  | pattern hrule _ =>
    cases hgoal
    exact .pattern hrule
  | not hrule _ _ =>
    cases hgoal
    exact .not hrule
  | endOfInput hrule _ ih =>
    cases hgoal
    exact .endOfInput hrule (ih rfl hr)
  | sequence hrule h h' ih ih' =>
    cases hgoal
    subst hr
    -- neither part goes back, so neither has read anything
    obtain rfl := antisymm (h.suffix _ rfl) (h'.suffix _ rfl)
    exact .sequence hrule (ih rfl rfl) (ih' rfl rfl)
  | spaced hrule h hspace h' ih _ ih' =>
    cases hgoal
    subst hr
    have hy := h.suffix _ rfl
    have hz := hspace.suffix _ rfl
    have hx := h'.suffix _ rfl
    obtain rfl := antisymm hy (hx.trans hz)
    obtain rfl := antisymm hz hx
    exact .spaced hrule (ih rfl rfl) (ih' rfl rfl)
  | choiceFirst hrule _ ih =>
    cases hgoal
    exact .choiceFirst hrule (ih rfl hr)
  | choiceSecond hrule _ _ _ ih' =>
    cases hgoal
    exact .choiceSecond hrule (ih' rfl hr)
  | zeroOrMore hrule _ _ =>
    cases hgoal
    exact .zeroOrMore hrule
  | oneOrMore hrule h h' ih _ =>
    cases hgoal
    subst hr
    obtain rfl := antisymm (h.suffix _ rfl) (h'.suffix _ rfl)
    exact .oneOrMore hrule (ih rfl rfl)
  | optional hrule _ _ | optionalAbsent hrule _ _ =>
    cases hgoal
    exact .optional hrule
  | reference hrule _ _ _ _ =>
    cases hgoal
    exact .reference hrule
  | action hrule _ ih =>
    cases hgoal
    exact .action hrule (ih rfl hr)
  | manyStop | manyIdle | manyStep => cases hgoal
  | _ => cases hr

end

/-! ## What comes before anything is read -/

/-- The parts of a rule that may be tried where the rule itself is. -/
inductive Arena.Early (g : Arena σ) : Rule σ → RuleId → Prop where
  | only {r : Rule σ} {a : RuleId} : r.children = [a] → g.Early r a
  | first {r : Rule σ} {a b : RuleId} : r.children = [a, b] → g.Early r a
  | alternative {a b : RuleId} : g.Early (.choice a b) b
  | sequence {a b : RuleId} : g.MayBeEmpty a → g.Early (.sequence a b) b
  | spaced {a b : RuleId} : g.MayBeEmpty a → g.Early (.spaced a b) b

theorem Arena.Early.child {g : Arena σ} {r : Rule σ} {a : RuleId} (h : g.Early r a) :
    a ∈ r.children := by
  cases h with
  | only hr | first hr =>
    rw [hr]
    exact List.mem_cons_self
  | alternative | sequence _ | spaced _ => simp [Rule.children]

/-- Before it has read anything, a rule may come to a reference to the name. -/
inductive Arena.Opens (g : Arena σ) (name : String) : RuleId → Prop where
  | reference {id : RuleId} : g.rule? id = some (.reference name) → g.Opens name id
  | part {id a : RuleId} {r : Rule σ} :
    g.rule? id = some r → g.Early r a → g.Opens name a → g.Opens name id

/-- Names have ranks, and a rule that stands for a name comes only to names of lower ranks before it
has read anything. The name itself does not count, and neither do names that stand for nothing. -/
def Arena.Ranked (g : Arena σ) : Prop :=
  ∃ rank : String → Nat, ∀ name id, g.named? name = some id → ∀ other, g.Opens other id →
    (g.named? other).isSome → other ≠ name → rank other < rank name

/-- One rule refers to another one, other than by name. -/
def Arena.Refers (g : Arena σ) (a b : RuleId) : Prop := ∃ r, g.rule? a = some r ∧ b ∈ r.children

/-- The white space comes to no name and to no other white space. -/
def Arena.PlainSpace (g : Arena σ) : Prop :=
  ∀ id, Relation.ReflTransGen g.Refers g.whitespace id → ∀ r, g.rule? id = some r →
    (∀ a b, r ≠ .spaced a b) ∧ ∀ name, r ≠ .reference name

/-! ## Plans that come to an ending -/

/-- The plan comes to an ending. -/
def Plan.Halts (g : Arena σ) (p : Plan) : Prop := ∃ c e, Runs g p c e

section

variable {g : Arena σ} {p : Plan} {a b id : RuleId} {t : Attempt} {active : Option String}
  {x y : List Char} {next : Bool → List Char → Plan}

theorem Plan.Halts.finish {e : Ending} : (Plan.finish e).Halts g := ⟨_, _, .finish e⟩

theorem Plan.Halts.attempt (h : (g.plan t).Halts g)
    (hnext : ∀ c matched y, Runs g (g.plan t) c ⟨.ok matched, y⟩ → (next matched y).Halts g) :
    (Plan.attempt t next).Halts g := by
  obtain ⟨c, e, hrun⟩ := h
  obtain ⟨c', e', hrun'⟩ : (e.follow next).Halts g := by
    obtain ⟨answer, y⟩ := e
    cases answer with
    | ok matched => exact hnext c matched y hrun
    | error stop => exact .finish
  exact ⟨_, _, .attempt hrun hrun'⟩

/-- A plan comes to an ending if all attempts do that it may ever make. -/
theorem Plan.Obeys.halts {allowed : Attempt → Prop} {fits : Ending → Prop}
    (h : p.Obeys allowed fits) (hall : ∀ t, allowed t → (g.plan t).Halts g) : p.Halts g := by
  induction p with
  | finish e => exact .finish
  | attempt t next ih =>
    obtain ⟨ht, hnext⟩ := h
    refine (hall t ht).attempt fun c matched y hrun => ?_
    exact ih matched y (hnext matched y hrun.rest_suffix)

theorem repeating_halts {x : List Char} {done : Nat → List Char → Plan} {count : Nat}
    (h : ∀ y, y <:+ x → (g.plan ⟨a, active, y⟩).Halts g)
    (hdone : ∀ count y, (done count y).Halts g) :
    (Plan.repeating ⟨a, active, x⟩ done count).Halts g := by
  rw [Plan.repeating]
  refine (h x List.suffix_rfl).attempt fun c matched y hrun => ?_
  cases matched with
  | false => exact hdone count x
  | true =>
    rw [if_pos rfl]
    split
    · have hyx : y <:+ x := hrun.rest_suffix
      exact repeating_halts (fun z hz => h z (hz.trans hyx)) hdone
    · exact hdone (count + 1) y
termination_by x.length

/-- Behind a part that matches, the text has become less, or the part may be empty. -/
theorem Runs.shorter_or_mayBeEmpty {c : Course}
    (h : Runs g (g.plan ⟨a, active, x⟩) c ⟨.ok true, y⟩) :
    y.length < x.length ∨ y = x ∧ g.MayBeEmpty a := by
  have hy : y <:+ x := h.rest_suffix
  rcases Nat.lt_or_ge y.length x.length with hlt | hge
  · exact .inl hlt
  · obtain rfl := hy.eq_of_length (Nat.le_antisymm hy.length_le hge)
    exact .inr ⟨rfl, (h.derived true rfl).mayBeEmpty rfl rfl⟩

/-- A rule comes to an ending if its parts do: all of them further on, and where the rule itself is
tried those that may be tried there. -/
theorem rule_halts {r : Rule σ} (hr : g.rule? id = some r)
    (hshorter : ∀ b y, y.length < x.length → (g.plan ⟨b, active, y⟩).Halts g)
    (hearly : ∀ b, g.Early r b → (g.plan ⟨b, active, x⟩).Halts g)
    (hspace : ∀ y, (g.plan ⟨g.whitespace, active, y⟩).Halts g)
    (hname : ∀ name b, r = .reference name → active ≠ some name → g.named? name = some b →
      (g.plan ⟨b, some name, x⟩).Halts g) :
    (g.plan ⟨id, active, x⟩).Halts g := by
  have hpart : ∀ b, g.Early r b → ∀ y, y <:+ x → (g.plan ⟨b, active, y⟩).Halts g := by
    intro b hb y hy
    rcases Nat.lt_or_ge y.length x.length with hlt | hge
    · exact hshorter b y hlt
    · obtain rfl := hy.eq_of_length (Nat.le_antisymm hy.length_le hge)
      exact hearly b hb
  have honly : ∀ b, r.children = [b] → ∀ {ending : Bool → List Char → Ending},
      (Plan.attempt ⟨b, active, x⟩ fun matched y => .finish (ending matched y)).Halts g :=
    fun b hb _ => (hearly b (.only hb)).attempt fun _ _ _ _ => .finish
  rw [plan_of_rule (a := ⟨id, active, x⟩) hr]
  cases r with
  | literal text => exact .finish
  | range lo hi => exact .finish
  | pattern source finder => exact .finish
  | not a => exact honly a rfl
  | endOfInput a => exact honly a rfl
  | optional a => exact honly a rfl
  | action a run => exact honly a rfl
  | zeroOrMore a => exact repeating_halts (hpart a (.only rfl)) fun _ _ => .finish
  | oneOrMore a => exact repeating_halts (hpart a (.only rfl)) fun _ _ => .finish
  | sequence a b =>
    refine (hearly a (.first rfl)).attempt fun c matched y hrun => ?_
    cases matched with
    | false => exact .finish
    | true =>
      have hb : (g.plan ⟨b, active, y⟩).Halts g := by
        rcases hrun.shorter_or_mayBeEmpty with hlt | ⟨rfl, hempty⟩
        · exact hshorter b y hlt
        · exact hearly b (.sequence hempty)
      exact hb.attempt fun _ _ _ _ => .finish
  | spaced a b =>
    refine (hearly a (.first rfl)).attempt fun c matched y hrun => ?_
    cases matched with
    | false => exact .finish
    | true =>
      refine (hspace y).attempt fun c' matched z hrun' => ?_
      cases matched with
      | false => exact .finish
      | true =>
        have hz : z <:+ y := hrun'.rest_suffix
        have hb : (g.plan ⟨b, active, z⟩).Halts g := by
          rcases hrun.shorter_or_mayBeEmpty with hlt | ⟨rfl, hempty⟩
          · exact hshorter b z (Nat.lt_of_le_of_lt hz.length_le hlt)
          · exact hpart b (.spaced hempty) z hz
        exact hb.attempt fun _ _ _ _ => .finish
  | choice a b =>
    refine (hearly a (.first rfl)).attempt fun c matched y hrun => ?_
    cases matched with
    | true => exact .finish
    | false => exact (hearly b .alternative).attempt fun _ _ _ _ => .finish
  | reference name =>
    simp only [Plan.ofRule]
    split
    · exact .finish
    · next hactive =>
      split
      · exact .finish
      · next b hb => exact (hname name b rfl hactive hb).attempt fun _ _ _ _ => .finish

theorem missing_halts (hr : g.rule? t.rule = none) : (g.plan t).Halts g := by
  rw [plan_of_missing hr]
  exact .finish

/-! ## Why matching ends -/

/-- Plain white space only ever goes down to rules before it. -/
theorem space_halts (hg : g.Ordered) (hspace : g.PlainSpace) (x : List Char) :
    (g.plan ⟨g.whitespace, active, x⟩).Halts g := by
  suffices h : ∀ id, Relation.ReflTransGen g.Refers g.whitespace id → ∀ x,
      (g.plan ⟨id, active, x⟩).Halts g from h _ .refl x
  rintro ⟨index⟩
  induction index using Nat.strongRecOn with
  | ind index ih =>
    intro hid x
    cases hr : g.rule? ⟨index⟩ with
    | none => exact missing_halts hr
    | some r =>
      obtain ⟨hnotSpaced, hnotName⟩ := hspace _ hid r hr
      refine (plan_obeys (a := ⟨⟨index⟩, active, x⟩) hr).halts ?_
      intro t ht
      cases ht with
      | @child _ b y hb _ => exact ih b.index (hg.child hr hb) (hid.tail ⟨r, hr, hb⟩) y
      | space _ => exact absurd rfl (hnotSpaced _ _)
      | name _ _ => exact absurd rfl (hnotName _)

/-- There are finitely many names, so one rank is above all of theirs. -/
theorem exists_rank_above (g : Arena σ) (rank : String → Nat) :
    ∃ top, ∀ name, (g.named? name).isSome → rank name < top := by
  refine ⟨(g.names.map fun n => rank n.1).sum + 1, ?_⟩
  intro name hname
  obtain ⟨n, hn, hkey⟩ := List.lookup_isSome_iff.1 hname
  obtain rfl : n.1 = name := (beq_iff_eq.1 hkey).symm
  have hmem : rank n.1 ∈ g.names.map fun n => rank n.1 := List.mem_map.2 ⟨n, hn, rfl⟩
  exact Nat.lt_succ_of_le (List.le_sum_of_mem hmem)

/-- Where a rule comes to names of ranks below a bound only, matching it ends. What is left of the
text, then the bound, then the index of the rule get less in every attempt inside. -/
theorem plan_halts (hg : g.Ordered) (hspace : g.PlainSpace) {rank : String → Nat}
    (hrank : ∀ name id, g.named? name = some id → ∀ other, g.Opens other id →
      (g.named? other).isSome → other ≠ name → rank other < rank name)
    (x : List Char) (bound : Nat) (id : RuleId) (active : Option String)
    (hbound : ∀ name, g.Opens name id → (g.named? name).isSome → active ≠ some name →
      rank name < bound) :
    (g.plan ⟨id, active, x⟩).Halts g := by
  obtain ⟨top, htop⟩ := exists_rank_above g rank
  cases hr : g.rule? id with
  | none => exact missing_halts hr
  | some r =>
    apply rule_halts hr
    · intro b y hy
      exact plan_halts hg hspace hrank y top b active fun name _ hname _ => htop name hname
    · intro b hb
      have hlt : b.index < id.index := hg.child hr hb.child
      exact plan_halts hg hspace hrank x bound b active fun name hopens =>
        hbound name (.part hr hb hopens)
    · exact fun y => space_halts hg hspace y
    · intro name b hname hactive hb
      subst hname
      -- what the name comes to next has a lower rank, or is the name itself and refused
      have hlt : rank name < bound := hbound name (.reference hr) (by rw [hb]; rfl) hactive
      exact plan_halts hg hspace hrank x (rank name) b (some name) fun other hopens hother hne =>
        hrank name b hb other hopens hother fun heq => hne (by rw [heq])
termination_by (x.length, bound, id.index)

/-- In an arena that is built from a new one, with white space that is plain and names that have
ranks, every match ends: from any state the attempts come to an ending, and the match with them. -/
theorem matching_ends (hg : g.Built) (hspace : g.PlainSpace) (hrank : g.Ranked) (id : RuleId)
    (s : MatchState) :
    (∃ inside e, Runs g (g.plan (s.attempt id)) inside e) ∧ ¬ Exhausted (Match.eval g id s) := by
  obtain ⟨rank, hrank⟩ := hrank
  obtain ⟨top, htop⟩ := exists_rank_above g rank
  obtain ⟨inside, e, hrun⟩ : (g.plan (s.attempt id)).Halts g :=
    plan_halts hg.ordered hspace hrank s.cursor.rest top id s.active fun name _ hname _ =>
      htop name hname
  exact ⟨⟨inside, e, hrun⟩, hrun.eval_ends.not_exhausted⟩

end

/-! ## Ranks for given rules -/

section

variable {g : Arena σ} {a b id : RuleId} {name other text : String}

theorem Arena.MayBeEmpty.not_literal (h : g.MayBeEmpty id) (hr : g.rule? id = some (.literal text))
    (hne : text ≠ "") : False := by
  cases h with
  | literal hr' =>
    rw [hr] at hr'
    cases hr'
    exact hne rfl
  | _ => simp_all

theorem Arena.MayBeEmpty.of_sequence (h : g.MayBeEmpty id)
    (hr : g.rule? id = some (.sequence a b)) : g.MayBeEmpty a ∧ g.MayBeEmpty b := by
  cases h with
  | sequence hr' ha hb =>
    rw [hr] at hr'
    cases hr'
    exact ⟨ha, hb⟩
  | _ => simp_all

theorem Arena.Opens.inv {r : Rule σ} (h : g.Opens name id) (hr : g.rule? id = some r) :
    r = .reference name ∨ ∃ a, g.Early r a ∧ g.Opens name a := by
  cases h with
  | reference hr' =>
    rw [hr] at hr'
    exact .inl (Option.some.inj hr')
  | part hr' ha h =>
    rw [hr] at hr'
    cases hr'
    exact .inr ⟨_, ha, h⟩

theorem Arena.Opens.not_literal (h : g.Opens name id) (hr : g.rule? id = some (.literal text)) :
    False := by
  rcases h.inv hr with h | ⟨c, hc, -⟩
  · cases h
  · cases hc.child

theorem Arena.Opens.of_reference (h : g.Opens name id)
    (hr : g.rule? id = some (.reference other)) : name = other := by
  rcases h.inv hr with h | ⟨c, hc, -⟩
  · cases h
    rfl
  · cases hc.child

theorem Arena.Opens.of_sequence (h : g.Opens name id) (hr : g.rule? id = some (.sequence a b)) :
    g.Opens name a ∨ g.MayBeEmpty a ∧ g.Opens name b := by
  rcases h.inv hr with h | ⟨c, hc, hopens⟩
  · cases h
  · cases hc with
    | only h => cases h
    | first h =>
      cases h
      exact .inl hopens
    | sequence hempty => exact .inr ⟨hempty, hopens⟩

theorem Arena.Opens.of_choice (h : g.Opens name id) (hr : g.rule? id = some (.choice a b)) :
    g.Opens name a ∨ g.Opens name b := by
  rcases h.inv hr with h | ⟨c, hc, hopens⟩
  · cases h
  · cases hc with
    | only h => cases h
    | first h =>
      cases h
      exact .inl hopens
    | alternative => exact .inr hopens

/-- The default white space is plain. -/
theorem Arena.HasDefaultSpace.plainSpace (hg : g.HasDefaultSpace) (hspace : g.whitespace = ⟨9⟩) :
    g.PlainSpace := by
  have hrule : ∀ k r, k < 10 → g.rule? ⟨k⟩ = some r →
      (∀ b ∈ r.children, b.index < 10) ∧ (∀ a b, r ≠ .spaced a b) ∧
        ∀ name, r ≠ .reference name := by
    intro k r hk hr
    rw [hg k hk] at hr
    interval_cases k <;> cases hr <;> simp [Rule.children]
  intro id hid
  have hlt : id.index < 10 := by
    induction hid with
    | refl =>
      rw [hspace]
      decide
    | @tail a b _ hb ih =>
      obtain ⟨r, hr, hb⟩ := hb
      exact (hrule a.index r ih hr).1 b hb
  exact fun r hr => (hrule id.index r hlt hr).2

end

/-! ## Sums in brackets -/

/-- The rules of sums, `sum "+" item | item`, and of items, `"(" sum ")" | "x"`. A sum comes to an
item before anything is read, and to itself. -/
def Build.sums : Build Unit Unit := do
  let sum ← reference "sum"
  let item ← reference "item"
  let more ← sequence sum "+"
  let added ← sequence more item
  let either ← choice added item
  let _ ← register "sum" either
  let opened ← sequence "(" sum
  let bracketed ← sequence opened ")"
  let either ← choice bracketed "x"
  let _ ← register "item" either

def sums : Arena Unit := (Build.sums.run .fresh).2

theorem built_sums : sums.Built :=
  have sum := Arena.Built.fresh.call (.reference "sum")
  have item := sum.call (.reference "item")
  have more := item.call (.sequence (a := .rule ⟨10⟩) (b := .text "+") (by decide) trivial)
  have added := more.call (.sequence (a := .rule ⟨13⟩) (b := .rule ⟨11⟩) (by decide) (by decide))
  have either := added.call (.choice (a := .rule ⟨14⟩) (b := .rule ⟨11⟩) (by decide) (by decide))
  have named := either.register "sum" (by decide : (⟨15⟩ : RuleId).index < _)
  have opened := named.call (.sequence (a := .text "(") (b := .rule ⟨10⟩) (by decide) (by decide))
  have closed := opened.call (.sequence (a := .rule ⟨17⟩) (b := .text ")") (by decide) (by decide))
  have either := closed.call (.choice (a := .rule ⟨19⟩) (b := .text "x") (by decide) (by decide))
  either.register "item" (by decide : (⟨21⟩ : RuleId).index < _)

theorem plainSpace_sums : sums.PlainSpace :=
  built_sums.grown.hasDefaultSpace.plainSpace rfl

section

variable {name : String}

/-- An item begins with a bracket or an `x`. -/
theorem not_opens_item : ¬ sums.Opens name ⟨21⟩ := by
  have hliteral : ∀ id text, sums.rule? id = some (.literal text) → ¬ sums.Opens name id :=
    fun id text hr h => h.not_literal hr
  have hopened : ¬ sums.Opens name ⟨17⟩ := fun h => by
    rcases h.of_sequence (a := ⟨16⟩) (b := ⟨10⟩) rfl with h | ⟨hempty, -⟩
    · exact hliteral ⟨16⟩ "(" rfl h
    · exact hempty.not_literal rfl (by decide)
  have hempty : ¬ sums.MayBeEmpty ⟨17⟩ := fun h =>
    (h.of_sequence (a := ⟨16⟩) (b := ⟨10⟩) rfl).1.not_literal rfl (by decide)
  intro h
  rcases h.of_choice (a := ⟨19⟩) (b := ⟨20⟩) rfl with h | h
  · rcases h.of_sequence (a := ⟨17⟩) (b := ⟨18⟩) rfl with h | ⟨h, -⟩
    · exact hopened h
    · exact hempty h
  · exact hliteral ⟨20⟩ "x" rfl h

/-- A sum begins with a sum or an item. -/
theorem opens_sum (h : sums.Opens name ⟨15⟩) : name = "sum" ∨ name = "item" := by
  rcases h.of_choice (a := ⟨14⟩) (b := ⟨11⟩) rfl with h | h
  · rcases h.of_sequence (a := ⟨13⟩) (b := ⟨11⟩) rfl with h | ⟨-, h⟩
    · rcases h.of_sequence (a := ⟨10⟩) (b := ⟨12⟩) rfl with h | ⟨-, h⟩
      · exact .inl (h.of_reference rfl)
      · exact (h.not_literal rfl).elim
    · exact .inr (h.of_reference rfl)
  · exact .inr (h.of_reference rfl)

end

theorem ranked_sums : sums.Ranked := by
  refine ⟨fun name => if name = "sum" then 1 else 0, ?_⟩
  intro name id hid other hopens _ hne
  have hname : sums.named? name = [("item", ⟨21⟩), ("sum", ⟨15⟩)].lookup name := rfl
  rw [hname, List.lookup_cons, List.lookup_cons] at hid
  split at hid
  · cases hid
    exact absurd hopens not_opens_item
  · split at hid
    · next hsum =>
      cases hid
      obtain rfl : name = "sum" := beq_iff_eq.1 hsum
      rcases opens_sum hopens with rfl | rfl
      · exact absurd rfl hne
      · decide
    · cases hid

theorem a_sum_behind_an_open_bracket_ends :
    (∃ inside e, Runs sums
      (sums.plan ((MatchState.ofText ['(', 'x', '+', '('] false).attempt ⟨15⟩)) inside e) ∧
      ¬ Exhausted (Match.eval sums ⟨15⟩ (.ofText ['(', 'x', '+', '('] false)) :=
  matching_ends built_sums plainSpace_sums ranked_sums ⟨15⟩ _

end Peg
