-- Lists of rules, combined two by two. However the pairs are bracketed, a match goes through the
-- rules of the list one after another, and comes to the same end with the same captures.
import Peg.Proofs.Agreement

namespace Peg

open Text

variable {σ : Type}

/-! ## Plans for lists -/

/-- Tries the rules one after another, until one of them fails. -/
def Plan.inOrder (active : Option String) (next : Bool → List Char → Plan) :
    List RuleId → List Char → Plan
  | [], x => next true x
  | id :: more, x => attempt ⟨id, active, x⟩ fun matched y =>
    if matched then inOrder active next more y else next false y

/-- Tries the rules at one place, until one of them matches. -/
def Plan.firstOf (active : Option String) (x : List Char) (next : Bool → List Char → Plan) :
    List RuleId → Plan
  | [] => next false x
  | id :: more => attempt ⟨id, active, x⟩ fun matched y =>
    if matched then next true y else firstOf active x next more

section

variable {active : Option String} {x : List Char} {next next' : Bool → List Char → Plan}

theorem Plan.inOrder_append (ids ids' : List RuleId) (x : List Char) :
    inOrder active next (ids ++ ids') x =
      inOrder active (fun matched y => if matched then inOrder active next ids' y
        else next false y) ids x := by
  induction ids generalizing x with
  | nil => rfl
  | cons id ids ih =>
    rw [List.cons_append, inOrder, inOrder]
    congr 1
    funext matched y
    cases matched with
    | false => rfl
    | true => exact ih y

theorem Plan.firstOf_append (ids ids' : List RuleId) :
    firstOf active x next (ids ++ ids') =
      firstOf active x (fun matched y => if matched then next true y
        else firstOf active x next ids') ids := by
  induction ids with
  | nil => rfl
  | cons id ids ih =>
    rw [List.cons_append, firstOf, firstOf]
    congr 1
    funext matched y
    cases matched with
    | false => exact ih
    | true => rfl

/-- It does not matter what would follow a failure at another place. -/
theorem Plan.firstOf_congr (htrue : ∀ y, next true y = next' true y)
    (hfalse : next false x = next' false x) (ids : List RuleId) :
    firstOf active x next ids = firstOf active x next' ids := by
  induction ids with
  | nil => exact hfalse
  | cons id ids ih =>
    rw [firstOf, firstOf]
    congr 1
    funext matched y
    cases matched with
    | false => exact ih
    | true => exact htrue y

end

/-! ## Bracketings -/

/-- The three ways to combine two rules. -/
inductive Combination where
  | sequence
  | spaced
  | choice
deriving DecidableEq, Repr

namespace Combination

def rule : Combination → RuleId → RuleId → Rule σ
  | sequence => .sequence
  | spaced => .spaced
  | choice => .choice

/-- Combines a whole list. -/
def ofAll : Combination → List RuleId → ExceptT Fault (Build σ) RuleId
  | sequence => Build.sequenceOf
  | spaced => Build.spacedOf
  | choice => Build.choiceOf

theorem ofAll_eq (c : Combination) (ids : List RuleId) :
    (c.ofAll ids : ExceptT Fault (Build σ) RuleId) = Build.chainAll c.rule ids := by
  cases c <;> rfl

end Combination

/-- The rule combines the rules of the list two by two, in some bracketing. -/
inductive Arena.Brackets (g : Arena σ) (c : Combination) : List RuleId → RuleId → Prop where
  | one {id : RuleId} : Brackets g c [id] id
  | pair {ids ids' : List RuleId} {a b id : RuleId} :
    g.rule? id = some (c.rule a b) → Brackets g c ids a → Brackets g c ids' b →
      Brackets g c (ids ++ ids') id

section

variable {g h : Arena σ} {c : Combination} {ids ids' : List RuleId} {id a b first : RuleId}
variable {active : Option String} {x : List Char} {next : Bool → List Char → Plan}

theorem Arena.Brackets.mono (hgh : g.Extends h) (hid : g.Brackets c ids id) :
    h.Brackets c ids id := by
  induction hid with
  | one => exact .one
  | pair hr _ _ ih ih' => exact .pair (hgh.rule hr) ih ih'

/-- Combining two bracketings gives one of both lists. -/
theorem Arena.Brackets.push (ha : g.Brackets c ids a) (hb : g.Brackets c ids' b) :
    ((Build.push (c.rule a b)).run g).2.Brackets c (ids ++ ids')
      ((Build.push (c.rule a b)).run g).1 :=
  .pair rule?_of_push (ha.mono (.push g _)) (hb.mono (.push g _))

theorem brackets_chain (c : Combination) (first : RuleId) (more : List RuleId) (g : Arena σ) :
    ((Build.chain c.rule first more).run g).2.Brackets c (first :: more)
      ((Build.chain c.rule first more).run g).1 := by
  induction more generalizing first with
  | nil => exact .one
  | cons second more ih =>
    rw [Build.chain, Build.run_bind]
    exact Arena.Brackets.push .one (ih second)

/-- Combining a whole list is one of the bracketings. -/
theorem brackets_ofAll {whole : RuleId} (hall : (c.ofAll ids).run.run g = (.ok whole, h)) :
    h.Brackets c ids whole := by
  rw [c.ofAll_eq] at hall
  cases ids with
  | nil => cases hall
  | cons first more =>
    have hchain := brackets_chain c first more g
    have hrun : (Build.chainAll c.rule (first :: more)).run.run g =
        (.ok ((Build.chain c.rule first more).run g).1,
          ((Build.chain c.rule first more).run g).2) := rfl
    rw [hrun] at hall
    cases hall
    exact hchain

theorem Arena.Brackets.ne_nil (hid : g.Brackets c ids id) : ids ≠ [] := by
  induction hid with
  | one => simp
  | pair _ _ _ ih _ => simp [ih]

/-- A single rule is not combined with anything. -/
theorem Arena.Brackets.eq_of_single (hid : g.Brackets c [first] id) : id = first := by
  generalize hids : [first] = ids at hid
  cases hid with
  | one => exact (List.singleton_inj.1 hids).symm
  | pair _ ha hb =>
    rcases List.append_eq_singleton_iff.1 hids.symm with ⟨hnil, -⟩ | ⟨-, hnil⟩
    · exact absurd hnil ha.ne_nil
    · exact absurd hnil hb.ne_nil

/-! ## Going through a bracketing -/

theorem same_single (id : RuleId) :
    (Plan.attempt ⟨id, active, x⟩ next).Same g (.inOrder active next [id] x) := by
  refine .attempt fun matched y => ?_
  cases matched <;> exact .refl _

/-- A bracketing of sequences goes through its list. -/
theorem Arena.Brackets.same_inOrder (hid : g.Brackets .sequence ids id) :
    (Plan.attempt ⟨id, active, x⟩ next).Same g (.inOrder active next ids x) := by
  induction hid generalizing x next with
  | one => exact same_single _
  | @pair ids ids' a b id hr _ _ iha ihb =>
    rw [Plan.inOrder_append]
    refine (same_ofRule hr (by simp [Combination.rule])).trans (Plan.Same.trans ?_ iha)
    refine .attempt fun matched y => ?_
    cases matched with
    | false => exact .refl _
    | true => exact ihb

theorem intersperse_append {β : Type} (sep : β) {l m : List β} (hl : l ≠ []) (hm : m ≠ []) :
    (l ++ m).intersperse sep = l.intersperse sep ++ sep :: m.intersperse sep := by
  induction l with
  | nil => exact absurd rfl hl
  | cons a l ih =>
    cases l with
    | nil =>
      cases m with
      | nil => exact absurd rfl hm
      | cons b m => rfl
    | cons a' l =>
      show a :: sep :: ((a' :: l) ++ m).intersperse sep = _
      rw [ih (by simp)]
      rfl

/-- A bracketing of sequences with white space goes through its list, with white space between
any two of the rules. -/
theorem Arena.Brackets.same_spaced (hid : g.Brackets .spaced ids id) :
    (Plan.attempt ⟨id, active, x⟩ next).Same g
      (.inOrder active next (ids.intersperse g.whitespace) x) := by
  induction hid generalizing x next with
  | one => exact same_single _
  | @pair ids ids' a b id hr ha hb iha ihb =>
    rw [intersperse_append _ ha.ne_nil hb.ne_nil, Plan.inOrder_append]
    refine (same_ofRule hr (by simp [Combination.rule])).trans (Plan.Same.trans ?_ iha)
    refine .attempt fun matched y => ?_
    cases matched with
    | false => exact .refl _
    | true =>
      refine .attempt fun matched z => ?_
      cases matched with
      | false => exact .refl _
      | true => exact ihb

/-- A bracketing of choices goes through the alternatives. A single one may fail at another place
than it is tried at, which has to be all the same then. -/
theorem Arena.Brackets.same_firstOf (hid : g.Brackets .choice ids id)
    (hnext : 2 ≤ ids.length ∨ ∀ y, next false y = next false x) :
    (Plan.attempt ⟨id, active, x⟩ next).Same g (.firstOf active x next ids) := by
  induction hid generalizing next with
  | one =>
    have hback := hnext.resolve_left (by simp)
    refine .attempt fun matched y => ?_
    cases matched with
    | false =>
      rw [hback]
      exact .refl _
    | true => exact .refl _
  | @pair ids ids' a b id hr _ _ iha ihb =>
    rw [Plan.firstOf_append]
    refine (same_ofRule hr (by simp [Combination.rule])).trans
      (Plan.Same.trans ?_ (iha (.inr fun _ => rfl)))
    refine .attempt fun matched y => ?_
    cases matched with
    | true => exact .refl _
    | false =>
      have hsame : Plan.firstOf active x
          (fun matched y => (Ending.back x matched y).follow next) ids' =
          .firstOf active x next ids' := by
        refine Plan.firstOf_congr ?_ ?_ ids'
        · exact fun _ => rfl
        · rfl
      rw [← hsame]
      exact ihb (.inr fun _ => rfl)

end

/-! ## Matching a list -/

/-- Matches the rules one after another, until one of them fails. It stays where that one left. -/
def Match.inOrder (g : Arena σ) : List RuleId → Match Bool
  | [] => return true
  | id :: more => do
    if ← eval g id then inOrder g more else return false

/-- Matches the first rule that matches at the place of an earlier state, and goes back there if
there is none. -/
def Match.firstOf (g : Arena σ) (entry : MatchState) : List RuleId → Match Bool
  | [] => return false
  | id :: more => do
    if ← eval g id then return true
    backTo entry
    firstOf g entry more

/-- Matches the rules of a list as the way to combine them says. -/
def Match.list (g : Arena σ) : Combination → List RuleId → Match Bool
  | .sequence, ids => inOrder g ids
  | .spaced, ids => inOrder g (ids.intersperse g.whitespace)
  | .choice, [id] => eval g id
  | .choice, ids => do firstOf g (← get) ids

/-- The plan of matching a list, which ends as `next` says. -/
def Combination.plan (g : Arena σ) (active : Option String) (next : Bool → List Char → Plan)
    (x : List Char) : Combination → List RuleId → Plan
  | sequence, ids => .inOrder active next ids x
  | spaced, ids => .inOrder active next (ids.intersperse g.whitespace) x
  | choice, [id] => .attempt ⟨id, active, x⟩ next
  | choice, ids => .firstOf active x next ids

section

variable {g : Arena σ} {s : MatchState} {x : List Char} {id : RuleId}
variable {next : Bool → List Char → Plan}

theorem fulfils_inOrder (g : Arena σ) (ids : List RuleId) (s : MatchState) :
    Fulfils g s (.inOrder s.active Plan.answer ids s.cursor.rest) (Match.inOrder g ids s) := by
  induction ids generalizing s with
  | nil => exact .finish true
  | cons id ids ih =>
    refine .eval_bind fun matched t _ hactive => ?_
    rw [← hactive]
    cases matched with
    | false => exact .finish false
    | true => exact ih t

theorem fulfils_firstOf {entry : MatchState} (ids : List RuleId)
    (hinput : s.cursor.input = entry.cursor.input) (hrest : s.cursor.rest = entry.cursor.rest) :
    Fulfils g s (.firstOf s.active s.cursor.rest Plan.answer ids)
      (Match.firstOf g entry ids s) := by
  induction ids generalizing s with
  | nil => exact .finish false
  | cons id ids ih =>
    refine .eval_bind fun matched t hinput' hactive => ?_
    cases matched with
    | true => exact .finish true
    | false =>
      have hinput'' := hinput'.trans hinput
      have hentry : entry.cursor.rest <:+ t.cursor.input := by
        rw [hinput'']
        exact entry.cursor.rest_suffix
      have hback := ih (s := t.atRest entry.cursor.rest)
        ((MatchState.input_atRest hentry).trans hinput'') (MatchState.rest_atRest hentry)
      rw [MatchState.rest_atRest hentry, MatchState.active_atRest, hactive] at hback
      simp only [Bool.false_eq_true, if_false, Match.bind_apply, Match.backTo_apply hinput'', hrest]
      exact hback.of_atRest hentry

theorem fulfils_list (g : Arena σ) (c : Combination) (ids : List RuleId) (s : MatchState) :
    Fulfils g s (c.plan g s.active Plan.answer s.cursor.rest ids) (Match.list g c ids s) := by
  cases c with
  | sequence => exact fulfils_inOrder g ids s
  | spaced => exact fulfils_inOrder g _ s
  | choice =>
    obtain _ | ⟨id, _ | ⟨id', more⟩⟩ := ids
    · exact fulfils_firstOf [] rfl rfl
    · exact fulfils_eval g id s
    · exact fulfils_firstOf (id :: id' :: more) rfl rfl

theorem Arena.Brackets.same_list {c : Combination} {ids : List RuleId} {active : Option String}
    (hid : g.Brackets c ids id) :
    (Plan.attempt ⟨id, active, x⟩ next).Same g (c.plan g active next x ids) := by
  cases c with
  | sequence => exact hid.same_inOrder
  | spaced => exact hid.same_spaced
  | choice =>
    obtain _ | ⟨first, _ | ⟨second, more⟩⟩ := ids
    · exact absurd rfl hid.ne_nil
    · obtain rfl : id = first := hid.eq_of_single
      exact .refl _
    · exact hid.same_firstOf (.inl (by simp))

end

/-- Rules can be combined to one if there are any. However a list of them is bracketed, it matches
like the whole list, from every state: with the same answer or halt, at the same place, with the
same captures and active name, or both without an end. And this is what the list says: one rule
after another, with white space in between where that is asked for, up to the first that fails, or
else the first rule that matches. -/
theorem bracketings_match_like_the_list (c : Combination) (ids : List RuleId) (hids : ids ≠ []) :
    (∀ g : Arena σ, ∃ whole k, (c.ofAll ids).run.run g = (.ok whole, k)) ∧
      ∀ (g k h : Arena σ) (whole id : RuleId), (c.ofAll ids).run.run g = (.ok whole, k) →
        k.Extends h → h.Brackets c ids id → ∀ s : MatchState,
          Agree (Match.eval h id s) (Match.eval h whole s) ∧
            Agree (Match.eval h whole s) (Match.list h c ids s) := by
  constructor
  · intro g
    rw [c.ofAll_eq]
    cases ids with
    | nil => exact absurd rfl hids
    | cons first more => exact ⟨_, _, rfl⟩
  · intro g k h whole id hall hkh hid s
    have hwhole := (brackets_ofAll hall).mono hkh
    have hlist := fulfils_list h c ids s
    have hwhole' := (fulfils_eval h whole s).agree hwhole.same_list hlist
    have hboth : (Plan.attempt (s.attempt id) Plan.answer).Same h
        (.attempt (s.attempt whole) Plan.answer) := hid.same_list.trans hwhole.same_list.symm
    exact ⟨(fulfils_eval h id s).agree hboth (fulfils_eval h whole s), hwhole'⟩

/-- Three letters, with the first two in brackets. -/
def threeLetters : Arena Unit where
  rules := #[.literal "a", .literal "b", .literal "c", .sequence ⟨0⟩ ⟨1⟩, .sequence ⟨3⟩ ⟨2⟩]
  names := []
  whitespace := ⟨0⟩
  warnings := []

/-- The three letters, and also the list of them. -/
def threeLettersInAll : Arena Unit :=
  ((Combination.sequence.ofAll [⟨0⟩, ⟨1⟩, ⟨2⟩]).run.run threeLetters).2

/-- With other letters in brackets, the sequence fails at the same place: behind the first two. -/
theorem three_letters_break_off_alike :
    [(⟨0⟩ : RuleId), ⟨1⟩, ⟨2⟩] ≠ [] ∧ ∃ t u : MatchState,
      (Combination.sequence.ofAll [⟨0⟩, ⟨1⟩, ⟨2⟩]).run.run threeLetters =
        (.ok ⟨6⟩, threeLettersInAll) ∧
      threeLettersInAll.Brackets .sequence [⟨0⟩, ⟨1⟩, ⟨2⟩] ⟨4⟩ ∧
      Match.eval threeLettersInAll ⟨4⟩ (.ofText ['a', 'b', 'x'] false) = .ok false t ∧
      Match.eval threeLettersInAll ⟨6⟩ (.ofText ['a', 'b', 'x'] false) = .ok false u ∧
      t.position = 2 ∧ Agree (.ok false t) (.ok false u) := by
  have hpair : threeLettersInAll.Brackets .sequence ([⟨0⟩] ++ [⟨1⟩]) ⟨3⟩ := .pair rfl .one .one
  have hbrackets : threeLettersInAll.Brackets .sequence ([⟨0⟩, ⟨1⟩] ++ [⟨2⟩]) ⟨4⟩ :=
    .pair rfl hpair .one
  have hne : [(⟨0⟩ : RuleId), ⟨1⟩, ⟨2⟩] ≠ [] := by simp
  obtain ⟨-, hagree⟩ := bracketings_match_like_the_list (σ := Unit) .sequence [⟨0⟩, ⟨1⟩, ⟨2⟩] hne
  have hsame := (hagree threeLetters threeLettersInAll threeLettersInAll ⟨6⟩ ⟨4⟩ rfl (.refl _)
    hbrackets (.ofText ['a', 'b', 'x'] false)).1
  obtain ⟨t, ht, hposition⟩ : ∃ t, Match.eval threeLettersInAll ⟨4⟩
    (.ofText ['a', 'b', 'x'] false) = .ok false t ∧ t.position = 2 := ⟨_, rfl, rfl⟩
  obtain ⟨u, hu⟩ : ∃ u, Match.eval threeLettersInAll ⟨6⟩
    (.ofText ['a', 'b', 'x'] false) = .ok false u := ⟨_, rfl⟩
  rw [ht, hu] at hsame
  exact ⟨hne, t, u, rfl, hbrackets, ht, hu, hposition, hsame⟩

end Peg
