-- What the rules of arithmetic answer: numbers, groups, operations with their right operands, and
-- any number of these.
import Peg.Proofs.Arithmetic.Effects

namespace Peg.Arithmetic

open Text

section

variable {input x y z u : List Char} {active : Option String} {l m : List Capture}

/-! ## Numbers -/

theorem isDigit_iff (c : Char) : c.isDigit = true ↔ '0' ≤ c ∧ c ≤ '9' := by
  simp only [Char.isDigit, Bool.and_eq_true, decide_eq_true_eq, Char.le_def]

/-- The number ends in front of a text: no digit follows, nor a fraction if there is none yet. -/
structure Number.Ends (n : Number) (y : List Char) : Prop where
  digit : ¬ StartsWith Char.isDigit y
  point : n.fraction = none → ∀ z, y = '.' :: z → ¬ StartsWith Char.isDigit z

theorem digits_takeWhile (h : StartsWith Char.isDigit x) : Digits (x.takeWhile Char.isDigit) := by
  obtain ⟨c, hc, hdigit⟩ := h
  refine ⟨?_, fun c => List.mem_takeWhile_imp⟩
  obtain ⟨w, rfl⟩ := List.head?_eq_some_iff.1 hc
  rw [List.takeWhile_cons_of_pos hdigit]
  simp

/-- Where there is a digit there is a number. -/
theorem exists_number (h : StartsWith Char.isDigit x) :
    ∃ n y, x = Number.text n ++ y ∧ n.Ends y := by
  have hx : x = x.takeWhile Char.isDigit ++ x.dropWhile Char.isDigit :=
    List.takeWhile_append_dropWhile.symm
  by_cases hpoint : ∃ z, x.dropWhile Char.isDigit = '.' :: z ∧ StartsWith Char.isDigit z
  · obtain ⟨z, hz, hstart⟩ := hpoint
    have hwhole := digits_takeWhile h
    refine ⟨⟨x.takeWhile Char.isDigit, some (z.takeWhile Char.isDigit), hwhole, ?_⟩,
      z.dropWhile Char.isDigit, ?_, not_startsWith_dropWhile _ z, fun h => by cases h⟩
    · intro cs hcs
      cases hcs
      exact digits_takeWhile hstart
    · simp only [Number.text, List.append_assoc, List.cons_append, List.takeWhile_append_dropWhile]
      rw [← hz]
      exact hx
  · refine ⟨⟨x.takeWhile Char.isDigit, none, digits_takeWhile h, fun cs hcs => by cases hcs⟩,
      x.dropWhile Char.isDigit, hx, not_startsWith_dropWhile _ x, ?_⟩
    intro _ z hz hstart
    exact hpoint ⟨z, hz, hstart⟩

/-- Digits are read up to where no more of them come. -/
theorem Digits.answer {σ : Type} {g : Arena σ} {a id : RuleId} {cs : List Char} (h : Digits cs)
    (hdigit : g.rule? a = some (.range '0' '9')) (hdigits : g.rule? id = some (.oneOrMore a))
    (hy : ¬ StartsWith Char.isDigit y) : Answers g input ⟨id, active, cs ++ y⟩ true y [] := by
  obtain ⟨c, w, hw⟩ := List.exists_cons_of_ne_nil h.1
  have hstart : StartsWith Char.isDigit (cs ++ y) := by
    refine ⟨c, by rw [hw]; rfl, h.2 c ?_⟩
    rw [hw]
    exact List.mem_cons_self
  have heats : Eats g input active a Char.isDigit (StartsWith Char.isDigit) :=
    .range hdigit isDigit_iff
  have hall := heats.oneOrMore hdigits hstart
  rwa [dropWhile_digits h fun d hd hdigit => hy ⟨d, hd, hdigit⟩] at hall

theorem digits_fail {σ : Type} {g : Arena σ} {a id : RuleId}
    (hdigit : g.rule? a = some (.range '0' '9')) (hdigits : g.rule? id = some (.oneOrMore a))
    (hx : ¬ StartsWith Char.isDigit x) : Answers g input ⟨id, active, x⟩ false x [] :=
  Eats.oneOrMore_fails (.range hdigit isDigit_iff) hdigits hx

/-- The fraction of a number is read if there is one, and nothing else. -/
theorem fraction_answers {n : Number} (h : n.Ends y) :
    ∃ x, n.text ++ y = n.whole ++ x ∧ ¬ StartsWith Char.isDigit x ∧
      Answers arithmetic input ⟨⟨14⟩, active, x⟩ true y [] := by
  cases hf : n.fraction with
  | some cs =>
    have hpoint : Answers arithmetic input ⟨⟨12⟩, active, '.' :: (cs ++ y)⟩ true (cs ++ y) [] :=
      .literal rule?_point
    refine ⟨'.' :: (cs ++ y), by simp [Number.text, hf], ?_, ?_⟩
    · rintro ⟨c, hc, hdigit⟩
      cases hc
      exact absurd hdigit (by decide)
    · exact .optional rule?_anyFraction (.sequence rule?_fraction hpoint
        ((n.fraction_digits cs hf).answer rule?_digit rule?_digits h.digit))
  | none =>
    refine ⟨y, by simp [Number.text, hf], h.digit, ?_⟩
    by_cases hpoint : ['.'] <+: y
    · obtain ⟨z, rfl⟩ := hpoint
      have hz : Answers arithmetic input ⟨⟨11⟩, active, z⟩ false z [] :=
        digits_fail rule?_digit rule?_digits (h.point hf z rfl)
      exact .optional rule?_anyFraction (.sequence rule?_fraction (.literal rule?_point) hz)
    · exact .optional rule?_anyFraction
        (.sequence_fails rule?_fraction (.literal_fails rule?_point hpoint))

/-- A number is read up to its end, and its capture is left behind. -/
theorem number_answers {n : Number} (h : n.Ends y) :
    Answers arithmetic input ⟨⟨16⟩, active, n.text ++ y⟩ true y
      [.between input (n.text ++ y) y ⟨16⟩] := by
  obtain ⟨x, hx, hdigit, hfraction⟩ := fraction_answers h
  rw [hx]
  exact .action rule?_number
    (.sequence rule?_numeral (n.whole_digits.answer rule?_digit rule?_digits hdigit) hfraction)

theorem number_fails (h : ¬ StartsWith Char.isDigit x) :
    Answers arithmetic input ⟨⟨16⟩, active, x⟩ false x [] := by
  exact .action_fails rule?_number
    (.sequence_fails rule?_numeral (digits_fail rule?_digit rule?_digits h))

/-! ## Parts -/

/-- The rule for a part, under its name, finds the part in front of a text. -/
def Finds (input : List Char) (P : Part) (x y : List Char) (l : List Capture) : Prop :=
  Answers arithmetic input ⟨P.rule, some P.name, x⟩ true y l

/-- The rule for a part does not find the part in front of a text. -/
def Misses (input : List Char) (P : Part) (x : List Char) : Prop :=
  ∃ y l, Answers arithmetic input ⟨P.rule, some P.name, x⟩ false y l

/-- Operands are referred to by name, and never from inside of their own rule. -/
theorem operand_reference {lvl : Level} {id : RuleId} {matched : Bool}
    (hr : arithmetic.rule? id = some (.reference lvl.operand.name))
    (h : Answers arithmetic input ⟨lvl.operand.rule, some lvl.operand.name, x⟩ matched y l) :
    Answers arithmetic input ⟨id, some (Part.chain lvl).name, x⟩ matched
      (if matched then y else x) l := by
  have hname : some (Part.chain lvl).name ≠ some lvl.operand.name := by cases lvl <;> decide
  have hrule : arithmetic.named? lvl.operand.name = some lvl.operand.rule := by cases lvl <;> rfl
  exact .reference hr hname hrule h

theorem space_answers (x : List Char) :
    Answers arithmetic input ⟨arithmetic.whitespace, active, x⟩ true (skip x) [] :=
  hasDefaultSpace.answers x

/-! ## Factors -/

/-- Behind an opening parenthesis, the sum of a group is tried. -/
theorem group_sum {matched : Bool}
    (h : Answers arithmetic input ⟨(Part.chain .sum).rule, some (Part.chain .sum).name, x⟩ matched
      y l) :
    Answers arithmetic input ⟨⟨18⟩, some Part.factor.name, x⟩ matched
      (if matched then y else x) l :=
  .reference rule?_inside (by decide) rfl h

theorem opening_answers (u : List Char) :
    Answers arithmetic input ⟨⟨17⟩, active, '(' :: u⟩ true u [] :=
  .literal rule?_opening

theorem factor_of_group (h : Finds input (.chain .sum) (skip u) y l) (hy : skip y = ')' :: z) :
    Finds input .factor ('(' :: u) z l := by
  have hclosing : Answers arithmetic input ⟨⟨19⟩, some Part.factor.name, skip y⟩ true z [] := by
    rw [hy]
    exact .literal rule?_closing
  have hclosed := Answers.spaced rule?_closed (group_sum h) (space_answers y) hclosing
  have hgroup := Answers.spaced rule?_group (opening_answers u) (space_answers u) hclosed
  rw [List.nil_append, List.nil_append, List.append_nil, List.append_nil] at hgroup
  exact .choice_first rule?_factor hgroup

/-- A group fails at once where there is no opening parenthesis. -/
theorem group_fails_at_start (hopening : ¬ ['('] <+: x) :
    Answers arithmetic input ⟨⟨21⟩, active, x⟩ false x [] :=
  .spaced_fails rule?_group (.literal_fails rule?_opening hopening)

theorem factor_of_number {n : Number} (h : n.Ends y) :
    Finds input .factor (n.text ++ y) y [.between input (n.text ++ y) y ⟨16⟩] := by
  have hopening : ¬ ['('] <+: n.text ++ y := by
    obtain ⟨c, w, hw, hc⟩ := n.text_eq_cons
    rw [hw]
    rintro ⟨v, hv⟩
    cases hv
    exact absurd hc (by decide)
  exact .choice_second rule?_factor (group_fails_at_start hopening) (number_answers h)

/-- Where a group fails, no number is found in its place. -/
theorem factor_missed (h : Answers arithmetic input ⟨⟨21⟩, some Part.factor.name, x⟩ false y l)
    (hx : ¬ StartsWith Char.isDigit x) : Misses input .factor x :=
  ⟨_, _, .choice_second rule?_factor h (number_fails hx)⟩

theorem factor_missed_at_start (hopening : ¬ ['('] <+: x) (hx : ¬ StartsWith Char.isDigit x) :
    Misses input .factor x :=
  factor_missed (group_fails_at_start hopening) hx

theorem not_startsWith_opening (u : List Char) : ¬ StartsWith Char.isDigit ('(' :: u) := by
  rintro ⟨c, hc, hdigit⟩
  cases hc
  exact absurd hdigit (by decide)

theorem factor_missed_inside (h : Misses input (.chain .sum) (skip u)) :
    Misses input .factor ('(' :: u) := by
  obtain ⟨y, l, h⟩ := h
  have hclosed := Answers.spaced_fails rule?_closed (group_sum h)
  exact factor_missed (.spaced rule?_group (opening_answers u) (space_answers u) hclosed)
    (not_startsWith_opening u)

theorem factor_missed_at_end (h : Finds input (.chain .sum) (skip u) y l)
    (hy : ¬ [')'] <+: skip y) : Misses input .factor ('(' :: u) := by
  have hclosing :
      Answers arithmetic input ⟨⟨19⟩, some Part.factor.name, skip y⟩ false (skip y) [] :=
    .literal_fails rule?_closing hy
  have hclosed := Answers.spaced rule?_closed (group_sum h) (space_answers y) hclosing
  exact factor_missed (.spaced rule?_group (opening_answers u) (space_answers u) hclosed)
    (not_startsWith_opening u)

/-! ## Operations -/

/-- The rule is for an operation of a level, with its right operand, and acts on both. -/
def IsTurn (lvl : Level) (op : Operation) (id : RuleId) : Prop :=
  ∃ s a b, arithmetic.rule? id = some (.action s (applyOperation op)) ∧
    arithmetic.rule? s = some (.spaced a b) ∧ arithmetic.rule? a = some (.literal op.symbol) ∧
    arithmetic.rule? b = some (.reference lvl.operand.name)

theorem isTurn_first (lvl : Level) : IsTurn lvl lvl.first ⟨lvl.base + 3⟩ :=
  ⟨⟨lvl.base + 2⟩, ⟨lvl.base + 1⟩, ⟨lvl.base + 0⟩, rule?_level lvl (by omega),
    rule?_level lvl (by omega), rule?_level lvl (by omega), rule?_level lvl (by omega)⟩

theorem isTurn_second (lvl : Level) : IsTurn lvl lvl.second ⟨lvl.base + 7⟩ :=
  ⟨⟨lvl.base + 6⟩, ⟨lvl.base + 5⟩, ⟨lvl.base + 4⟩, rule?_level lvl (by omega),
    rule?_level lvl (by omega), rule?_level lvl (by omega), rule?_level lvl (by omega)⟩

theorem has_iff (lvl : Level) (op : Operation) :
    lvl.has op = true ↔ op = lvl.first ∨ op = lvl.second := by
  cases lvl <;> cases op <;> decide

variable {lvl : Level} {op : Operation} {id : RuleId}

/-- With its symbol and its operand, the operation is found, and its capture comes last. -/
theorem IsTurn.finds (h : IsTurn lvl op id) (hx : x = op.symbol.toList ++ u)
    (hoperand : Finds input lvl.operand (skip u) y l) :
    Answers arithmetic input ⟨id, some (Part.chain lvl).name, x⟩ true y
      (l ++ [.between input x y id]) := by
  obtain ⟨s, p, q, hr, hs, hp, hq⟩ := h
  subst hx
  exact .action hr (.spaced hs (.literal hp) (space_answers u) (operand_reference hq hoperand))

theorem IsTurn.fails_at_start (h : IsTurn lvl op id) (hx : ¬ op.symbol.toList <+: x) :
    Answers arithmetic input ⟨id, some (Part.chain lvl).name, x⟩ false x [] := by
  obtain ⟨s, p, q, hr, hs, hp, hq⟩ := h
  exact .action_fails hr (.spaced_fails hs (.literal_fails hp hx))

/-- Without an operand behind its symbol, the operation leaves nothing behind. -/
theorem IsTurn.fails_at_operand (h : IsTurn lvl op id) (hx : x = op.symbol.toList ++ u)
    (hoperand : Misses input lvl.operand (skip u)) :
    Answers arithmetic input ⟨id, some (Part.chain lvl).name, x⟩ false x [] := by
  obtain ⟨s, p, q, hr, hs, hp, hq⟩ := h
  obtain ⟨y, l, hoperand⟩ := hoperand
  subst hx
  exact .action_fails hr
    (.spaced hs (.literal hp) (space_answers u) (operand_reference hq hoperand))

variable {w : List Char}

/-- An operation of a level is found by the rule that acts on its operands. -/
theorem turn_finds (hop : lvl.has op = true) (hw : skip w = op.symbol.toList ++ u)
    (hoperand : Finds input lvl.operand (skip u) y l) :
    ∃ id s, arithmetic.rule? id = some (.action s (applyOperation op)) ∧
      Answers arithmetic input ⟨⟨lvl.base + 9⟩, some (Part.chain lvl).name, w⟩ true y
        (l ++ [.between input (skip w) y id]) := by
  have h8 := rule?_level lvl (k := 8) (by omega)
  have h9 := rule?_level lvl (k := 9) (by omega)
  rcases (has_iff lvl op).1 hop with rfl | rfl
  · obtain ⟨s, -, -, hr, -⟩ := isTurn_first lvl
    have hfound := (isTurn_first lvl).finds hw hoperand
    have hturn := Answers.sequence h9 (space_answers w) (.choice_first h8 hfound)
    exact ⟨_, s, hr, hturn⟩
  · have hfirst : ¬ lvl.first.symbol.toList <+: skip w := by
      rw [hw]
      rintro ⟨v, hv⟩
      cases lvl <;> cases hv
    have hfails : Answers arithmetic input
        ⟨⟨lvl.base + 3⟩, some (Part.chain lvl).name, skip w⟩ false (skip w) [] :=
      (isTurn_first lvl).fails_at_start hfirst
    obtain ⟨s, -, -, hr, -⟩ := isTurn_second lvl
    have hfound := (isTurn_second lvl).finds hw hoperand
    have hturn := Answers.sequence h9 (space_answers w) (.choice_second h8 hfails hfound)
    exact ⟨_, s, hr, hturn⟩

theorem turn_misses
    (h : ∀ op u, lvl.has op = true → skip w = op.symbol.toList ++ u →
      Misses input lvl.operand (skip u)) :
    ∃ y, Answers arithmetic input ⟨⟨lvl.base + 9⟩, some (Part.chain lvl).name, w⟩ false y [] := by
  have h8 := rule?_level lvl (k := 8) (by omega)
  have h9 := rule?_level lvl (k := 9) (by omega)
  have fails : ∀ {op id}, IsTurn lvl op id → lvl.has op = true →
      Answers arithmetic input ⟨id, some (Part.chain lvl).name, skip w⟩ false (skip w) [] := by
    intro op id hturn hop
    by_cases hw : op.symbol.toList <+: skip w
    · obtain ⟨u, hu⟩ := hw
      exact hturn.fails_at_operand hu.symm (h op u hop hu.symm)
    · exact hturn.fails_at_start hw
  have hfirst := fails (isTurn_first lvl) ((has_iff lvl _).2 (.inl rfl))
  have hsecond := fails (isTurn_second lvl) ((has_iff lvl _).2 (.inr rfl))
  exact ⟨_, .sequence h9 (space_answers w) (.choice_second h8 hfirst hsecond)⟩

/-! ## Products and sums -/

/-- So many operations with their operands are read one after another. -/
def Tail (input : List Char) (lvl : Level) (x y : List Char) (l : List Capture) : Prop :=
  ∃ n, Repeats arithmetic input (some (Part.chain lvl).name) ⟨lvl.base + 9⟩ x n y l

theorem rule_chain (lvl : Level) : (Part.chain lvl).rule = ⟨lvl.base + 12⟩ := by cases lvl <;> rfl

theorem chain_finds (hoperand : Finds input lvl.operand x y l)
    (htail : Tail input lvl (skip y) z m) :
    Finds input (.chain lvl) x z (l ++ m) := by
  have h10 := rule?_level lvl (k := 10) (by omega)
  have h11 := rule?_level lvl (k := 11) (by omega)
  have h12 := rule?_level lvl (k := 12) (by omega)
  obtain ⟨n, htail⟩ := htail
  have hall := Answers.spaced h12 (operand_reference h11 hoperand) (space_answers y)
    (.zeroOrMore h10 htail)
  rw [Finds, rule_chain]
  exact hall

theorem chain_misses (hoperand : Misses input lvl.operand x) : Misses input (.chain lvl) x := by
  have h11 := rule?_level lvl (k := 11) (by omega)
  have h12 := rule?_level lvl (k := 12) (by omega)
  obtain ⟨y, l, hoperand⟩ := hoperand
  rw [Misses, rule_chain]
  exact ⟨_, _, .spaced_fails h12 (operand_reference h11 hoperand)⟩

end

end Peg.Arithmetic
