-- The grammar of arithmetic in which terms begin with terms and factors with factors. A name is
-- refused inside of itself, so no operation ever matches, and what is left are numbers with
-- parentheses around them.
import Peg.Proofs.Arithmetic.Agreement
import Peg.Proofs.Replaying

namespace Peg.Arithmetic

open Text

/-! ## The arena -/

/-- The rules for an operation with both operands, which begin at place `base`. -/
def recursiveRules (base : Nat) (left symbol right : String) (op : Operation) :
    List (Rule Calculator) :=
  [.reference left, .literal symbol, .reference right, .sequence ⟨base + 1⟩ ⟨base + 2⟩,
    .sequence ⟨base⟩ ⟨base + 3⟩, .action ⟨base + 4⟩ (applyOperation op)]

/-- The rules for numbers, which begin at place 10. -/
def numberRules : List (Rule Calculator) :=
  [.range '0' '9', .oneOrMore ⟨10⟩, .action ⟨11⟩ pushNumber]

/-- The rules for terms that are no operations, and for the choice between all terms, which begin
at place 25. -/
def termRules : List (Rule Calculator) := [.reference "fact", .choice ⟨24⟩ ⟨25⟩, .choice ⟨18⟩ ⟨26⟩]

/-- The rules for terms in parentheses, for the choice between all factors, and for whole texts,
which begin at place 40. -/
def groupRules : List (Rule Calculator) :=
  [.literal "(", .reference "term", .literal ")", .sequence ⟨41⟩ ⟨42⟩, .sequence ⟨40⟩ ⟨43⟩,
    .choice ⟨44⟩ ⟨12⟩, .choice ⟨39⟩ ⟨45⟩, .choice ⟨33⟩ ⟨46⟩, .reference "term", .endOfInput ⟨48⟩]

/-- The arena of the left recursive parser. -/
def leftRecursive : Arena Calculator where
  rules := (spaceRules ++ numberRules ++ recursiveRules 13 "term" "+" "fact" .add ++
    recursiveRules 19 "term" "-" "fact" .sub ++ termRules ++
    recursiveRules 28 "fact" "*" "term" .mul ++ recursiveRules 34 "fact" "/" "term" .div ++
    groupRules).toArray
  names := [("fact", ⟨47⟩), ("term", ⟨27⟩)]
  whitespace := ⟨9⟩
  warnings := []

theorem run_recursiveOperation (left symbol right : String) (op : Operation)
    (g : Arena Calculator) :
    (recursiveOperation left symbol right op).run g =
      (⟨g.size + 5⟩,
        { g with rules := g.rules ++ recursiveRules g.size left symbol right op }) := by
  simp only [recursiveOperation, Build.chain, Build.action, Build.run_bind, Build.run_push,
    Build.run_literal, Build.run_reference, Build.run_unary, Build.run_pure, Arena.size,
    Array.size_push]
  simp [recursiveRules]

theorem run_defineLeftRecursive : defineLeftRecursive.run Arena.fresh = (⟨49⟩, leftRecursive) := by
  rw [fresh_eq]
  simp only [defineLeftRecursive, Build.chain, Build.oneOrMore, Build.action, Build.endOfInput,
    Build.run_bind, Build.run_push, Build.run_range, Build.run_literal, Build.run_reference,
    Build.run_unary, Build.run_pure, Build.run_modify, run_recursiveOperation, Arena.register,
    Arena.size, spaceRules, List.push_toArray, List.size_toArray, List.length_cons, List.length_nil,
    List.nil_append, List.cons_append, Nat.zero_add, Nat.reduceAdd]
  rfl

theorem takeRoot_leftRecursive :
    leftRecursiveParser.takeRoot = (.ok ⟨49⟩, ⟨leftRecursive, some ⟨49⟩, none, false⟩) := by
  unfold Parser.takeRoot
  simp only [leftRecursiveParser, Parser.ofDefinition, Parser.empty, Build.run_lift,
    run_defineLeftRecursive]

/-! ## Operations -/

section

variable {input x y z u cs : List Char} {active : Option String} {l m : List Capture}
  {matched : Bool} {a b id : RuleId}

/-- An operation begins with the name that it is tried under, which is refused. It leaves no capture
behind. -/
theorem operation_refused {left symbol right : String} {op : Operation} (base : Nat)
    (hrules : ∀ k, k < 6 → leftRecursive.rule? ⟨base + k⟩ =
      (recursiveRules base left symbol right op)[k]?) :
    Answers leftRecursive input ⟨⟨base + 5⟩, some left, x⟩ false x [] := by
  have hleft : leftRecursive.rule? ⟨base⟩ = some (.reference left) := hrules 0 (by decide)
  exact .action_fails (hrules 5 (by decide))
    (.sequence_fails (hrules 4 (by decide)) (.refused hleft))

theorem back_eq (hy : matched = false → y = x) : (if matched then y else x) = y := by
  cases matched with
  | true => rfl
  | false => exact (hy rfl).symm

/-- What comes behind an alternative that was refused decides. -/
theorem answers_behind_refused (hr : leftRecursive.rule? id = some (.choice a b))
    (ha : Answers leftRecursive input ⟨a, active, x⟩ false x [])
    (hb : Answers leftRecursive input ⟨b, active, x⟩ matched y l)
    (hy : matched = false → y = x) :
    Answers leftRecursive input ⟨id, active, x⟩ matched y l := by
  have h := Answers.choice_second hr ha hb
  rwa [back_eq hy, List.nil_append] at h

/-! ## Terms and factors -/

/-- The rule for terms, under its name. -/
def term (x : List Char) : Attempt := ⟨⟨27⟩, some "term", x⟩

/-- The rule for factors, under its name. -/
def factor (x : List Char) : Attempt := ⟨⟨47⟩, some "fact", x⟩

/-- A term is a factor. -/
theorem term_answers (h : Answers leftRecursive input (factor x) matched y l)
    (hy : matched = false → y = x) : Answers leftRecursive input (term x) matched y l := by
  have hsum : Answers leftRecursive input ⟨⟨18⟩, some "term", x⟩ false x [] :=
    operation_refused 13 fun k hk => by interval_cases k <;> rfl
  have hdifference : Answers leftRecursive input ⟨⟨24⟩, some "term", x⟩ false x [] :=
    operation_refused 19 fun k hk => by interval_cases k <;> rfl
  have hfactor : Answers leftRecursive input ⟨⟨25⟩, some "term", x⟩ matched
      (if matched then y else x) l := .reference rfl (by decide) rfl h
  rw [back_eq hy] at hfactor
  exact answers_behind_refused rfl hsum (answers_behind_refused rfl hdifference hfactor hy) hy

/-- A factor is a group or a number. -/
theorem factor_answers (h : Answers leftRecursive input ⟨⟨45⟩, some "fact", x⟩ matched y l)
    (hy : matched = false → y = x) : Answers leftRecursive input (factor x) matched y l := by
  have hproduct : Answers leftRecursive input ⟨⟨33⟩, some "fact", x⟩ false x [] :=
    operation_refused 28 fun k hk => by interval_cases k <;> rfl
  have hquotient : Answers leftRecursive input ⟨⟨39⟩, some "fact", x⟩ false x [] :=
    operation_refused 34 fun k hk => by interval_cases k <;> rfl
  exact answers_behind_refused rfl hproduct (answers_behind_refused rfl hquotient h hy) hy

/-- Inside of a factor, a term may be tried again. -/
theorem inner_answers (h : Answers leftRecursive input (term x) matched y l)
    (hy : matched = false → y = x) :
    Answers leftRecursive input ⟨⟨41⟩, some "fact", x⟩ matched y l := by
  have hinner : Answers leftRecursive input ⟨⟨41⟩, some "fact", x⟩ matched
      (if matched then y else x) l := .reference rfl (by decide) rfl h
  rwa [back_eq hy] at hinner

/-! ## Numbers and groups -/

theorem number_missed (hx : ¬ StartsWith Char.isDigit x) :
    Answers leftRecursive input ⟨⟨12⟩, active, x⟩ false x [] :=
  .action_fails rfl (digits_fail rfl rfl hx)

theorem not_opening_of_digits (h : Digits cs) : ¬ "(".toList <+: cs ++ y := by
  obtain ⟨c, w, rfl⟩ := List.exists_cons_of_ne_nil h.1
  rintro ⟨v, hv⟩
  cases hv
  exact absurd (h.2 '(' List.mem_cons_self) (by decide)

/-- Digits are a term, up to where no more of them come. -/
theorem term_of_digits (h : Digits cs) (hy : ¬ StartsWith Char.isDigit y) :
    Answers leftRecursive input (term (cs ++ y)) true y [.between input (cs ++ y) y ⟨12⟩] := by
  have hgroup : Answers leftRecursive input ⟨⟨44⟩, some "fact", cs ++ y⟩ false (cs ++ y) [] :=
    .sequence_fails rfl (.literal_fails rfl (not_opening_of_digits h))
  have hnumber : Answers leftRecursive input ⟨⟨12⟩, some "fact", cs ++ y⟩ true y
      [.between input (cs ++ y) y ⟨12⟩] := .action rfl (h.answer rfl rfl hy)
  exact term_answers (factor_answers (answers_behind_refused rfl hgroup hnumber nofun) nofun) nofun

theorem opening_taken :
    Answers leftRecursive input ⟨⟨40⟩, active, '(' :: u⟩ true u [] :=
  .literal (show leftRecursive.rule? ⟨40⟩ = some (.literal "(") from rfl)

theorem closing_taken :
    Answers leftRecursive input ⟨⟨42⟩, active, ')' :: z⟩ true z [] :=
  .literal (show leftRecursive.rule? ⟨42⟩ = some (.literal ")") from rfl)

/-- A term in parentheses is a term. -/
theorem term_of_group (h : Answers leftRecursive input (term u) true (')' :: z) l) :
    Answers leftRecursive input (term ('(' :: u)) true z l := by
  have hclosed : Answers leftRecursive input ⟨⟨43⟩, some "fact", u⟩ true z (l ++ []) :=
    .sequence rfl (inner_answers h nofun) closing_taken
  rw [List.append_nil] at hclosed
  have hgroup : Answers leftRecursive input ⟨⟨44⟩, some "fact", '(' :: u⟩ true z ([] ++ l) :=
    .sequence rfl opening_taken hclosed
  exact term_answers (factor_answers (.choice_first rfl hgroup) nofun) nofun

/-- Where a group fails, there is no number either. -/
theorem term_missed (h : Answers leftRecursive input ⟨⟨44⟩, some "fact", x⟩ false z l)
    (hx : ¬ StartsWith Char.isDigit x) : ∃ l, Answers leftRecursive input (term x) false x l := by
  have hneither : Answers leftRecursive input ⟨⟨45⟩, some "fact", x⟩ false x (l ++ []) :=
    .choice_second rfl h (number_missed hx)
  exact ⟨_, term_answers (factor_answers hneither fun _ => rfl) fun _ => rfl⟩

/-- Behind an opening parenthesis there has to be a term with a closing one. -/
theorem term_missed_in_group (h : Answers leftRecursive input (term u) matched y l)
    (hy : matched = false → y = u) (hclosing : matched = true → ¬ ")".toList <+: y) :
    ∃ l, Answers leftRecursive input (term ('(' :: u)) false ('(' :: u) l := by
  have hinner := inner_answers h hy
  obtain ⟨z, m, hclosed⟩ : ∃ z m,
      Answers leftRecursive input ⟨⟨43⟩, some "fact", u⟩ false z m := by
    cases matched with
    | false => exact ⟨_, _, .sequence_fails rfl hinner⟩
    | true => exact ⟨_, _, .sequence rfl hinner (.literal_fails rfl (hclosing rfl))⟩
  have hgroup : Answers leftRecursive input ⟨⟨44⟩, some "fact", '(' :: u⟩ false z ([] ++ m) :=
    .sequence rfl opening_taken hclosed
  exact term_missed hgroup (not_startsWith_opening u)

/-! ## What is a term -/

/-- Digits with so many parentheses around them. -/
def bracketed (count : Nat) (cs : List Char) : List Char :=
  List.replicate count '(' ++ (cs ++ List.replicate count ')')

theorem bracketed_succ (count : Nat) (cs y : List Char) :
    bracketed (count + 1) cs ++ y = '(' :: (bracketed count cs ++ ')' :: y) := by
  rw [bracketed, List.replicate_succ, List.replicate_succ']
  simp [bracketed]

/-- The number is captured, and nothing else. -/
theorem term_of_bracketed (h : Digits cs) {count : Nat}
    (hy : ¬ StartsWith Char.isDigit (List.replicate count ')' ++ y)) :
    Answers leftRecursive input (term (bracketed count cs ++ y)) true y
      [.between input (cs ++ (List.replicate count ')' ++ y)) (List.replicate count ')' ++ y)
        ⟨12⟩] := by
  induction count generalizing y with
  | zero => simpa [bracketed] using term_of_digits h hy
  | succ count ih =>
    have hclosing : List.replicate (count + 1) ')' ++ y =
        List.replicate count ')' ++ (')' :: y) := by
      rw [List.replicate_succ', List.append_assoc, List.singleton_append]
    rw [hclosing] at hy ⊢
    rw [bracketed_succ]
    exact term_of_group (ih hy)

/-- What does not begin so is no term. -/
theorem bracketed_or_missed (input x : List Char) :
    (∃ count cs y, Digits cs ∧ ¬ StartsWith Char.isDigit (List.replicate count ')' ++ y) ∧
      x = bracketed count cs ++ y) ∨ ∃ l, Answers leftRecursive input (term x) false x l := by
  by_cases hopening : ['('] <+: x
  · obtain ⟨u, rfl⟩ := hopening
    rcases bracketed_or_missed input u with ⟨count, cs, y, hcs, hy, rfl⟩ | ⟨l, hmissed⟩
    · by_cases hclosing : ")".toList <+: y
      · obtain ⟨z, rfl⟩ := hclosing
        refine .inl ⟨count + 1, cs, z, hcs, ?_, (bracketed_succ count cs z).symm⟩
        rw [List.replicate_succ', List.append_assoc]
        exact hy
      · exact .inr (term_missed_in_group (term_of_bracketed hcs hy) nofun fun _ => hclosing)
    · exact .inr (term_missed_in_group hmissed (fun _ => rfl) nofun)
  · by_cases hdigit : StartsWith Char.isDigit x
    · refine .inl ⟨0, x.takeWhile Char.isDigit, x.dropWhile Char.isDigit, digits_takeWhile hdigit,
        not_startsWith_dropWhile _ x, ?_⟩
      simp [bracketed]
    · exact .inr (term_missed (.sequence_fails rfl (.literal_fails rfl hopening)) hdigit)
termination_by x.length

/-! ## Whole texts -/

/-- The root asks for a term that goes to the end. -/
theorem root_answers (h : Answers leftRecursive input (term input) matched y l)
    (hy : matched = false → y = input) :
    Answers leftRecursive input ⟨⟨48⟩, none, input⟩ matched y l := by
  have hroot : Answers leftRecursive input ⟨⟨48⟩, none, input⟩ matched
      (if matched then y else input) l := .reference rfl (by decide) rfl h
  rwa [back_eq hy] at hroot

/-- The one step that is done for digits in parentheses. -/
def bracketedStep (count : Nat) (cs : List Char) : Step :=
  .between (bracketed count cs) .number (cs ++ List.replicate count ')') (List.replicate count ')')

variable {p : Parser Calculator}

theorem not_startsWith_closings (count : Nat) :
    ¬ StartsWith Char.isDigit (List.replicate count ')') := by
  rintro ⟨c, hc, hdigit⟩
  rw [List.eq_of_mem_replicate (List.mem_of_mem_head? hc)] at hdigit
  exact absurd hdigit (by decide)

theorem settles_bracketed
    (hp : p.takeRoot = (.ok ⟨49⟩, ⟨leftRecursive, some ⟨49⟩, none, false⟩)) (h : Digits cs)
    (count : Nat) : Settles p (bracketed count cs) (some [bracketedStep count cs]) := by
  have hend : ¬ StartsWith Char.isDigit (List.replicate count ')' ++ []) := by
    rw [List.append_nil]
    exact not_startsWith_closings count
  have hterm : Answers leftRecursive (bracketed count cs) (term (bracketed count cs ++ [])) true []
      _ := term_of_bracketed h hend
  simp only [List.append_nil] at hterm
  exact settles_of_match hp (.endOfInput rfl (root_answers hterm nofun)) (.between rfl)

theorem settles_other
    (hp : p.takeRoot = (.ok ⟨49⟩, ⟨leftRecursive, some ⟨49⟩, none, false⟩))
    (h : ¬ ∃ count cs, Digits cs ∧ input = bracketed count cs) : Settles p input none := by
  rcases bracketed_or_missed input input with ⟨count, cs, y, hcs, hy, hinput⟩ | ⟨l, hmissed⟩
  · have hne : y ≠ [] := by
      rintro rfl
      exact h ⟨count, cs, hcs, by rw [hinput, List.append_nil]⟩
    have hterm : Answers leftRecursive input (term (bracketed count cs ++ y)) true y _ :=
      term_of_bracketed hcs hy
    rw [← hinput] at hterm
    exact settles_of_no_match hp (.endOfInput_fails rfl (root_answers hterm nofun) fun _ => hne)
  · exact settles_of_no_match hp
      (.endOfInput_fails rfl (root_answers hmissed fun _ => rfl) nofun)

/-- The step for a number reads the text in between. -/
theorem number_step_apply (hx : u ++ y <:+ input) (c : Calculator) :
    (Step.between input .number (u ++ y) y).apply c = c.pushText u := by
  have htext : (Capture.between input (u ++ y) y ⟨0⟩).text? = some u := text?_between hx rfl
  have happly : (Step.between input .number (u ++ y) y).apply c =
      c.pushText ((Capture.between input (u ++ y) y ⟨0⟩).text?.getD []) := rfl
  rw [happly, htext, Option.getD_some]

/-- The number is put on top of the stack. -/
theorem bracketedStep_apply (h : Digits cs) (count : Nat) (c : Calculator) :
    (bracketedStep count cs).apply c = { c with
      stack := Float.ofBits (Numeral.decimal (digitsValue cs) 0).bits.toUInt64 :: c.stack } := by
  have hinside : cs ++ List.replicate count ')' <:+ bracketed count cs := List.suffix_append _ _
  rw [bracketedStep, number_step_apply hinside, Calculator.pushText, parseFloat_digits h]
  rfl

/-- There is no operation in parentheses and digits. -/
theorem not_mem_bracketed (h : Digits cs) (count : Nat) (op : Operation) :
    ∀ ch ∈ op.symbol.toList, ch ∉ bracketed count cs := by
  have hsymbol : op.symbol.toList.all
      (fun ch => ch != '(' && ch != ')' && !ch.isDigit) = true := by
    cases op <;> decide
  intro ch hop hmem
  have hch := List.all_eq_true.1 hsymbol ch hop
  simp only [bracketed, List.mem_append, List.mem_replicate] at hmem
  rcases hmem with ⟨-, rfl⟩ | hdigit | ⟨-, rfl⟩
  · simp at hch
  · simp [h.2 ch hdigit] at hch
  · simp at hch

end

/-- Digits with parentheses around them match, and nothing is done but that their number comes on
top of the stack. Every other text fails and leaves the calculator alone, and so does every text
with an operation in it. -/
theorem left_recursion_takes_numbers_only (calls : List (List Char × Calculator))
    (input : List Char) (c : Calculator) :
    let p := leftRecursiveParser.afterCalls calls
    let outcome := (p.parse input c).1
    (outcome.result = .ok true ↔ ∃ count cs, Digits cs ∧ input = bracketed count cs) ∧
      (∀ count cs, Digits cs → input = bracketed count cs →
        Replays p input [bracketedStep count cs] ∧ outcome.output = { c with
          stack := Float.ofBits (Numeral.decimal (digitsValue cs) 0).bits.toUInt64 :: c.stack }) ∧
      ((¬ ∃ count cs, Digits cs ∧ input = bracketed count cs) →
        outcome.result = .ok false ∧ outcome.output = c) ∧
      ∀ op : Operation, ∀ ch ∈ op.symbol.toList, ch ∈ input →
        outcome.result = .ok false ∧ outcome.output = c := by
  intro p outcome
  have hp : p.takeRoot = (.ok ⟨49⟩, ⟨leftRecursive, some ⟨49⟩, none, false⟩) := by
    have hfault : ∀ fault, leftRecursiveParser.takeRoot.1 ≠ .error (.fault fault) := by
      rw [takeRoot_leftRecursive]
      exact nofun
    rw [Parser.takeRoot_afterCalls hfault, takeRoot_leftRecursive]
  have hother : (¬ ∃ count cs, Digits cs ∧ input = bracketed count cs) →
      outcome.result = .ok false ∧ outcome.output = c :=
    fun h => (settles_other hp h).parse_none c
  refine ⟨⟨?_, ?_⟩, ?_, hother, ?_⟩
  · intro hmatch
    by_contra h
    rw [(hother h).1] at hmatch
    cases hmatch
  · rintro ⟨count, cs, hcs, rfl⟩
    exact (Replays.parse (settles_bracketed hp hcs count) c).1
  · rintro count cs hcs rfl
    have hreplays : Replays p (bracketed count cs) [bracketedStep count cs] :=
      settles_bracketed hp hcs count
    exact ⟨hreplays, (hreplays.parse c).2.trans (bracketedStep_apply hcs count c)⟩
  · intro op ch hop hmem
    apply hother
    rintro ⟨count, cs, hcs, rfl⟩
    exact not_mem_bracketed hcs count op ch hop hmem

theorem a_sum_fails_and_a_number_does_not :
    let p := leftRecursiveParser.afterCalls [(['7'], .empty)]
    ((p.parse ['1', '+', '2'] .empty).1.result = .ok false ∧
      (p.parse ['1', '+', '2'] .empty).1.output = .empty) ∧
    (p.parse ['(', '(', '4', '2', ')', ')'] .empty).1.output =
      ⟨[Float.ofBits 0x4045000000000000], none⟩ := by
  have hsum := (left_recursion_takes_numbers_only [(['7'], .empty)] ['1', '+', '2'] .empty).2.2.2
    .add '+' (by decide) (by simp)
  have hdigits : Digits ['4', '2'] := ⟨by simp, by simp⟩
  have hnumber := ((left_recursion_takes_numbers_only [(['7'], .empty)]
    ['(', '(', '4', '2', ')', ')'] .empty).2.1 2 ['4', '2'] hdigits rfl).2
  have hbits : (Numeral.decimal (digitsValue ['4', '2']) 0).bits = 0x4045000000000000 := by
    decide +kernel
  rw [hbits] at hnumber
  exact ⟨hsum, hnumber⟩

end Peg.Arithmetic
