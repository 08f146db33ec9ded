-- What arithmetic expressions mean: their tokens, how these are written, and the value that they
-- have by the precedence of the operations. No rule of a grammar comes in here.
import Peg.Arithmetic.Calculator
import Peg.Ebnf.Lexical

namespace Peg.Arithmetic

open Ebnf

/-! ## Tokens -/

/-- One digit or more. -/
def Digits (cs : List Char) : Prop := cs ≠ [] ∧ ∀ c ∈ cs, c.isDigit = true

/-- A number as it is written. -/
structure Number where
  whole : List Char
  /-- The digits behind the point, if there is one. -/
  fraction : Option (List Char)
  whole_digits : Digits whole
  fraction_digits : ∀ cs ∈ fraction, Digits cs

def Number.text (n : Number) : List Char :=
  match n.fraction with
  | none => n.whole
  | some cs => n.whole ++ '.' :: cs

def Operation.symbol : Operation → String
  | add => "+"
  | sub => "-"
  | mul => "*"
  | div => "/"

inductive Token where
  | number (n : Number)
  | operator (op : Operation)
  | opening
  | closing

def Token.text : Token → List Char
  | number n => n.text
  | operator op => op.symbol.toList
  | opening => "(".toList
  | closing => ")".toList

/-- A text is tokens, with any run of blanks and line ends between them. -/
inductive Spells : List Token → List Char → Prop where
  | last (t : Token) : Spells [t] t.text
  | cons (t : Token) {ts : List Token} {layout x : List Char} :
    (∀ c ∈ layout, isLayoutBlank c = true) → Spells ts x →
      Spells (t :: ts) (t.text ++ (layout ++ x))

/-! ## Values -/

/-- Operations of one precedence stand next to each other in products, or in sums of these. -/
inductive Level where
  | product
  | sum

def Level.has : Level → Operation → Bool
  | product, op => op = .mul || op = .div
  | sum, op => op = .add || op = .sub

/-- What tokens can stand for: a factor, a product or sum, or what comes in a product or sum
behind the operands that have the value `left`. -/
inductive Part where
  | factor
  | chain (l : Level)
  | tail (l : Level) (left : Float)

/-- A product is made of factors, and a sum of products. -/
def Level.operand : Level → Part
  | product => .factor
  | sum => .chain product

/-- Tokens stand for a part with a value:
`sum = product { (+|-) product }`, `product = factor { (*|/) factor }` and
`factor = number | ( sum )`. Values are taken together from the left. -/
inductive Means : Part → List Token → Float → Prop where
  | number {n : Number} {v : Float} :
    parseFloat n.text = .ok v → Means .factor [.number n] v
  | group {ts : List Token} {v : Float} :
    Means (.chain .sum) ts v → Means .factor (.opening :: (ts ++ [.closing])) v
  | chain {l : Level} {ts us : List Token} {a v : Float} :
    Means l.operand ts a → Means (.tail l a) us v → Means (.chain l) (ts ++ us) v
  | stop {l : Level} {a : Float} : Means (.tail l a) [] a
  | turn {l : Level} {op : Operation} {ts us : List Token} {a b v : Float} :
    l.has op = true → Means l.operand ts b → Means (.tail l (op.apply a b)) us v →
      Means (.tail l a) (.operator op :: (ts ++ us)) v

/-! ## Numbers have values -/

section

variable {cs : List Char}

theorem takeWhile_digits (h : Digits cs) {x : List Char} (hx : ∀ c ∈ x.head?, ¬ c.isDigit = true) :
    (cs ++ x).takeWhile Char.isDigit = cs := by
  rw [List.takeWhile_append_of_pos h.2]
  cases x with
  | nil => simp
  | cons c x => rw [List.takeWhile_cons_of_neg (hx c rfl), List.append_nil]

theorem dropWhile_digits (h : Digits cs) {x : List Char} (hx : ∀ c ∈ x.head?, ¬ c.isDigit = true) :
    (cs ++ x).dropWhile Char.isDigit = x := by
  rw [List.dropWhile_append_of_pos h.2]
  cases x with
  | nil => rfl
  | cons c x => exact List.dropWhile_cons_of_neg (hx c rfl)

theorem Digits.isEmpty (h : Digits cs) : cs.isEmpty = false := by
  rw [List.isEmpty_eq_false_iff]
  exact h.1

end

theorem Number.text_eq_cons (n : Number) : ∃ c x, n.text = c :: x ∧ c.isDigit = true := by
  obtain ⟨hne, hdigits⟩ := n.whole_digits
  obtain ⟨c, x, hx⟩ := List.exists_cons_of_ne_nil hne
  have hc : c.isDigit = true := hdigits c (by rw [hx]; exact List.mem_cons_self)
  unfold Number.text
  rw [hx]
  split
  · exact ⟨c, x, rfl, hc⟩
  · exact ⟨c, _, rfl, hc⟩

theorem readDecimal_digits {cs : List Char} (h : Digits cs) :
    readDecimal cs = some (.decimal (digitsValue cs) 0) := by
  have hend : ∀ c ∈ ([] : List Char).head?, ¬ c.isDigit = true := by simp
  rw [← List.append_nil cs, readDecimal, takeWhile_digits h hend, dropWhile_digits h hend]
  simp [h.isEmpty, readExponent]

theorem readDecimal_text (n : Number) : ∃ d, readDecimal n.text = some d := by
  have hwhole := n.whole_digits
  cases hf : n.fraction with
  | none =>
    have ht : n.text = n.whole := by simp [Number.text, hf]
    rw [ht]
    exact ⟨_, readDecimal_digits hwhole⟩
  | some cs =>
    have hcs : Digits cs := n.fraction_digits cs hf
    have ht : n.text = n.whole ++ '.' :: (cs ++ []) := by simp [Number.text, hf]
    have hpoint : ∀ c ∈ ('.' :: (cs ++ [])).head?, ¬ c.isDigit = true := by
      intro c hc
      cases hc
      decide
    rw [ht, readDecimal, takeWhile_digits hwhole hpoint, dropWhile_digits hwhole hpoint]
    simp only [takeWhile_digits hcs (x := []) (by simp), dropWhile_digits hcs (x := []) (by simp)]
    simp [hwhole.isEmpty, readExponent]

theorem readSign_of_digit {c : Char} (hc : c.isDigit = true) (x : List Char) :
    readSign (c :: x) = (false, c :: x) := by
  unfold readSign
  split
  · next h =>
    cases h
    exact absurd hc (by decide)
  · next h =>
    cases h
    exact absurd hc (by decide)
  · rfl

theorem toLower_of_isDigit {c : Char} (hc : c.isDigit = true) : c.toLower = c := by
  simp only [Char.isDigit, Bool.and_eq_true, decide_eq_true_eq] at hc
  unfold Char.toLower
  rw [dif_neg]
  rintro ⟨hlo, -⟩
  exact absurd (UInt32.le_trans hlo hc.2) (by decide)

/-- No word for a number begins with a digit. -/
theorem readNumeral_of_digit {c : Char} (hc : c.isDigit = true) (x : List Char) :
    readNumeral (c :: x) = readDecimal (c :: x) := by
  have hword : ∀ w : String, w.toList.head?.all (!Char.isDigit ·) = true →
      String.ofList ((c :: x).map Char.toLower) ≠ w := by
    rintro w hw rfl
    rw [String.toList_ofList, List.map_cons, toLower_of_isDigit hc] at hw
    simp [hc] at hw
  unfold readNumeral
  dsimp only
  rw [if_neg, if_neg]
  · exact hword "nan" (by decide)
  · rintro (h | h)
    · exact hword "inf" (by decide) h
    · exact hword "infinity" (by decide) h

/-- Every number has a value. -/
theorem parseFloat_text (n : Number) : ∃ v, parseFloat n.text = .ok v := by
  obtain ⟨d, hd⟩ := readDecimal_text n
  obtain ⟨c, x, hx, hc⟩ := n.text_eq_cons
  rw [hx] at hd ⊢
  unfold parseFloat
  rw [readSign_of_digit hc]
  simp only [readNumeral_of_digit hc, hd]
  exact ⟨_, rfl⟩

/-- The value of digits is the double that is nearest to their number. -/
theorem parseFloat_digits {cs : List Char} (h : Digits cs) :
    parseFloat cs = .ok (Float.ofBits (Numeral.decimal (digitsValue cs) 0).bits.toUInt64) := by
  obtain ⟨c, x, rfl⟩ := List.exists_cons_of_ne_nil h.1
  have hc : c.isDigit = true := h.2 c List.mem_cons_self
  unfold parseFloat
  rw [h.isEmpty, readSign_of_digit hc]
  simp only [readNumeral_of_digit hc, readDecimal_digits h]
  rfl

end Peg.Arithmetic
