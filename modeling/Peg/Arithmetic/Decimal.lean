-- Numbers from text: the double that is nearest to a decimal.

namespace Peg.Arithmetic

/-! ## Texts of numbers -/

/-- Why a text is no number. -/
inductive NumberError where
  | emptyText
  | malformed
deriving DecidableEq, Repr

def NumberError.message : NumberError → String
  | emptyText => "cannot parse float from empty string"
  | malformed => "invalid float literal"

/-- A number as it is written, without its sign. A decimal is a whole number of digits and
a power of ten. -/
inductive Numeral where
  | infinity
  | notANumber
  | decimal (digits : Nat) (exponent : Int)
deriving DecidableEq, Repr

def digitsValue (cs : List Char) : Nat :=
  cs.foldl (fun n c => n * 10 + (c.toNat - '0'.toNat)) 0

/-- Reads a sign if there is one: whether it is a minus, and the rest. -/
def readSign : List Char → Bool × List Char
  | '-' :: cs => (true, cs)
  | '+' :: cs => (false, cs)
  | cs => (false, cs)

/-- Reads the exponent of a decimal, which may be missing. -/
def readExponent : List Char → Option Int
  | [] => some 0
  | c :: cs =>
    if c = 'e' ∨ c = 'E' then
      let (negative, digits) := readSign cs
      if digits.isEmpty || !digits.all Char.isDigit then none
      else
        let n : Int := digitsValue digits
        some (if negative then -n else n)
    else none

/-- Reads digits with at most one point among them, and an exponent. -/
def readDecimal (cs : List Char) : Option Numeral :=
  let whole := cs.takeWhile Char.isDigit
  let rest := cs.dropWhile Char.isDigit
  let (fraction, rest) :=
    match rest with
    | '.' :: more => (more.takeWhile Char.isDigit, more.dropWhile Char.isDigit)
    | rest => ([], rest)
  if whole.isEmpty && fraction.isEmpty then none
  else
    (readExponent rest).map fun exponent =>
      .decimal (digitsValue (whole ++ fraction)) (exponent - fraction.length)

/-- Reads a number without its sign. Words count in upper and lower case. -/
def readNumeral (cs : List Char) : Option Numeral :=
  let word := String.ofList (cs.map Char.toLower)
  if word = "inf" ∨ word = "infinity" then some .infinity
  else if word = "nan" then some .notANumber
  else readDecimal cs

/-! ## The nearest double -/

/-- The bits of infinity. -/
def infinityBits : Nat := 0x7ff0000000000000

/-- `num / den` rounded to a whole number, a half to the even side. -/
def roundQuotient (num den : Nat) : Nat :=
  let q := num / den
  let twice := 2 * (num % den)
  if twice > den ∨ (twice = den ∧ q % 2 = 1) then q + 1 else q

/-- `num / den`, divided by two to the power `e` and rounded. -/
def scaledQuotient (num den : Nat) (e : Int) : Nat :=
  if 0 ≤ e then roundQuotient num (den <<< e.toNat)
  else roundQuotient (num <<< (-e).toNat) den

/-- The bits of the double that is nearest to `num / den`, for positive numbers. The unit in
the last place is the power of two at which the quotient has 53 digits, and at least
`2 ^ -1074`. The exponent stands above 52 digits of the quotient, whose first digit adds one
to it. -/
def nearestBits (num den : Nat) : Nat :=
  let guess : Int := (num.log2 : Int) - den.log2 - 53
  let fits (e : Int) : Bool :=
    if 0 ≤ e then num < den <<< (53 + e.toNat) else num <<< (-e).toNat < den <<< 53
  let e := max (if fits guess then guess else guess + 1) (-1074)
  min infinityBits (scaledQuotient num den e + (e + 1074).toNat <<< 52)

/-- The number of decimal digits of a positive number. -/
def digitCount (n : Nat) : Nat := (Nat.toDigits 10 n).length

/-- The bits of a number, without the sign. From `10 ^ 310` on the nearest double is infinity,
and below `10 ^ -330` it is zero. -/
def Numeral.bits : Numeral → Nat
  | infinity => infinityBits
  | notANumber => 0x7ff8000000000000
  | decimal digits exponent =>
    if digits = 0 then 0
    else
      let magnitude := (digitCount digits : Int) + exponent
      if magnitude > 311 then infinityBits
      else if magnitude < -330 then 0
      else if 0 ≤ exponent then nearestBits (digits * .pow 10 exponent.toNat) 1
      else nearestBits digits (.pow 10 (-exponent).toNat)

/-- The double that a text stands for: digits with an optional point and exponent, or the
words for infinity and for what is no number, each with an optional sign. -/
def parseFloat (cs : List Char) : Except NumberError Float :=
  if cs.isEmpty then .error .emptyText
  else
    let (negative, cs) := readSign cs
    match readNumeral cs with
    | none => .error .malformed
    | some n =>
      let bits := if negative then n.bits + 0x8000000000000000 else n.bits
      .ok (Float.ofBits bits.toUInt64)

/-! ## Examples -/

example : (Numeral.decimal 1 0).bits = 0x3ff0000000000000 := by decide +kernel
example : (Numeral.decimal 1 (-1)).bits = 0x3fb999999999999a := by decide +kernel
example : (Numeral.decimal 5 (-324)).bits = 1 := by decide +kernel
example : (Numeral.decimal 9007199254740993 0).bits = 0x4340000000000000 := by decide +kernel
example : (Numeral.decimal 2 308).bits = infinityBits := by decide +kernel

end Peg.Arithmetic
