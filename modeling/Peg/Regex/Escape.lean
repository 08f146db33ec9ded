-- The small parts of a regular expression's text: numbers and escapes. A reader here takes a text
-- and gives what it has read with the rest of the text, or nothing when the text is malformed.
import Peg.Regex.Flags
import Peg.Text.Named
import Peg.Text.Word

namespace Peg.Regex

open Text

/-! ## Numbers -/

def hexValue? (c : Char) : Option Nat :=
  if '0' ≤ c ∧ c ≤ '9' then some (c.toNat - '0'.toNat)
  else if 'a' ≤ c ∧ c ≤ 'f' then some (c.toNat - 'a'.toNat + 10)
  else if 'A' ≤ c ∧ c ≤ 'F' then some (c.toNat - 'A'.toNat + 10)
  else none

/-- The character of a code point, if it has one. -/
def charOf? (n : Nat) : Option Char :=
  if n.isValidChar then some (Char.ofNat n) else none

/-- Reads exactly so many hexadecimal digits. -/
def readHexDigits (f : Flags) : Nat → Nat → List Char → Option (Nat × List Char)
  | 0, value, cs => some (value, cs)
  | _ + 1, _, [] => none
  | n + 1, value, c :: cs => do
    let digit ← hexValue? c
    readHexDigits f n (value * 16 + digit) (f.skip cs)

/-- Reads hexadecimal digits up to a closing brace. -/
def readHexBraces (f : Flags) : Nat → Nat → List Char → Option (Nat × List Char)
  | 0, _, _ => none
  | _ + 1, _, [] => none
  | fuel + 1, value, c :: cs => do
    if c = '}' then return (value, cs)
    let digit ← hexValue? c
    readHexBraces f fuel (value * 16 + digit) (f.skip cs)

/-- Reads the character that so many hexadecimal digits, or digits in braces, stand for. -/
def readHex (f : Flags) (digits : Nat) (cs : List Char) : Option (Char × List Char) := do
  match f.skip cs with
  | '{' :: cs =>
    let cs := f.skip cs
    if cs.head? = some '}' then none
    let (value, rest) ← readHexBraces f cs.length 0 cs
    let c ← charOf? value
    return (c, rest)
  | cs =>
    let (value, rest) ← readHexDigits f digits 0 cs
    let c ← charOf? value
    return (c, rest)

/-- Reads the decimal digits that come next. -/
def readDigits (f : Flags) : Nat → List Char → List Char → List Char × List Char
  | 0, digits, cs => (digits, cs)
  | _ + 1, digits, [] => (digits, [])
  | fuel + 1, digits, c :: cs =>
    if c.isDigit then readDigits f fuel (digits ++ [c]) (f.skip cs) else (digits, c :: cs)

/-- Reads a decimal number below `2 ^ 32`, with white space around it. -/
def readDecimal (f : Flags) (cs : List Char) : Option (Nat × List Char) :=
  let cs := cs.dropWhile isBlank
  let (digits, rest) := readDigits f cs.length [] cs
  let value := digits.foldl (fun n c => n * 10 + (c.toNat - '0'.toNat)) 0
  if digits.isEmpty || value ≥ 1 <<< 32 then none else some (value, rest.dropWhile isBlank)

/-! ## Escapes -/

/-- What one character or one escape stands for. -/
inductive Atom where
  | literal (c : Char)
  | set (s : CodeSet)
  | assertion (condition : Assertion)

/-- Characters that stand for themselves behind a backslash. -/
def isPunctuation (c : Char) : Bool := "\\.+*?()|[]\x7b\x7d^$#&-~".toList.contains c

/-- The set of a class letter, or of what is not in it. Its cases are in it already. -/
def Flags.letterClass (f : Flags) (negated : Bool) (unicode bytes : CodeSet) : Atom :=
  let s := if f.unicode then unicode else bytes
  .set (if negated then f.complement s else s)

def asciiDigits : CodeSet := ⟨[(0x30, 0x39)]⟩

def asciiBlanks : CodeSet := ⟨[(0x9, 0xd), (0x20, 0x20)]⟩

def asciiWord : CodeSet := ⟨[(0x30, 0x39), (0x41, 0x5a), (0x5f, 0x5f), (0x61, 0x7a)]⟩

/-! ## Properties -/

/-- Reads a name up to its closing brace. `name` holds what has been read, in reverse. -/
def readBraced (f : Flags) : Nat → List Char → List Char → Option (List Char × List Char)
  | 0, _, _ => none
  | fuel + 1, name, cs =>
    match f.skip cs with
    | [] => none
    | '}' :: rest => some (name.reverse, rest)
    | c :: rest => readBraced f fuel (c :: name) rest

/-- The text before and behind the first place where `mark` stands. -/
def splitAt? (mark : List Char) : List Char → Option (List Char × List Char)
  | [] => none
  | c :: cs =>
    if mark.isPrefixOf (c :: cs) then some ([], (c :: cs).drop mark.length)
    else (splitAt? mark cs).map fun (before, rest) => (c :: before, rest)

/-- The set of a property that is written as a name, or as a name and a value. -/
def propertySet? (text : List Char) : Option CodeSet :=
  match splitAt? ['!', '='] text <|> splitAt? [':'] text <|> splitAt? ['='] text with
  | some (property, value) => CodeSet.valued? property value
  | none => CodeSet.named? text

/-- Reads the name of a property: one letter, or any name in braces. The property, or what has
it not if it is negated, must have characters. -/
def readProperty (f : Flags) (negated : Bool) (cs : List Char) : Option (Atom × List Char) := do
  let (name, rest) ←
    match f.skip cs with
    | '{' :: cs => readBraced f (cs.length + 1) [] cs
    | c :: cs => some ([c], cs)
    | [] => none
  let s ← propertySet? name
  let s := f.close negated s
  if f.unicode && !s.isEmpty then return (.set s, rest) else none

/-! ## All escapes -/

/-- Reads what follows a backslash. -/
def readEscape (f : Flags) : List Char → Option (Atom × List Char)
  | [] => none
  | 'x' :: cs => (readHex f 2 cs).map fun (c, rest) => (.literal c, rest)
  | 'u' :: cs => (readHex f 4 cs).map fun (c, rest) => (.literal c, rest)
  | 'U' :: cs => (readHex f 8 cs).map fun (c, rest) => (.literal c, rest)
  | 'd' :: cs => some (f.letterClass false digits asciiDigits, cs)
  | 'D' :: cs => some (f.letterClass true digits asciiDigits, cs)
  | 's' :: cs => some (f.letterClass false blanks asciiBlanks, cs)
  | 'S' :: cs => some (f.letterClass true blanks asciiBlanks, cs)
  | 'w' :: cs => some (f.letterClass false wordCharacters asciiWord, cs)
  | 'W' :: cs => some (f.letterClass true wordCharacters asciiWord, cs)
  | 'p' :: cs => readProperty f false cs
  | 'P' :: cs => readProperty f true cs
  | 'a' :: cs => some (.literal '\x07', cs)
  | 'f' :: cs => some (.literal '\x0c', cs)
  | 't' :: cs => some (.literal '\t', cs)
  | 'n' :: cs => some (.literal '\n', cs)
  | 'r' :: cs => some (.literal '\r', cs)
  | 'v' :: cs => some (.literal '\x0b', cs)
  | 'A' :: cs => some (.assertion .textStart, cs)
  | 'z' :: cs => some (.assertion .textEnd, cs)
  | 'b' :: cs => some (.assertion (if f.unicode then .wordBoundary else .asciiWordBoundary), cs)
  | 'B' :: cs => if f.unicode then some (.assertion .noWordBoundary, cs) else none
  | c :: cs => if isPunctuation c || (c = ' ' && f.verbose) then some (.literal c, cs) else none

end Peg.Regex
