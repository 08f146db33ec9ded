-- The flags of a regular expression: which sets there are under them, and what of the text they
-- make blank.
import Peg.Regex.Basic
import Peg.Text.Blank
import Peg.Text.CaseFold

namespace Peg.Regex

open Text

/-! ## Flags -/

/-- The flags that are set at some place of an expression. -/
structure Flags where
  ignoreCase : Bool := false
  multiLine : Bool := false
  dotMatchesNewline : Bool := false
  swapGreed : Bool := false
  verbose : Bool := false
  unicode : Bool := true

/-- Sets or clears the flag of a letter. -/
def Flags.set? (f : Flags) (value : Bool) : Char → Option Flags
  | 'i' => some { f with ignoreCase := value }
  | 'm' => some { f with multiLine := value }
  | 's' => some { f with dotMatchesNewline := value }
  | 'U' => some { f with swapGreed := value }
  | 'x' => some { f with verbose := value }
  | 'u' => some { f with unicode := value }
  | _ => none

/-! ## Sets -/

/-- The ASCII code points. -/
def ascii : CodeSet := ⟨[(0, 0x7f)]⟩

def isAscii (s : CodeSet) : Bool := (s.difference ascii).isEmpty

/-- The set as it counts under the flags: without regard to case, all cases are in it. Among
bytes only the letters of ASCII have a case. -/
def Flags.fold (f : Flags) (s : CodeSet) : CodeSet :=
  if !f.ignoreCase then s
  else if f.unicode then s.foldClosure
  else s.union ((s.inter ascii).foldClosure.inter ascii)

/-- What is not in the set, among characters or among bytes. -/
def Flags.complement (f : Flags) (s : CodeSet) : CodeSet :=
  if f.unicode then s.complement else s.complementUpTo 0xff

/-- Closes a class: it takes in all cases where case does not count, and then turns into
what is not in it if it is negated. -/
def Flags.close (f : Flags) (negated : Bool) (s : CodeSet) : CodeSet :=
  if negated then f.complement (f.fold s) else f.fold s

/-- The set itself, if it may be written out. Among bytes only ASCII may. -/
def Flags.accept? (f : Flags) (s : CodeSet) : Option CodeSet :=
  if f.unicode || isAscii s then some s else none

/-- The expression of a set. Bytes that are ASCII are characters. -/
def Flags.oneOf (f : Flags) (s : CodeSet) : Regex :=
  if f.unicode || isAscii s then .oneOf s else .byteOf s

/-- The expression of a character that stands for itself, and for its other cases if case does
not count. -/
def Flags.literal? (f : Flags) (c : Char) : Option Regex :=
  if !f.unicode && c.toNat ≥ 0x80 then none
  else
    let s := f.fold (.single c)
    some (if s.size = 1 then .literal c else .oneOf s)

/-- The expression of a dot. It stands for characters, so there is none among bytes. -/
def Flags.dot? (f : Flags) : Option Regex :=
  if f.unicode then
    some (.oneOf (if f.dotMatchesNewline then .all else (CodeSet.single '\n').complement))
  else none

/-! ## Blanks in verbose mode -/

/-- The text without the white space and the comments that it starts with. -/
def skipBlanks : Bool → List Char → List Char
  | _, [] => []
  | true, c :: cs => skipBlanks (c != '\n') cs
  | false, c :: cs =>
    if isBlank c then skipBlanks false cs
    else if c = '#' then skipBlanks true cs
    else c :: cs

/-- Skips what does not count under the flags. -/
def Flags.skip (f : Flags) (cs : List Char) : List Char :=
  if f.verbose then skipBlanks false cs else cs

end Peg.Regex
