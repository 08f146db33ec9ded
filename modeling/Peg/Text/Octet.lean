-- The bytes of a text one by one, each with the characters whose ends it is. Read backward, a
-- text has the same bytes, and what was the start of a character is its end.
import Peg.Text.ByteBlocks

namespace Peg.Text

/-- A byte of a text. -/
structure Octet where
  value : Nat
  /-- The character that begins with this byte. -/
  opens : Option Char
  /-- The character that ends with this byte. -/
  closes : Option Char

namespace Octet

/-- The bytes of a character that are still to come, none of which is its first. -/
def restOf (c : Char) : List Nat → List Octet
  | [] => []
  | [value] => [⟨value, none, some c⟩]
  | value :: more => ⟨value, none, none⟩ :: restOf c more

/-- The bytes of a character. -/
def ofChar (c : Char) : List Octet :=
  match utf8Bytes c.toNat with
  | [] => []
  | [value] => [⟨value, some c, some c⟩]
  | value :: more => ⟨value, some c, none⟩ :: restOf c more

def ofText (text : List Char) : List Octet := text.flatMap ofChar

/-- The byte as it is read backward. -/
def swap (o : Octet) : Octet := ⟨o.value, o.closes, o.opens⟩

/-- Bytes in the order in which they are read backward. -/
def backward (octets : List Octet) : List Octet := (octets.map swap).reverse

def isAscii (o : Octet) : Bool := o.value < 0x80

def isNewline (o : Octet) : Bool := o.value == 0x0a

/-- Whether a byte belongs to words: it is a letter, a digit or a low line of ASCII. -/
def isWord (o : Octet) : Bool :=
  (0x30 ≤ o.value && o.value ≤ 0x39) || (0x41 ≤ o.value && o.value ≤ 0x5a) || o.value == 0x5f ||
    (0x61 ≤ o.value && o.value ≤ 0x7a)

end Octet

end Peg.Text
