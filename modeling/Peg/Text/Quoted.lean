-- Texts in quotes, for messages: what cannot be seen is shown by an escape, so that a
-- message stays on one line and two different texts never look the same.
import Peg.Text.Unprintable

namespace Peg.Text

/-! ## Escapes -/

/-- The number of a character in braces, as `\u` escapes give it. -/
def escapeByNumber (c : Char) : List Char :=
  '\\' :: 'u' :: '{' :: Nat.toDigits 16 c.toNat ++ ['}']

/-- A character as it stands between two quotes `quote`. -/
def escape (quote c : Char) : List Char :=
  if c = '\x00' then ['\\', '0']
  else if c = '\t' then ['\\', 't']
  else if c = '\r' then ['\\', 'r']
  else if c = '\n' then ['\\', 'n']
  else if c = '\\' then ['\\', '\\']
  else if c = quote then ['\\', c]
  else if unprintable.has c then escapeByNumber c
  else [c]

/-- A text in double quotes. Single quotes stand in it as they are. -/
def quoted (cs : List Char) : String :=
  String.ofList ('"' :: cs.flatMap (escape '"') ++ ['"'])

/-- A character in single quotes. A double quote stands in it as it is. -/
def quotedChar (c : Char) : String := String.ofList ('\'' :: escape '\'' c ++ ['\''])

/-! ## Examples -/

example : quoted "a\"b'\t".toList = "\"a\\\"b'\\t\"" := by decide +kernel
example : quotedChar '\'' = "'\\''" := by decide +kernel
example : quoted ['\u0301'] = "\"\\u\x7b301\x7d\"" := by decide +kernel

end Peg.Text
