-- A cursor walks over a text character by character. Its position is a byte offset
-- at which the text can be cut, and this stands in its type.
import Peg.Text.Bytes

namespace Peg.Text

/-! ## The cursor -/

/-- A place in a text, with the part of the text that is still to be read. -/
structure Cursor where
  input : List Char
  position : Nat
  rest : List Char
  /-- The text can be cut at the position, and the rest is what follows the cut. -/
  onBoundary : after? position input = some rest

namespace Cursor

/-- The cursor at the start of a text. -/
def ofText (input : List Char) : Cursor := ⟨input, 0, input, after?_zero input⟩

/-- Whether the whole text has been read. -/
def atEnd (c : Cursor) : Bool := c.rest.isEmpty

/-- The next character and the cursor behind it. At the end of the text there is none. -/
def read? (c : Cursor) : Option (Char × Cursor) :=
  match h : c.rest with
  | [] => none
  | x :: rest =>
    some (x, ⟨c.input, c.position + x.utf8Size, rest, by
      have hx := after?_cons 0 x rest
      rw [after?_add c.onBoundary, h]
      simpa using hx⟩)

/-- The cursor at another position of the same text, if the text can be cut there. -/
def seek? (c : Cursor) (position : Nat) : Option Cursor :=
  match h : after? position c.input with
  | none => none
  | some rest => some ⟨c.input, position, rest, h⟩

/-- The cursor so many bytes further on, if the text can be cut there. -/
def advance? (c : Cursor) (count : Nat) : Option Cursor :=
  match h : after? count c.rest with
  | none => none
  | some rest => some ⟨c.input, c.position + count, rest, by rw [after?_add c.onBoundary, h]⟩

/-- The text between two positions. -/
def substring? (c : Cursor) (start stop : Nat) : Option (List Char) :=
  slice? start stop c.input

/-- Reads `text` character by character. The cursor behind it is the answer; there is
none as soon as another character, or the end, comes up. -/
def readText? : List Char → Cursor → Option Cursor
  | [], c => some c
  | expected :: more, c =>
    match c.read? with
    | none => none
    | some (x, next) => if x = expected then readText? more next else none

/-! ## Small facts -/

@[simp] theorem input_ofText (input : List Char) : (ofText input).input = input := rfl

@[simp] theorem position_ofText (input : List Char) : (ofText input).position = 0 := rfl

@[simp] theorem rest_ofText (input : List Char) : (ofText input).rest = input := rfl

/-- A cursor is known by its text and its position. -/
theorem ext_position {c d : Cursor} (hi : c.input = d.input) (hp : c.position = d.position) :
    c = d := by
  obtain ⟨ci, cp, cr, hc⟩ := c
  obtain ⟨di, dp, dr, hd⟩ := d
  simp only at hi hp
  subst hi hp
  obtain rfl : cr = dr := by rw [hc] at hd; exact Option.some.inj hd
  rfl

/-- The position never lies past the end of the text. -/
theorem position_le (c : Cursor) : c.position ≤ byteLength c.input :=
  le_byteLength_of_after? c.onBoundary

/-- The text is what has been read and the rest, and the position is the length of what
has been read. -/
theorem exists_read (c : Cursor) : ∃ u, c.input = u ++ c.rest ∧ byteLength u = c.position :=
  exists_append_of_after? c.onBoundary

theorem read?_eq_none_iff {c : Cursor} : c.read? = none ↔ c.rest = [] := by
  unfold read?
  split <;> simp_all

theorem read?_of_rest {c : Cursor} {x : Char} {rest : List Char} (h : c.rest = x :: rest) :
    ∃ d, c.read? = some (x, d) ∧ d.input = c.input ∧ d.rest = rest ∧
      d.position = c.position + x.utf8Size := by
  unfold read?
  split
  · next h' => rw [h] at h'; cases h'
  · next y r h' =>
    rw [h] at h'
    cases h'
    exact ⟨_, rfl, rfl, rfl, rfl⟩

/-- Seeking works at exactly the places where the text can be cut. -/
theorem seek?_eq_none_iff {c : Cursor} {n : Nat} :
    c.seek? n = none ↔ after? n c.input = none := by
  unfold seek?
  split <;> simp_all

end Cursor

end Peg.Text
