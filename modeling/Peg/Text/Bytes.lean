-- Texts are lists of characters, and a place in a text is counted in bytes of UTF-8.
-- A place is good when a character starts there or the text ends there: the text can
-- be cut at the good places and nowhere else.

namespace Peg.Text

/-! ## Length and cuts -/

/-- The number of bytes that a text takes in UTF-8. -/
def byteLength : List Char → Nat
  | [] => 0
  | c :: cs => c.utf8Size + byteLength cs

/-- What is left of a text after its first `n` bytes, if it can be cut there. -/
def after? : Nat → List Char → Option (List Char)
  | 0, cs => some cs
  | _ + 1, [] => none
  | n + 1, c :: cs => if c.utf8Size ≤ n + 1 then after? (n + 1 - c.utf8Size) cs else none

/-- The first `n` bytes of a text, if it can be cut there. -/
def before? : Nat → List Char → Option (List Char)
  | 0, _ => some []
  | _ + 1, [] => none
  | n + 1, c :: cs =>
    if c.utf8Size ≤ n + 1 then (before? (n + 1 - c.utf8Size) cs).map (c :: ·) else none

/-- The part of a text from byte `start` up to byte `stop`. There is none when the text
cannot be cut at one of the two, or when they come in the wrong order. -/
def slice? (start stop : Nat) (cs : List Char) : Option (List Char) :=
  if start ≤ stop then (after? start cs).bind (before? (stop - start)) else none

/-! ## Their laws -/

@[simp] theorem byteLength_nil : byteLength [] = 0 := rfl

@[simp] theorem byteLength_cons (c : Char) (cs : List Char) :
    byteLength (c :: cs) = c.utf8Size + byteLength cs := rfl

@[simp] theorem byteLength_append (u v : List Char) :
    byteLength (u ++ v) = byteLength u + byteLength v := by
  induction u with
  | nil => simp
  | cons c u ih => simp [ih, Nat.add_assoc]

/-- Every character takes at least one byte. -/
theorem length_le_byteLength (cs : List Char) : cs.length ≤ byteLength cs := by
  induction cs with
  | nil => simp
  | cons c cs ih => have := c.utf8Size_pos; simp; omega

@[simp] theorem byteLength_eq_zero {cs : List Char} : byteLength cs = 0 ↔ cs = [] := by
  cases cs with
  | nil => simp
  | cons c cs => have := c.utf8Size_pos; simp; omega

@[simp] theorem after?_zero (cs : List Char) : after? 0 cs = some cs := by
  cases cs <;> rfl

/-- Past the first character, the cut moves on by its size. -/
theorem after?_cons (n : Nat) (c : Char) (cs : List Char) :
    after? (c.utf8Size + n) (c :: cs) = after? n cs := by
  have hc := c.utf8Size_pos
  obtain ⟨m, hm⟩ : ∃ m, c.utf8Size + n = m + 1 := ⟨c.utf8Size + n - 1, by omega⟩
  rw [hm]
  simp only [after?]
  rw [if_pos (by omega)]
  congr 1
  omega

/-- Cutting a text after one of its beginnings leaves the rest. -/
@[simp] theorem after?_append (u v : List Char) : after? (byteLength u) (u ++ v) = some v := by
  induction u with
  | nil => simp
  | cons c u ih => simp only [byteLength_cons, List.cons_append, after?_cons, ih]

/-- A cut always splits the text in two. -/
theorem exists_append_of_after? {n : Nat} {cs r : List Char} (h : after? n cs = some r) :
    ∃ u, cs = u ++ r ∧ byteLength u = n := by
  induction cs generalizing n with
  | nil =>
    cases n with
    | zero => simp_all
    | succ n => simp [after?] at h
  | cons c cs ih =>
    cases n with
    | zero => exact ⟨[], by simp_all⟩
    | succ n =>
      simp only [after?] at h
      split at h
      · next hle =>
        obtain ⟨u, hu, hn⟩ := ih h
        exact ⟨c :: u, by simp [hu], by simp [hn]; omega⟩
      · simp at h

/-- Two cuts, one after the other. -/
theorem after?_add {m n : Nat} {cs r : List Char} (h : after? m cs = some r) :
    after? (m + n) cs = after? n r := by
  obtain ⟨u, rfl, rfl⟩ := exists_append_of_after? h
  clear h
  induction u with
  | nil => simp
  | cons c u ih => rw [byteLength_cons, Nat.add_assoc, List.cons_append, after?_cons, ih]

/-- A cut never lies past the end of the text. -/
theorem le_byteLength_of_after? {n : Nat} {cs r : List Char} (h : after? n cs = some r) :
    n ≤ byteLength cs := by
  obtain ⟨u, rfl, rfl⟩ := exists_append_of_after? h
  simp

theorem before?_cons (n : Nat) (c : Char) (cs : List Char) :
    before? (c.utf8Size + n) (c :: cs) = (before? n cs).map (c :: ·) := by
  have hc := c.utf8Size_pos
  obtain ⟨m, hm⟩ : ∃ m, c.utf8Size + n = m + 1 := ⟨c.utf8Size + n - 1, by omega⟩
  rw [hm]
  simp only [before?]
  rw [if_pos (by omega)]
  congr 2
  omega

@[simp] theorem before?_append (u v : List Char) : before? (byteLength u) (u ++ v) = some u := by
  induction u with
  | nil => cases v <;> rfl
  | cons c u ih => simp [before?_cons, ih]

/-- The part between two cuts is what stands between them. -/
theorem slice?_append (u v w : List Char) :
    slice? (byteLength u) (byteLength u + byteLength v) (u ++ (v ++ w)) = some v := by
  simp [slice?]

end Peg.Text
