-- A range compares characters by their bytes. UTF-8 keeps the order of the code points, so this
-- is the same as to compare the characters themselves.
import Peg.Matching.Match

namespace Peg.Match

theorem bytesLe_nil (bs : List UInt8) : bytesLe [] bs = true := by
  rw [bytesLe]

/-- Bytes that are given as numbers are compared as these. -/
theorem bytesLe_ofNat_cons {a b : Nat} (ha : a < 256) (hb : b < 256) (as bs : List UInt8) :
    bytesLe (UInt8.ofNat a :: as) (UInt8.ofNat b :: bs) = true ↔
      a < b ∨ a = b ∧ bytesLe as bs = true := by
  have heq : UInt8.ofNat a = UInt8.ofNat b ↔ a = b := by
    rw [← UInt8.toNat_inj, UInt8.toNat_ofNat_of_lt' ha, UInt8.toNat_ofNat_of_lt' hb]
  have hlt : UInt8.ofNat a < UInt8.ofNat b ↔ a < b := by
    rw [UInt8.lt_iff_toNat_lt, UInt8.toNat_ofNat_of_lt' ha, UInt8.toNat_ofNat_of_lt' hb]
  rw [bytesLe]
  by_cases h : a = b
  · simp [h]
  · rw [if_neg (mt heq.1 h), decide_eq_true_iff, hlt]
    simp [h]

theorem toNat_lt_of_valid (c : Char) : c.val.toNat < 0x110000 := by
  have h : c.val.toNat < 0xd800 ∨ 0xdfff < c.val.toNat ∧ c.val.toNat < 0x110000 := c.valid
  omega

/-- UTF-8 keeps the order of the code points. -/
theorem bytesLe_utf8EncodeChar (c d : Char) :
    bytesLe (String.utf8EncodeChar c) (String.utf8EncodeChar d) = true ↔ c ≤ d := by
  have hc := toNat_lt_of_valid c
  have hd := toNat_lt_of_valid d
  rw [Char.le_def, UInt32.le_iff_toNat_le]
  unfold String.utf8EncodeChar
  generalize c.val.toNat = m at hc
  generalize d.val.toNat = n at hd
  dsimp only
  -- the first of four bytes has room for more than the characters that there are
  have hm' : m / 262144 % 8 = m / 262144 := by omega
  have hn' : n / 262144 % 8 = n / 262144 := by omega
  -- one to four bytes on either side
  repeat' split
  all_goals
    simp (disch := omega) only [bytesLe_ofNat_cons, bytesLe_nil, eq_self, and_true]
    omega

theorem inRange_eq_true_iff {lo hi c : Char} : inRange lo hi c = true ↔ lo ≤ c ∧ c ≤ hi := by
  rw [inRange, Bool.and_eq_true, bytesLe_utf8EncodeChar, bytesLe_utf8EncodeChar]

end Peg.Match
