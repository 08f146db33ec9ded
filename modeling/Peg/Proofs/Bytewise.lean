-- What the rules for a text and for a single character match, told by bytes and code points. A text
-- matches where its bytes stand, and a character where its code point lies in between.
import Peg.Proofs.Answers

namespace Peg

open Text

/-! ## Texts and their bytes -/

/-- The bytes of a text stand at a position of the input, which is counted in bytes as well. -/
def StandsAt (text : String) (position : Nat) (input : List Char) : Prop :=
  ∃ before behind : ByteArray, before.size = position ∧
    input.utf8Encode = before ++ (text.toByteArray ++ behind)

section

variable {text : String} {s : MatchState} {x y : List Char}

theorem size_utf8Encode (x : List Char) : x.utf8Encode.size = byteLength x := by
  induction x with
  | nil => rfl
  | cons c x ih =>
    rw [List.utf8Encode_cons, ByteArray.size_append, ih, List.utf8Encode_singleton,
      List.size_toByteArray, String.length_utf8EncodeChar, byteLength_cons]

theorem byteLength_toList (text : String) : byteLength text.toList = text.utf8ByteSize := by
  rw [← size_utf8Encode, String.utf8Encode_toList, String.size_toByteArray]

/-- No character begins with the bytes of another one, so bytes begin as characters do. -/
theorem begins_iff_bytes :
    text.toList <+: x ↔ ∃ behind : ByteArray, x.utf8Encode = text.toByteArray ++ behind := by
  constructor
  · rintro ⟨y, rfl⟩
    exact ⟨y.utf8Encode, by rw [List.utf8Encode_append, String.utf8Encode_toList]⟩
  · rintro ⟨behind, h⟩
    rw [← String.utf8Encode_toList] at h
    exact List.isPrefix_of_utf8Encode_append_eq_utf8Encode behind h.symm

/-- Where the text can be cut, what stands there is what the rest begins with. -/
theorem standsAt_iff (c : Cursor) : StandsAt text c.position c.input ↔ text.toList <+: c.rest := by
  obtain ⟨u, hu, hposition⟩ := c.exists_read
  have hsize : u.utf8Encode.size = c.position := by rw [size_utf8Encode, hposition]
  rw [begins_iff_bytes, StandsAt, hu, List.utf8Encode_append]
  constructor
  · rintro ⟨before, behind, hbefore, h⟩
    have hsame : u.utf8Encode = before := ByteArray.append_inj_left h (by rw [hsize, hbefore])
    rw [hsame] at h
    exact ⟨behind, (ByteArray.append_right_inj before).1 h⟩
  · rintro ⟨behind, h⟩
    exact ⟨u.utf8Encode, behind, hsize, by rw [h]⟩

/-- A cursor lies as many bytes behind another one as were read in between. -/
theorem position_of_rest {c d : Cursor} (hinput : d.input = c.input) (h : c.rest = x ++ d.rest) :
    d.position = c.position + byteLength x := by
  obtain ⟨u, hu⟩ := c.rest_suffix
  rw [d.position_eq, c.position_eq, hinput, ← hu, h]
  simp only [offset, byteLength_append]
  omega

/-! ## Reading a text -/

/-- Reads on as long as the text comes up, character by character. The position moves with it, up to
the first difference and behind it. -/
def Match.readOn : List Char → Match Bool
  | [] => return true
  | expected :: more => do
    let (c, next) := (← get).read
    set next
    if c = some expected then readOn more else return false

/-- Reading on comes to the cursor behind the text, or else to one at a difference. -/
theorem readOn_spec (l : List Char) (s : MatchState) :
    match Cursor.readText? l s.cursor with
    | some d => Match.readOn l s = .ok true { s with cursor := d }
    | none => ∃ d : Cursor, d.input = s.cursor.input ∧
      Match.readOn l s = .ok false { s with cursor := d } := by
  induction l generalizing s with
  | nil => rfl
  | cons expected more ih =>
    have hset : ∀ next : MatchState, (set next : Match Unit) s = .ok ⟨⟩ next := fun _ => rfl
    simp only [Match.readOn, Match.bind_apply, Match.get_apply, hset, Cursor.readText?]
    cases hrest : s.cursor.rest with
    | nil =>
      have hend := Cursor.read?_eq_none_iff.2 hrest
      have hread : s.read = (none, s) := by rw [MatchState.read, hend]
      simp only [hread, hend]
      exact ⟨s.cursor, rfl, rfl⟩
    | cons c x =>
      obtain ⟨d, hd, hinput, -⟩ := Cursor.read?_of_rest hrest
      have hread : s.read = (some c, { s with cursor := d }) := by rw [MatchState.read, hd]
      simp only [hread, hd, Option.some.injEq]
      by_cases hc : c = expected
      · simp only [if_pos hc]
        have hmore := ih { s with cursor := d }
        cases htext : Cursor.readText? more d with
        | some d' =>
          simp only [htext] at hmore
          exact hmore
        | none =>
          simp only [htext] at hmore
          obtain ⟨d', hinput', hres⟩ := hmore
          exact ⟨d', hinput'.trans hinput, hres⟩
      · simp only [if_neg hc]
        exact ⟨d, hinput, rfl⟩

/-- A literal reads on through its text, and goes back to where it began if another character or the
end of the input comes up. -/
theorem literal_eq_readOn (text : String) :
    Match.literal text = (do
      let entry ← get
      Match.keepIf entry (← Match.readOn text.toList)) := by
  funext s
  have hread := readOn_spec text.toList s
  simp only [Match.literal, Match.bind_apply, Match.get_apply]
  cases htext : Cursor.readText? text.toList s.cursor with
  | some d =>
    simp only [htext] at hread
    rw [hread]
    rfl
  | none =>
    simp only [htext] at hread
    obtain ⟨d, hinput, hres⟩ := hread
    have hback := Match.keepIf_apply (s := s) (t := { s with cursor := d }) hinput false
    have hsame := MatchState.atRest_eq (s := { s with cursor := d }) (d := s.cursor) hinput.symm
    simp only [hres, hback, Bool.false_eq_true, if_false, hsame]
    rfl

/-! ## Literals -/

/-- A literal is read on through, and matches exactly where its bytes stand in the input. Then the
position is behind them, as many bytes further on as the text has; otherwise nothing has changed.
Any position of a match is meant here, since all of them are ones where the input can be cut. -/
theorem a_literal_goes_by_its_bytes (text : String) (s : MatchState) :
    Match.literal text = (do
      let entry ← get
      Match.keepIf entry (← Match.readOn text.toList)) ∧
    ((StandsAt text s.position s.cursor.input ∧ ∃ d : Cursor, d.input = s.cursor.input ∧
        d.position = s.position + text.utf8ByteSize ∧
        Match.literal text s = .ok true { s with cursor := d }) ∨
      ¬ StandsAt text s.position s.cursor.input ∧ Match.literal text s = .ok false s) := by
  refine ⟨literal_eq_readOn text, ?_⟩
  have hspec := readText?_spec text.toList s.cursor
  have hstands : StandsAt text s.position s.cursor.input ↔ text.toList <+: s.cursor.rest :=
    standsAt_iff s.cursor
  simp only [Match.literal, Match.bind_apply, Match.get_apply]
  cases htext : Cursor.readText? text.toList s.cursor with
  | none =>
    simp only [htext] at hspec
    refine .inr ⟨?_, moveTo_none s⟩
    rw [hstands]
    rintro ⟨y, hy⟩
    rw [List.isPrefixOf?_eq_some_iff_append_eq.2 hy] at hspec
    cases hspec
  | some d =>
    simp only [htext] at hspec
    have hrest : text.toList ++ d.rest = s.cursor.rest :=
      List.append_eq_of_isPrefixOf?_eq_some hspec.2
    refine .inl ⟨hstands.2 ⟨d.rest, hrest⟩, d, hspec.1, ?_, rfl⟩
    rw [← byteLength_toList]
    exact position_of_rest hspec.1 hrest.symm

/-! ## Ranges -/

variable {σ : Type} {g : Arena σ} {id : RuleId} {lo hi c : Char} {matched : Bool}

/-- The code point of a character lies between those of two others. -/
def Between (lo hi c : Char) : Prop := lo.toNat ≤ c.toNat ∧ c.toNat ≤ hi.toNat

instance : Decidable (Between lo hi c) := inferInstanceAs (Decidable (_ ∧ _))

/-- Where no captures are left, an answer changes nothing but the place and the log. -/
theorem Answers.eval_same (h : Answers g s.cursor.input (s.attempt id) matched y []) :
    ∃ d log, Match.eval g id s = .ok matched { s with cursor := d, log := log } ∧
      d.input = s.cursor.input ∧ d.rest = y := by
  obtain ⟨inside, hrun, hnone⟩ := h
  obtain ⟨t, hres, hreach⟩ := hrun.eval_ok
  have hcaptures : t.captures = s.captures := by
    rw [hreach.captures, Course.captures, hnone]
    exact List.append_nil _
  have hrecorded : t.recorded = s.recorded := List.reverse_inj.1 hcaptures
  have hdepth : t.depth = s.depth := by
    rw [hreach.depth, hrun.alone.unclosed_eq_zero rfl, Nat.add_zero]
  have hsame : t = { s with cursor := t.cursor, log := t.log } := by
    rw [← hrecorded, ← hdepth, ← hreach.active, ← hreach.trace]
  exact ⟨t.cursor, t.log, hsame ▸ hres, hreach.input, hreach.rest⟩

/-- The rule for a range compares the bytes of characters. It matches exactly where there is a next
character whose code point lies between the bounds, and moves behind the bytes of it; otherwise it
stays where it is. Nothing else changes but the log. -/
theorem a_range_goes_by_code_points (hr : g.rule? id = some (.range lo hi)) (s : MatchState) :
    (∃ c y d log, s.cursor.rest = c :: y ∧ Between lo hi c ∧
        Match.eval g id s = .ok true { s with cursor := d, log := log } ∧
        d.input = s.cursor.input ∧ d.rest = y ∧
        d.position = s.position + (String.utf8EncodeChar c).length) ∨
      ∃ log, (∀ c ∈ s.cursor.rest.head?, ¬ Between lo hi c) ∧
        Match.eval g id s = .ok false { s with log := log } := by
  by_cases hnone : ∀ c ∈ s.cursor.rest.head?, ¬ Between lo hi c
  · have hanswer : Answers g s.cursor.input (s.attempt id) false s.cursor.rest [] :=
      .range_fails hr hnone
    obtain ⟨d, log, hres, hinput, hd⟩ := hanswer.eval_same
    have hstay : d = s.cursor := Cursor.ext_rest hinput hd
    exact .inr ⟨log, hnone, hstay ▸ hres⟩
  · simp only [not_forall, not_not] at hnone
    obtain ⟨c, hc, hbetween⟩ := hnone
    obtain ⟨y, hrest⟩ := List.head?_eq_some_iff.1 hc
    have hanswer : Answers g s.cursor.input ⟨id, s.active, c :: y⟩ true y [] :=
      .range hr hbetween.1 hbetween.2
    rw [← hrest] at hanswer
    obtain ⟨d, log, hres, hinput, hd⟩ := hanswer.eval_same
    refine .inl ⟨c, y, d, log, hrest, hbetween, hres, hinput, hd, ?_⟩
    have hread : s.cursor.rest = [c] ++ d.rest := by
      rw [hd]
      exact hrest
    rw [position_of_rest hinput hread, byteLength_cons, byteLength_nil,
      String.length_utf8EncodeChar]
    rfl

end

/-- A single range, from a character of one byte to one of three. -/
def fromLetterToSign : Arena Unit where
  rules := #[.range 'z' '€']
  names := []
  whitespace := ⟨0⟩
  warnings := []

/-- A character of two bytes lies in between, and one of four bytes does not. -/
theorem a_range_over_lengths :
    (∃ d log, Match.eval fromLetterToSign ⟨0⟩ (.ofText ['é'] false) =
        .ok true { MatchState.ofText ['é'] false with cursor := d, log := log } ∧
      d.position = 2) ∧
    ∃ log, Match.eval fromLetterToSign ⟨0⟩ (.ofText ['😀'] false) =
      .ok false { MatchState.ofText ['😀'] false with log := log } := by
  have hr : fromLetterToSign.rule? ⟨0⟩ = some (.range 'z' '€') := rfl
  constructor
  · rcases a_range_goes_by_code_points hr (.ofText ['é'] false) with
      ⟨c, y, d, log, hrest, -, hres, -, -, hposition⟩ | ⟨log, hnone, -⟩
    · cases hrest
      exact ⟨d, log, hres, hposition⟩
    · exact absurd (by decide) (hnone 'é' rfl)
  · rcases a_range_goes_by_code_points hr (.ofText ['😀'] false) with
      ⟨c, y, d, log, hrest, hbetween, -⟩ | ⟨log, -, hres⟩
    · cases hrest
      exact absurd hbetween (by decide)
    · exact ⟨log, hres⟩

end Peg
