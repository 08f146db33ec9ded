-- What is documented of a library of regular expressions: of carets and groups, and that it finds
-- leftmost-first matches. So an expression that is enclosed matches at the start of a text only,
-- and a malformed expression is refused unless it closes the group itself.
import Peg.Regex.Library
import Peg.Text.Cursor

namespace Peg.Regex

open Text

/-! ## What is documented of a library -/

/-- What texts mean as regular expressions. -/
structure Language where
  /-- Whether a text is a regular expression by itself. -/
  WellFormed : List Char → Prop
  /-- Where the matches of an expression end that begin so many bytes behind the start of a text,
  best first. -/
  ends : List Char → List Char → Nat → List Nat

/-- Where the best match ends of those that begin leftmost. -/
def Language.leftmostFirst? (l : Language) (source text : List Char) : Option Nat :=
  (List.range (byteLength text + 1)).findSome? fun start => (l.ends source text start).head?

/-- A parenthesis of the text closes a group that is not opened in it, behind an expression. -/
def Language.ClosesGroup (l : Language) (source : List Char) : Prop :=
  ∃ inner more, source = inner ++ ')' :: more ∧ l.WellFormed inner

/-- What is documented of the library and its language. -/
structure Language.Documented [Library] (l : Language) : Prop where
  /-- Malformed expressions are refused. Others may be too, since they take too much room. -/
  wellFormed {source : List Char} : (Library.compile? source).isSome → l.WellFormed source
  /-- What is found is the best of the matches that begin leftmost. -/
  leftmostFirst {source : List Char} {finder : Finder} (text : List Char) :
    Library.compile? source = some finder → finder.findEnd? text = l.leftmostFirst? source text
  /-- A caret matches at the beginning of a text, and reads nothing. -/
  caret (text : List Char) (start : Nat) : l.ends ['^'] text start = if start = 0 then [0] else []
  /-- What comes behind a caret and opens a group is an expression by itself. -/
  behindCaret {more : List Char} : l.WellFormed ('^' :: '(' :: more) → l.WellFormed ('(' :: more)
  /-- An expression stands in a group, up to a closing parenthesis. -/
  opened {more : List Char} : l.WellFormed ("(?:".toList ++ more) →
    ∃ inner behind, more = inner ++ ')' :: behind ∧ l.WellFormed inner
  /-- A group matches what the expression in it matches. -/
  group {source : List Char} (text : List Char) (start : Nat) : l.WellFormed source →
    l.WellFormed (grouped source) → l.ends (grouped source) text start = l.ends source text start
  /-- Behind the matches of a caret come those of the group behind it. -/
  sequence {source : List Char} (text : List Char) (start : Nat) : l.WellFormed source →
    l.WellFormed (enclosed source) → l.ends (enclosed source) text start =
      (l.ends ['^'] text start).flatMap (l.ends (grouped source) text)

namespace Language

section

variable [Library] {l : Language} {source : List Char}

theorem Documented.grouped (hl : l.Documented) (h : l.WellFormed (enclosed source)) :
    l.WellFormed (grouped source) := hl.behindCaret h

/-- Only an expression can be enclosed, or else what closes the group itself. -/
theorem Documented.wellFormed_or_closesGroup (hl : l.Documented)
    (h : l.WellFormed (enclosed source)) : l.WellFormed source ∨ l.ClosesGroup source := by
  have hgroup : l.WellFormed ("(?:".toList ++ (source ++ [')'])) := by
    rw [← List.append_assoc]
    exact hl.grouped h
  obtain ⟨inner, behind, heq, hinner⟩ := hl.opened hgroup
  rcases List.eq_nil_or_concat behind with rfl | ⟨more, c, rfl⟩
  · -- the group is closed by the parenthesis behind the expression
    obtain ⟨rfl, -⟩ := List.append_inj' heq rfl
    exact .inl hinner
  · rw [List.concat_eq_append, ← List.cons_append, ← List.append_assoc] at heq
    obtain ⟨rfl, -⟩ := List.append_inj' heq rfl
    exact .inr ⟨inner, more, rfl, hinner⟩

/-- An expression that is enclosed has its matches at the start of the text. -/
theorem Documented.ends_enclosed (hl : l.Documented) (hsource : l.WellFormed source)
    (h : l.WellFormed (enclosed source)) (text : List Char) (start : Nat) :
    l.ends (enclosed source) text start = if start = 0 then l.ends source text 0 else [] := by
  rw [hl.sequence text start hsource h, hl.caret]
  split
  · rw [List.flatMap_singleton, hl.group text 0 hsource (hl.grouped h)]
  · rfl

/-- So the best match at the start is found, and no other one. -/
theorem Documented.leftmostFirst?_enclosed (hl : l.Documented) (hsource : l.WellFormed source)
    (h : l.WellFormed (enclosed source)) (text : List Char) :
    l.leftmostFirst? (enclosed source) text = (l.ends source text 0).head? := by
  have hbehind : (List.range' 1 (byteLength text)).findSome?
      (fun start => (l.ends (enclosed source) text start).head?) = none := by
    rw [List.findSome?_eq_none_iff]
    intro start hstart
    rw [hl.ends_enclosed hsource h, if_neg (by have := List.mem_range'_1.1 hstart; omega),
      List.head?_nil]
  rw [leftmostFirst?, List.range_eq_range', List.range'_succ, List.findSome?_cons, Nat.zero_add,
    hbehind, hl.ends_enclosed hsource h, if_pos rfl]
  cases (l.ends source text 0).head? <;> rfl

end

end Language

/-! ## A library of letters and groups -/

/-- The letters of an expression that is made of letters and of groups of letters. `inGroup` tells
whether a group is open. -/
def letters? : Bool → List Char → Option (List Char)
  | false, [] => some []
  | true, [] => none
  | false, '(' :: '?' :: ':' :: cs => letters? true cs
  | true, ')' :: cs => letters? false cs
  | inGroup, c :: cs => if c.isLower then (letters? inGroup cs).map (c :: ·) else none

/-- The letters of an expression, and whether it begins with a caret. -/
def spelling? : List Char → Option (Bool × List Char)
  | '^' :: cs => (letters? false cs).map (true, ·)
  | cs => (letters? false cs).map (false, ·)

/-- Where a word ends in a text that it begins so many bytes behind the start. -/
def endsOfWord (word text : List Char) (start : Nat) : List Nat :=
  match after? start text with
  | some rest => if word.isPrefixOf rest then [start + byteLength word] else []
  | none => []

/-- Letters and groups of letters one after another, perhaps behind a caret. -/
def lettersInGroups : Language where
  WellFormed source := (spelling? source).isSome
  ends source text start :=
    match spelling? source with
    | some (atStart, word) => if atStart ∧ start ≠ 0 then [] else endsOfWord word text start
    | none => []

instance : DecidablePred lettersInGroups.WellFormed := fun source =>
  inferInstanceAs (Decidable ((spelling? source).isSome = true))

/-- A library that knows these expressions only. -/
@[reducible] def letterLibrary : Library where
  compile? source :=
    if (spelling? source).isSome then some ⟨lettersInGroups.leftmostFirst? source⟩ else none

section

variable {word more source : List Char} {inGroup : Bool}

theorem letters?_cons {c : Char} (hc : c.isLower) :
    letters? inGroup (c :: more) = (letters? inGroup more).map (c :: ·) := by
  have hopening : c ≠ '(' := by rintro rfl; cases hc
  have hclosing : c ≠ ')' := by rintro rfl; cases hc
  cases inGroup <;> simp_all [letters?]

theorem letters?_append (hword : ∀ c ∈ word, c.isLower) :
    letters? inGroup (word ++ more) = (letters? inGroup more).map (word ++ ·) := by
  induction word with
  | nil => simp
  | cons c word ih =>
    obtain ⟨hc, hword⟩ := List.forall_mem_cons.1 hword
    rw [List.cons_append, letters?_cons hc, ih hword, Option.map_map]
    rfl

/-- A group of letters ends at the first parenthesis. -/
theorem exists_of_letters?_true {w : List Char} (h : letters? true source = some w) :
    ∃ word more, source = word ++ ')' :: more ∧ ∀ c ∈ word, c.isLower := by
  induction source generalizing w with
  | nil => cases h
  | cons c cs ih =>
    by_cases hclosing : c = ')'
    · exact ⟨[], cs, by rw [hclosing]; rfl, by simp⟩
    · by_cases hc : c.isLower
      · rw [letters?_cons hc] at h
        obtain ⟨w', hw', -⟩ := Option.map_eq_some_iff.1 h
        obtain ⟨word, more, rfl, hword⟩ := ih hw'
        exact ⟨c :: word, more, rfl, List.forall_mem_cons.2 ⟨hc, hword⟩⟩
      · simp_all [letters?]

theorem spelling?_of_ne {c : Char} (hc : c ≠ '^') :
    spelling? (c :: more) = (letters? false (c :: more)).map (false, ·) := by
  unfold spelling?
  split
  · next heq =>
    cases heq
    exact absurd rfl hc
  · rfl

theorem spelling?_append_letters (hword : ∀ c ∈ word, c.isLower) (hmore : more.head? ≠ some '^') :
    spelling? (word ++ more) = (letters? false more).map (false, word ++ ·) := by
  cases word with
  | nil =>
    cases more with
    | nil => rfl
    | cons c more => exact spelling?_of_ne (by simpa using hmore)
  | cons c word =>
    have hc : c ≠ '^' := by
      rintro rfl
      exact absurd (hword '^' (by simp)) (by decide)
    rw [List.cons_append, spelling?_of_ne hc, ← List.cons_append, letters?_append hword,
      Option.map_map]
    rfl

/-- Letters are an expression by themselves. -/
theorem spelling?_letters (hword : ∀ c ∈ word, c.isLower) :
    spelling? word = some (false, word) := by
  have hspelling : spelling? (word ++ []) = (letters? false []).map (false, word ++ ·) :=
    spelling?_append_letters hword (by simp)
  simpa [letters?] using hspelling

theorem letters?_grouped (hword : ∀ c ∈ word, c.isLower) :
    letters? false (grouped word) = some word := by
  have hletters : letters? true (word ++ [')']) = (letters? true [')']).map (word ++ ·) :=
    letters?_append hword
  simpa [grouped, letters?] using hletters

/-- What is an expression in a group and without it is made of letters. -/
theorem letters_of_grouped (hsource : (spelling? source).isSome)
    (h : (letters? false (grouped source)).isSome) : ∀ c ∈ source, c.isLower := by
  obtain ⟨w, hw⟩ := Option.isSome_iff_exists.1 h
  have hbehind : letters? true (source ++ [')']) = some w := hw
  obtain ⟨word, more, heq, hword⟩ := exists_of_letters?_true hbehind
  rcases List.eq_nil_or_concat more with rfl | ⟨more, c, rfl⟩
  · obtain ⟨rfl, -⟩ := List.append_inj' heq rfl
    exact hword
  · rw [List.concat_eq_append, ← List.cons_append, ← List.append_assoc] at heq
    obtain ⟨rfl, -⟩ := List.append_inj' heq rfl
    rw [spelling?_append_letters hword (by simp)] at hsource
    cases hsource

theorem spelling?_grouped :
    spelling? (grouped source) = (letters? false (grouped source)).map (false, ·) :=
  spelling?_of_ne (by decide)

theorem spelling?_enclosed :
    spelling? (enclosed source) = (letters? false (grouped source)).map (true, ·) := rfl

theorem ends_of_spelling {atStart : Bool} (h : spelling? source = some (atStart, word))
    (text : List Char) (start : Nat) : lettersInGroups.ends source text start =
      if atStart ∧ start ≠ 0 then [] else endsOfWord word text start := by
  simp only [lettersInGroups, h]

/-- An expression in a group is spelled as it is without the group. -/
theorem spelling?_of_grouped (hsource : (spelling? source).isSome)
    (h : (spelling? (grouped source)).isSome) :
    spelling? source = some (false, source) ∧
      spelling? (grouped source) = some (false, source) := by
  rw [spelling?_grouped, Option.isSome_map] at h
  have hletters := letters_of_grouped hsource h
  refine ⟨spelling?_letters hletters, ?_⟩
  rw [spelling?_grouped, letters?_grouped hletters, Option.map_some]

/-- And behind a caret, but for the caret. -/
theorem spelling?_of_enclosed (hsource : (spelling? source).isSome)
    (h : (spelling? (enclosed source)).isSome) :
    spelling? (grouped source) = some (false, source) ∧
      spelling? (enclosed source) = some (true, source) := by
  rw [spelling?_enclosed, Option.isSome_map] at h
  have hletters := letters?_grouped (letters_of_grouped hsource h)
  rw [spelling?_grouped, spelling?_enclosed, hletters, Option.map_some, Option.map_some]
  exact ⟨rfl, rfl⟩

/-- What is compiled is spelled, and is looked for as the language says. -/
theorem letterLibrary_compiles {finder : Finder} (h : letterLibrary.compile? source = some finder) :
    (spelling? source).isSome ∧ finder = ⟨lettersInGroups.leftmostFirst? source⟩ := by
  by_cases hsource : (spelling? source).isSome
  · rw [show letterLibrary.compile? source = _ from if_pos hsource] at h
    cases h
    exact ⟨hsource, rfl⟩
  · rw [show letterLibrary.compile? source = _ from if_neg hsource] at h
    cases h

/-- The library keeps to what is documented. -/
theorem documented_lettersInGroups : @Language.Documented letterLibrary lettersInGroups := by
  let _ := letterLibrary
  have hcaret : spelling? ['^'] = some (true, []) := rfl
  refine ⟨?wellFormed, ?leftmostFirst, ?caret, ?behindCaret, ?opened, ?group, ?sequence⟩
  case wellFormed =>
    intro source hsome
    obtain ⟨finder, hfinder⟩ := Option.isSome_iff_exists.1 hsome
    exact (letterLibrary_compiles hfinder).1
  case leftmostFirst =>
    intro source finder text hfinder
    obtain ⟨-, rfl⟩ := letterLibrary_compiles hfinder
    rfl
  case caret =>
    intro text start
    rw [ends_of_spelling hcaret]
    by_cases hstart : start = 0 <;> simp [hstart, endsOfWord]
  case behindCaret =>
    intro more h
    simpa [lettersInGroups, spelling?] using h
  case opened =>
    intro more h
    have hsome : (letters? true more).isSome := by
      simpa [lettersInGroups, spelling?, letters?] using h
    obtain ⟨w, hw⟩ := Option.isSome_iff_exists.1 hsome
    obtain ⟨word, behind, rfl, hword⟩ := exists_of_letters?_true hw
    exact ⟨word, behind, rfl, by simp [lettersInGroups, spelling?_letters hword]⟩
  case group =>
    intro source text start hsource h
    obtain ⟨hspelling, hgroup⟩ := spelling?_of_grouped hsource h
    rw [ends_of_spelling hspelling, ends_of_spelling hgroup]
  case sequence =>
    intro source text start hsource h
    obtain ⟨hgroup, hwhole⟩ := spelling?_of_enclosed hsource h
    rw [ends_of_spelling hwhole, ends_of_spelling hcaret]
    by_cases hstart : start = 0
    · simp [hstart, endsOfWord, ends_of_spelling hgroup]
    · simp [hstart]

end

end Peg.Regex
