-- Single tokens are read as they are written: a name as far as it goes, a terminal up to its
-- quote, and a range with layout around its dots.
import Mathlib.Data.List.TakeWhile
import Peg.Proofs.Ebnf.Skipping

namespace Peg.Ebnf

section

variable {cs text x y z : List Char} {c lo hi quote : Char} {name : String}

/-! ## Names -/

theorem isNameStart_iff : isNameStart c = true ↔ NameStart c := by
  delta isNameStart NameStart Char.isAlpha Char.isUpper Char.isLower
  simp only [Bool.or_eq_true, Bool.and_eq_true, decide_eq_true_eq, Char.le_def, or_assoc]

theorem isNamePart_iff : isNamePart c = true ↔ NamePart c := by
  rw [NamePart, ← isNameStart_iff]
  simp only [isNamePart, isNameStart, Char.isAlphanum, Char.isDigit, Bool.or_eq_true,
    Bool.and_eq_true, decide_eq_true_eq, Char.le_def]
  tauto

theorem readName_append (valid : IsName name.toList) (hx : ∀ c ∈ x.head?, ¬ NamePart c) :
    readName (name.toList ++ x) = some (name, x) := by
  obtain ⟨c, more, hname, hc, hmore⟩ := valid
  have hparts : ∀ d ∈ more, isNamePart d = true := fun d hd => isNamePart_iff.2 (hmore d hd)
  have hstop : x.takeWhile isNamePart = [] ∧ x.dropWhile isNamePart = x := by
    cases x with
    | nil => exact ⟨rfl, rfl⟩
    | cons d x =>
      have hd : ¬ isNamePart d = true := fun hd => hx d rfl (isNamePart_iff.1 hd)
      exact ⟨List.takeWhile_cons_of_neg hd, List.dropWhile_cons_of_neg hd⟩
  rw [hname, List.cons_append, readName, if_pos (isNameStart_iff.2 hc),
    List.takeWhile_append_of_pos hparts, List.dropWhile_append_of_pos hparts, hstop.1, hstop.2,
    List.append_nil, ← hname, String.ofList_toList]

theorem exists_name (h : readName cs = some (name, x)) :
    ∃ valid, cs = (Token.name name valid).text ++ x := by
  cases cs with
  | nil => cases h
  | cons c cs =>
    rw [readName] at h
    split at h
    · next hc =>
      cases h
      have hname : (String.ofList (c :: cs.takeWhile isNamePart)).toList =
          c :: cs.takeWhile isNamePart := String.toList_ofList
      refine ⟨⟨c, cs.takeWhile isNamePart, hname, isNameStart_iff.1 hc, ?_⟩, ?_⟩
      · intro d hd
        exact isNamePart_iff.1 (List.mem_takeWhile_imp hd)
      · show c :: cs = (String.ofList (c :: cs.takeWhile isNamePart)).toList ++ _
        rw [hname, List.cons_append, List.takeWhile_append_dropWhile]
    · cases h

/-! ## Terminals -/

theorem readQuoted_append (h : quote ∉ text) (x : List Char) :
    readQuoted quote (text ++ quote :: x) = some (text, x) := by
  induction text with
  | nil => simp [readQuoted]
  | cons c text ih =>
    rw [List.mem_cons, not_or] at h
    rw [List.cons_append, readQuoted, if_neg (Ne.symm h.1), ih h.2]
    rfl

theorem readQuoted_eq_some (h : readQuoted quote cs = some (text, x)) :
    quote ∉ text ∧ cs = text ++ quote :: x := by
  induction cs generalizing text with
  | nil => cases h
  | cons c cs ih =>
    rw [readQuoted] at h
    split at h
    · next hc =>
      cases h
      exact ⟨List.not_mem_nil, by rw [hc]; rfl⟩
    · next hc =>
      rw [Option.map_eq_some_iff] at h
      obtain ⟨⟨text', x'⟩, hread, heq⟩ := h
      cases heq
      obtain ⟨hquote, rfl⟩ := ih hread
      refine ⟨?_, rfl⟩
      rw [List.mem_cons, not_or]
      exact ⟨Ne.symm hc, hquote⟩

theorem readTerminal_append {q : Quote} (valid : q.char ∉ text) (x : List Char) :
    readTerminal ((Token.quoted q text valid).text ++ x) = some (text, x) := by
  have h := readQuoted_append valid x
  cases q <;> simpa [Token.text, readTerminal, Quote.char] using h

theorem exists_quoted (h : readTerminal cs = some (text, x)) :
    ∃ q valid, cs = (Token.quoted q text valid).text ++ x := by
  unfold readTerminal at h
  split at h
  · obtain ⟨hquote, rfl⟩ := readQuoted_eq_some h
    exact ⟨.double, hquote, by simp [Token.text, Quote.char]⟩
  · obtain ⟨hquote, rfl⟩ := readQuoted_eq_some h
    exact ⟨.single, hquote, by simp [Token.text, Quote.char]⟩
  · cases h

theorem readTerminal_eq_none (h : ∀ c ∈ cs.head?, c ≠ '"' ∧ c ≠ '\'') : readTerminal cs = none := by
  unfold readTerminal
  split
  · exact absurd rfl (h '"' rfl).1
  · exact absurd rfl (h '\'' rfl).2
  · rfl

theorem readCharTerminal_eq_some :
    readCharTerminal cs = some (c, x) ↔ readTerminal cs = some ([c], x) := by
  unfold readCharTerminal
  constructor
  · intro h
    split at h
    · next hread =>
      cases h
      exact hread
    · cases h
  · intro h
    rw [h]

/-! ## Ranges -/

theorem readRange_of_reads {q q' : Quote} {valid : q.char ∉ [lo]} {valid' : q'.char ∉ [hi]}
    (h : Reads [.quoted q [lo] valid, .dots, .quoted q' [hi] valid'] x z) (hz : Bare z) :
    ∃ y, readRange x = some ((lo, hi), y) ∧ skipLayout y = z := by
  obtain ⟨layout, y, rfl, -, h, hskip⟩ := h.head hz
  obtain ⟨layout', y', rfl, -, h, hskip'⟩ := h.head hz
  obtain ⟨layout'', y'', rfl, -, h, hskip''⟩ := h.head hz
  cases h
  refine ⟨layout'' ++ z, ?_, hskip''⟩
  have hlo := readCharTerminal_eq_some.2 (readTerminal_append valid
    (layout ++ (Token.dots.text ++ (layout' ++ ((Token.quoted q' [hi] valid').text ++
      (layout'' ++ z))))))
  have hhi := readCharTerminal_eq_some.2 (readTerminal_append valid' (layout'' ++ z))
  simp only [readRange, hlo, hskip, Option.bind_eq_bind, Option.bind_some]
  simp only [Token.text, List.cons_append, List.nil_append] at hskip' hhi ⊢
  rw [hskip', hhi]
  rfl

theorem reads_of_readRange (h : readRange cs = some ((lo, hi), x)) :
    ∃ (q q' : Quote) (valid : q.char ∉ [lo]) (valid' : q'.char ∉ [hi]),
      Reads [.quoted q [lo] valid, .dots, .quoted q' [hi] valid'] cs (skipLayout x) := by
  simp only [readRange, Option.bind_eq_bind, Option.bind_eq_some_iff] at h
  obtain ⟨⟨lo', y⟩, hlo, h⟩ := h
  split at h
  · next u hdots =>
    rw [Option.bind_eq_some_iff] at h
    obtain ⟨⟨hi', v⟩, hhi, h⟩ := h
    cases h
    obtain ⟨q, valid, rfl⟩ := exists_quoted (readCharTerminal_eq_some.1 hlo)
    obtain ⟨q', valid', hu⟩ := exists_quoted (readCharTerminal_eq_some.1 hhi)
    have hfirst := Reads.single (.quoted q [lo'] valid) y
    rw [hdots] at hfirst
    have hsecond := Reads.single .dots u
    rw [hu] at hsecond
    exact ⟨q, q', valid, valid', (hfirst.append hsecond).append (.single _ v)⟩
  · cases h

/-- A terminal without dots behind it begins no range. -/
theorem readRange_eq_none (hread : readTerminal cs = some (text, x))
    (hx : ∀ c ∈ (skipLayout x).head?, c ≠ '.') : readRange cs = none := by
  rw [Option.eq_none_iff_forall_not_mem]
  rintro ⟨⟨lo, hi⟩, y⟩ h
  simp only [readRange, Option.bind_eq_bind, Option.mem_def, Option.bind_eq_some_iff] at h
  obtain ⟨⟨lo', u⟩, hlo, h⟩ := h
  rw [readCharTerminal_eq_some, hread] at hlo
  cases hlo
  split at h
  · next v hdots =>
    rw [hdots] at hx
    exact hx '.' rfl rfl
  · cases h

end

end Peg.Ebnf
