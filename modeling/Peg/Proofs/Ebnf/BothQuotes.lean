-- What becomes of a terminal that holds both kinds of quotes. It is printed in single quotes, and
-- the first one that it holds ends it. Such a text is never read as a terminal again, but what
-- stands behind that quote may make something else of it.
import Peg.Proofs.Ebnf.RoundTrip

namespace Peg.Ebnf

/-- The text is what stands between the outer quotes where `e` is written from a terminal in single
quotes to another one. -/
inductive Expr.Between (e : Expr) : List Char → Prop where
  | intro {a b inner : List Char} {ts : List Token} (ha : Quote.single.char ∉ a)
      (hb : Quote.single.char ∉ b) :
    e.Spelled (.quoted .single a ha :: (ts ++ [.quoted .single b hb])) → Renders ts inner →
      e.Between (a ++ '\'' :: (inner ++ '\'' :: b))

/-- What is written between two expressions, or between the ends of a range. -/
def separators : List (List Char) := [['-'], [','], ['|'], ['.', '.']]

section

variable {e : Expr} {l : Level} {t : Token} {ts : List Token} {text w x y z layout : List Char}
variable {c : Char}

/-! ## Parts of what is read -/

/-- Tokens are read alike in front of another text. -/
theorem Reads.append_text (h : Reads ts x z) (y : List Char) : Reads ts (x ++ y) (z ++ y) := by
  induction h with
  | nil => exact .nil
  | cons t hlayout _ ih =>
    rw [List.append_assoc, List.append_assoc]
    exact .cons t hlayout ih

/-- What has been read can be read by itself. -/
theorem Reads.exists_text (h : Reads ts x z) : ∃ w, x = w ++ z ∧ Reads ts w [] := by
  induction h with
  | nil => exact ⟨[], rfl, .nil⟩
  | cons t hlayout _ ih =>
    obtain ⟨w, rfl, hw⟩ := ih
    exact ⟨_, by simp only [List.append_assoc], .cons t hlayout hw⟩

theorem Reads.holds (h : Reads ts x z) (ht : t ∈ ts) : t.text <:+: x := by
  induction h with
  | nil => cases ht
  | @cons t' ts layout x z hlayout _ ih =>
    rcases List.mem_cons.1 ht with rfl | ht
    · exact (List.prefix_append _ _).isInfix
    · have hsuffix : x <:+ t'.text ++ (layout ++ x) :=
        (List.suffix_append layout x).trans (List.suffix_append t'.text _)
      exact (ih ht).trans hsuffix.isInfix

theorem Renders.holds (h : Renders ts x) (ht : t ∈ ts) : t.text <:+: x := by
  obtain ⟨layout, y, rfl, -, hreads⟩ := h
  exact (hreads.holds ht).trans (List.suffix_append layout y).isInfix

/-! ## Quotes at the ends -/

/-- Only a terminal in single quotes begins with one. -/
theorem Token.eq_quoted_of_head (h : '\'' ∈ t.text.head?) : ∃ a ha, t = .quoted .single a ha := by
  cases t with
  | name name valid =>
    obtain ⟨c, more, hname, hc, _⟩ := valid
    simp only [Token.text, hname, List.head?_cons, Option.mem_some_iff] at h
    rw [h] at hc
    exact absurd hc (by decide)
  | quoted quote a ha =>
    cases quote with
    | single => exact ⟨a, ha, rfl⟩
    | double => cases h
  | dots => cases h
  | mark m =>
    cases m with
    | opening b | closing b => cases b <;> cases h
    | _ => cases h

/-- Only a terminal in single quotes ends with one. -/
theorem Token.eq_quoted_of_getLast (h : '\'' ∈ t.text.getLast?) :
    ∃ a ha, t = .quoted .single a ha := by
  cases t with
  | name name valid =>
    obtain ⟨c, more, hname, hc, hmore⟩ := valid
    have hpart : NamePart '\'' := by
      simp only [Token.text, hname] at h
      rcases List.mem_cons.1 (List.mem_of_getLast? h) with heq | hmem
      · exact .inl (heq ▸ hc)
      · exact hmore _ hmem
    exact absurd hpart (by decide)
  | quoted quote a ha =>
    cases quote with
    | single => exact ⟨a, ha, rfl⟩
    | double => simp [Token.text, Quote.char, List.getLast?_cons] at h
  | dots => simp [Token.text] at h
  | mark m =>
    cases m with
    | opening b | closing b => cases b <;> cases h
    | _ => cases h

/-- Layout ends with a blank or a parenthesis. -/
theorem Layout.getLast (h : Layout layout) :
    ∀ c ∈ layout.getLast?, c ∈ [' ', '\t', '\r', '\n', ')'] := by
  induction h with
  | nil => simp
  | @blank c layout hc _ ih =>
    intro d hd
    rw [List.getLast?_cons, Option.mem_some_iff] at hd
    cases hlast : layout.getLast? with
    | none =>
      rw [hlast] at hd
      cases hd
      exact List.mem_append_left [')'] hc
    | some d' =>
      rw [hlast] at hd
      cases hd
      exact ih _ hlast
  | @comment body layout _ _ ih =>
    intro d hd
    have hend : ('(' :: '*' :: (body ++ '*' :: ')' :: layout)).getLast? =
        some (layout.getLast?.getD ')') := by simp [List.getLast?_cons, List.getLast?_append]
    rw [hend, Option.mem_some_iff] at hd
    cases hlast : layout.getLast? with
    | none =>
      rw [hlast] at hd
      cases hd
      decide
    | some d' =>
      rw [hlast] at hd
      cases hd
      exact ih _ hlast

/-! ## From one quote to another -/

theorem skipLayout_quote (w : List Char) : skipLayout ('\'' :: w) = '\'' :: w := by
  refine (Bare.of_head ?_).1
  intro c hc
  cases hc
  decide

/-- What is read up to a quote at the end of the text ends with a terminal. -/
theorem Reads.last_of_quote (h : Reads [t] x []) (hx : '\'' ∈ x.getLast?) :
    ∃ b hb, t = .quoted .single b hb ∧ x = t.text := by
  obtain ⟨layout, y, rfl, hlayout, hnil, -⟩ := h.head bare_nil
  cases hnil
  rw [List.append_nil, List.getLast?_append] at hx
  cases hlast : layout.getLast? with
  | some c =>
    rw [hlast] at hx
    cases hx
    exact absurd (hlayout.getLast _ hlast) (by decide)
  | none =>
    rw [hlast] at hx
    obtain ⟨b, hb, ht⟩ := Token.eq_quoted_of_getLast hx
    refine ⟨b, hb, ht, ?_⟩
    rw [List.getLast?_eq_none_iff.1 hlast, List.append_nil, List.append_nil]

/-- A text that is read between two quotes and holds one itself is read as two terminals at least,
with tokens in between. -/
theorem exists_between (h : Reads ts ('\'' :: (text ++ ['\''])) []) (htext : '\'' ∈ text) :
    ∃ a b ha hb inner us, ts = .quoted .single a ha :: (us ++ [.quoted .single b hb]) ∧
      Renders us inner ∧ text = a ++ '\'' :: (inner ++ '\'' :: b) := by
  have hlast : ∃ init t, ts = init ++ [t] := by
    obtain rfl | ⟨init, t, rfl⟩ := List.eq_nil_or_concat ts
    · cases h
    · exact ⟨init, t, List.concat_eq_append⟩
  obtain ⟨init, t, rfl⟩ := hlast
  obtain ⟨y, hinit, ht⟩ := h.split
  obtain ⟨w, hw, hreads⟩ := hinit.exists_text
  -- the last token is the one that ends with the last quote
  have hy : '\'' ∈ y.getLast? := by
    have hne : y ≠ [] := by
      rintro rfl
      exact Nat.lt_irrefl _ ht.length_lt
    have hend := congrArg List.getLast? hw
    rw [List.getLast?_append_of_ne_nil w hne] at hend
    simp [← hend, List.getLast?_cons]
  obtain ⟨b, hb, rfl, rfl⟩ := ht.last_of_quote hy
  cases hreads with
  | nil =>
    simp [Token.text, Quote.char] at hw
    exact absurd (hw ▸ htext) hb
  | @cons t us layout x _ hlayout hrest =>
    have hhead : '\'' ∈ t.text.head? := by
      obtain ⟨c, u, hc, -⟩ := t.text_eq_cons
      have hfirst := congrArg List.head? hw
      rw [hc] at hfirst ⊢
      exact hfirst.symm
    obtain ⟨a, ha, rfl⟩ := Token.eq_quoted_of_head hhead
    refine ⟨a, b, ha, hb, layout ++ x, us, rfl, ⟨layout, x, rfl, hlayout, hrest⟩, ?_⟩
    refine List.append_cancel_right (?_ : _ ++ ['\''] = _ ++ ['\''])
    simpa [Token.text, Quote.char] using hw

/-- More than one token is an expression in brackets, or has a separator. -/
theorem Spells.separated (h : Spells l e ts) :
    ts.length = 1 ∨ (∃ b us, ts = .mark (.opening b) :: us) ∨ ∃ t ∈ ts, t.text ∈ separators := by
  induction h with
  | identifier _ | terminal _ => exact .inl rfl
  | range _ _ => exact .inr (.inr ⟨.dots, by simp, by decide⟩)
  | bracket b _ _ => exact .inr (.inl ⟨b, _, rfl⟩)
  | exception _ _ _ _ => exact .inr (.inr ⟨.mark .hyphen, by simp, by decide⟩)
  | concatenation _ _ _ _ => exact .inr (.inr ⟨.mark .comma, by simp, by decide⟩)
  | alternation _ _ _ _ => exact .inr (.inr ⟨.mark .bar, by simp, by decide⟩)
  | ofFactor _ ih | ofException _ ih | ofConcatenation _ ih => exact ih

theorem Spells.length_of_terminal {s : String} (h : Spells l (.terminal s) ts) :
    ts.length = 1 := by
  generalize he : Expr.terminal s = e at h
  induction h with
  | terminal _ => rfl
  | ofFactor _ ih | ofException _ ih | ofConcatenation _ ih => exact ih he
  | bracket b _ _ => cases b <;> cases he
  | _ => cases he

theorem Expr.Between.not_terminal {s : String} : ¬ (Expr.terminal s).Between text := by
  rintro ⟨ha, hb, hspelled, -⟩
  have hlength := hspelled.length_of_terminal
  simp at hlength

/-- There is a separator outside of the quotes. -/
theorem Expr.Between.separated (h : e.Between text) : ∃ s ∈ separators, s <:+: text := by
  obtain @⟨a, b, inner, ts, ha, hb, hspelled, hrenders⟩ := h
  obtain hlength | ⟨bracket, us, hopening⟩ | ⟨t, ht, hmem⟩ := hspelled.separated
  · simp at hlength
  · cases hopening
  · have hquoted : ∀ {c} hc, (Token.quoted .single c hc).text ∉ separators := by
      intro c hc hmem
      simp [separators, Token.text, Quote.char] at hmem
    have hinner : t ∈ ts := by
      rcases List.mem_cons.1 ht with rfl | ht
      · exact absurd hmem (hquoted ha)
      rcases List.mem_append.1 ht with ht | ht
      · exact ht
      · rw [List.mem_singleton.1 ht] at hmem
        exact absurd hmem (hquoted hb)
    have hpart : inner <:+: a ++ '\'' :: (inner ++ '\'' :: b) := ⟨a ++ ['\''], '\'' :: b, by simp⟩
    exact ⟨t.text, hmem, (hrenders.holds hinner).trans hpart⟩

theorem Expr.Between.two_le_count (h : e.Between text) : 2 ≤ text.count '\'' := by
  obtain ⟨-, -, -, -⟩ := h
  simp only [List.count_append, List.count_cons_self]
  omega

/-! ## Terminals with both kinds of quotes -/

theorem print_terminal_of_mem {text : String} (h : '"' ∈ text.toList) :
    (Expr.terminal text).print = '\'' :: (text.toList ++ ['\'']) := by
  simp [Expr.print, quoteTerminal, h]

theorem renders_quote_iff (h : '\'' ∈ text) :
    (∃ ts, e.Spelled ts ∧ Renders ts ('\'' :: (text ++ ['\'']))) ↔ e.Between text := by
  constructor
  · rintro ⟨ts, hspelled, hrenders⟩
    rw [renders_iff, skipLayout_quote] at hrenders
    obtain ⟨a, b, ha, hb, inner, us, rfl, hinner, rfl⟩ := exists_between hrenders h
    exact .intro ha hb hspelled hinner
  · rintro ⟨ha, hb, hspelled, layout, x, rfl, hlayout, hreads⟩
    refine ⟨_, hspelled, [], _, rfl, .nil, ?_⟩
    have hlast := Reads.cons (.quoted .single _ hb) .nil (.nil (z := []))
    have hall := Reads.cons (.quoted .single _ ha) hlayout ((hreads.append_text _).append hlast)
    simpa [Token.text, Quote.char] using hall

end

/-- A terminal that holds both kinds of quotes is printed as a text that is read as the trees that
stand between its quotes, if there are any, and is refused otherwise. It never comes back as a
terminal, and it is refused if nothing in it separates two expressions or if it holds only one
single quote. -/
theorem both_quotes_never_come_back_as_a_terminal (text : String) (hsingle : '\'' ∈ text.toList)
    (hdouble : '"' ∈ text.toList) :
    (∀ e, Expr.parse (Expr.terminal text).print = .ok e ↔ e.Between text.toList) ∧
      ((∃ error, Expr.parse (Expr.terminal text).print = .error error) ↔
        ¬ ∃ e : Expr, e.Between text.toList) ∧
      (∀ other, Expr.parse (Expr.terminal text).print ≠ .ok (.terminal other)) ∧
      ((∀ s ∈ separators, ¬ s <:+: text.toList) →
        ∃ error, Expr.parse (Expr.terminal text).print = .error error) ∧
      (text.toList.count '\'' = 1 →
        ∃ error, Expr.parse (Expr.terminal text).print = .error error) := by
  have hok : ∀ e, Expr.parse (Expr.terminal text).print = .ok e ↔ e.Between text.toList := by
    intro e
    rw [Expr.recognized.ok_iff, print_terminal_of_mem hdouble, renders_quote_iff hsingle]
  have herror : (∃ error, Expr.parse (Expr.terminal text).print = .error error) ↔
      ¬ ∃ e : Expr, e.Between text.toList := by
    rw [Expr.recognized.error_iff, print_terminal_of_mem hdouble]
    simp only [renders_quote_iff hsingle]
  refine ⟨hok, herror, ?_, ?_, ?_⟩
  · intro other h
    exact Expr.Between.not_terminal ((hok _).1 h)
  · intro hnone
    rw [herror]
    rintro ⟨e, h⟩
    obtain ⟨s, hs, hheld⟩ := h.separated
    exact hnone s hs hheld
  · intro hone
    rw [herror]
    rintro ⟨e, h⟩
    have htwo := h.two_le_count
    omega

/-- The text with quotes and an apostrophe has nothing that separates two expressions. -/
theorem an_apostrophe_and_quotes_are_refused :
    '\'' ∈ "it's \"x\"".toList ∧ '"' ∈ "it's \"x\"".toList ∧
      ∃ error, Expr.parse (Expr.terminal "it's \"x\"").print = .error error := by
  have hsingle : '\'' ∈ "it's \"x\"".toList := by decide
  have hdouble : '"' ∈ "it's \"x\"".toList := by decide
  obtain ⟨-, -, -, -, hone⟩ :=
    both_quotes_never_come_back_as_a_terminal "it's \"x\"" hsingle hdouble
  exact ⟨hsingle, hdouble, hone (by decide)⟩

/-- A bar between quotes comes back as a choice between what is on either side of it. -/
theorem a_quoted_bar_comes_back_as_a_choice :
    '\'' ∈ "\"'|'".toList ∧ '"' ∈ "\"'|'".toList ∧
      Expr.parse (Expr.terminal "\"'|'").print =
        .ok (.alternation (.terminal "\"") (.terminal "")) := by
  refine ⟨by decide, by decide, ?_⟩
  rfl

end Peg.Ebnf
