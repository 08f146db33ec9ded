-- Skipping takes exactly the layout that comes first. So tokens can be read from the places
-- without layout, one after another, and it does not matter which reader skips the layout
-- between them.
import Mathlib.Data.Bool.AllAny
import Mathlib.Data.List.Infix
import Peg.Ebnf.Lexical
import Peg.Proofs.Ebnf.Spelling

namespace Peg.Ebnf

section

variable {body layout cs x y z : List Char} {c : Char} {n : Nat}

/-! ## Comments -/

theorem commentEnd?_cons (h : ¬ (c = '*' ∧ cs.head? = some ')')) :
    commentEnd? (c :: cs) = (commentEnd? cs).map (· + 1) := by
  rw [commentEnd?]
  rintro x rfl rfl
  exact h ⟨rfl, rfl⟩

/-- A comment is ended by the first star with a parenthesis behind it. -/
theorem commentEnd?_append (h : ¬ ['*', ')'] <:+: body) (x : List Char) :
    commentEnd? (body ++ '*' :: ')' :: x) = some (body.length + 2) := by
  induction body with
  | nil => rfl
  | cons c body ih =>
    have hbody : ¬ ['*', ')'] <:+: body := fun hb => h (hb.trans (List.suffix_cons c body).isInfix)
    rw [List.cons_append, commentEnd?_cons, ih hbody]
    · simp
    · rintro ⟨rfl, hhead⟩
      cases body with
      | nil => cases hhead
      | cons d body =>
        cases hhead
        exact h ⟨[], body, rfl⟩

theorem exists_body_of_commentEnd? (h : commentEnd? cs = some n) :
    ∃ body x, ¬ ['*', ')'] <:+: body ∧ cs = body ++ '*' :: ')' :: x ∧ n = body.length + 2 := by
  induction cs generalizing n with
  | nil => cases h
  | cons c cs ih =>
    by_cases hend : c = '*' ∧ cs.head? = some ')'
    · obtain ⟨rfl, hhead⟩ := hend
      obtain ⟨x, rfl⟩ := List.head?_eq_some_iff.1 hhead
      cases h
      exact ⟨[], x, by simp, rfl, rfl⟩
    · rw [commentEnd?_cons hend, Option.map_eq_some_iff] at h
      obtain ⟨m, hm, rfl⟩ := h
      obtain ⟨body, x, hbody, rfl, rfl⟩ := ih hm
      refine ⟨c :: body, x, ?_, rfl, rfl⟩
      rw [List.infix_cons_iff]
      rintro (hstarts | hinfix)
      · -- the comment would end at its first character
        obtain ⟨u, hu⟩ := hstarts
        cases body with
        | nil => cases hu
        | cons d body =>
          cases hu
          exact hend ⟨rfl, rfl⟩
      · exact hbody hinfix

/-! ## Skipping -/

theorem skipThenLayout_eq (n : Nat) (cs : List Char) :
    skipThenLayout n cs = skipLayout (cs.drop n) := by
  induction cs generalizing n with
  | nil => cases n <;> rfl
  | cons c cs ih =>
    cases n with
    | zero => rfl
    | succ n => exact ih n

/-- The layout at the start of a text is a blank, or a comment, and what layout follows. -/
theorem skipLayout_cons (c : Char) (cs : List Char) :
    skipLayout (c :: cs) =
      if isLayoutBlank c then skipLayout cs
      else
        match commentRest? c cs with
        | some n => skipLayout (cs.drop n)
        | none => c :: cs := by
  rw [skipLayout, skipThenLayout]
  split
  · rfl
  · cases commentRest? c cs with
    | none => rfl
    | some n => exact skipThenLayout_eq n cs

theorem isLayoutBlank_iff : isLayoutBlank c = true ↔ c ∈ [' ', '\t', '\r', '\n'] := by
  simp [isLayoutBlank, or_assoc]

theorem skipLayout_append (h : Layout layout) (x : List Char) :
    skipLayout (layout ++ x) = skipLayout x := by
  induction h with
  | nil => rfl
  | blank hc _ ih =>
    rw [List.cons_append, skipLayout_cons, if_pos (isLayoutBlank_iff.2 hc), ih]
  | @comment body layout hbody _ ih =>
    rw [List.cons_append, skipLayout_cons, if_neg (by decide)]
    simp only [List.cons_append, List.append_assoc, commentRest?, commentEnd?_append hbody,
      Option.map_some]
    have hdrop : ('*' :: (body ++ '*' :: ')' :: (layout ++ x))).drop (body.length + 2 + 1) =
        layout ++ x := by
      simp
    rw [hdrop, ih]

/-- What stands behind an opening parenthesis is skipped only if it is a closed comment. -/
theorem commentRest?_eq_some (h : commentRest? c cs = some n) :
    ∃ body x, ¬ ['*', ')'] <:+: body ∧ c = '(' ∧ cs = '*' :: (body ++ '*' :: ')' :: x) ∧
      cs.drop n = x := by
  unfold commentRest? at h
  split at h
  · rw [Option.map_eq_some_iff] at h
    obtain ⟨m, hm, rfl⟩ := h
    obtain ⟨body, x, hbody, rfl, rfl⟩ := exists_body_of_commentEnd? hm
    exact ⟨body, x, hbody, rfl, rfl, by simp⟩
  · cases h

/-- What is skipped is layout, and no layout comes behind it. -/
theorem skipLayout_spec (cs : List Char) :
    (∃ layout, Layout layout ∧ cs = layout ++ skipLayout cs) ∧
      skipLayout (skipLayout cs) = skipLayout cs := by
  induction hn : cs.length using Nat.strong_induction_on generalizing cs with
  | _ n ih =>
    cases cs with
    | nil => exact ⟨⟨[], .nil, rfl⟩, rfl⟩
    | cons c cs =>
      rw [skipLayout_cons]
      split
      · next hblank =>
        obtain ⟨⟨layout, hlayout, hcs⟩, hskip⟩ := ih cs.length (by simp at hn; omega) cs rfl
        refine ⟨⟨c :: layout, .blank (isLayoutBlank_iff.1 hblank) hlayout, ?_⟩, hskip⟩
        rw [List.cons_append, ← hcs]
      · next hblank =>
        cases hrest : commentRest? c cs with
        | none =>
          refine ⟨⟨[], .nil, rfl⟩, ?_⟩
          rw [skipLayout_cons, if_neg hblank, hrest]
        | some m =>
          obtain ⟨body, x, hbody, rfl, rfl, hx⟩ := commentRest?_eq_some hrest
          have hlt : x.length < n := by simp at hn; omega
          obtain ⟨⟨layout, hlayout, hcs⟩, hskip⟩ := ih x.length hlt x rfl
          simp only [hx]
          refine ⟨⟨_, .comment hbody hlayout, ?_⟩, hskip⟩
          simp [← hcs]

theorem exists_layout (cs : List Char) : ∃ layout, Layout layout ∧ cs = layout ++ skipLayout cs :=
  (skipLayout_spec cs).1

theorem skipLayout_skipLayout (cs : List Char) : skipLayout (skipLayout cs) = skipLayout cs :=
  (skipLayout_spec cs).2

theorem length_skipLayout_le (cs : List Char) : (skipLayout cs).length ≤ cs.length := by
  obtain ⟨layout, -, hcs⟩ := exists_layout cs
  have := congrArg List.length hcs
  simp at this
  omega

/-! ## Places without layout -/

/-- No layout comes first, and not with an opening parenthesis in front either. -/
def Bare (x : List Char) : Prop := skipLayout x = x ∧ ∀ c ∈ x.head?, c ≠ '*'

theorem Bare.of_head (h : ∀ c ∈ x.head?, ¬ isLayoutBlank c = true ∧ c ≠ '(' ∧ c ≠ '*') :
    Bare x := by
  refine ⟨?_, fun c hc => (h c hc).2.2⟩
  cases x with
  | nil => rfl
  | cons c x =>
    obtain ⟨hblank, hopening, -⟩ := h c rfl
    have hrest : commentRest? c x = none := by
      unfold commentRest?
      split
      · exact absurd rfl hopening
      · rfl
    rw [skipLayout_cons, if_neg hblank, hrest]

/-- Behind an opening parenthesis a star would begin a comment. -/
theorem Bare.opening (h : ∀ c ∈ x.head?, c ≠ '*') : Bare ('(' :: x) := by
  constructor
  · have hrest : commentRest? '(' x = none := by
      unfold commentRest?
      split
      · exact absurd rfl (h '*' rfl)
      · rfl
    rw [skipLayout_cons, if_neg (by decide), hrest]
  · intro c hc
    cases hc
    decide

/-- Layout begins with a blank or a parenthesis. -/
theorem Layout.head (h : Layout layout) : ∀ c ∈ layout.head?, c ∈ [' ', '\t', '\r', '\n', '('] := by
  cases h with
  | nil => simp
  | blank hc _ =>
    intro d hd
    cases hd
    exact List.mem_append_left ['('] hc
  | comment _ _ =>
    intro d hd
    cases hd
    decide

/-- What comes first is what layout begins with, or what comes first behind the layout. -/
theorem Layout.head_append (h : Layout layout) {P : Char → Prop}
    (hlayout : ∀ c ∈ [' ', '\t', '\r', '\n', '('], P c) (hx : ∀ c ∈ x.head?, P c) :
    ∀ c ∈ (layout ++ x).head?, P c := by
  intro c hc
  cases layout with
  | nil => exact hx c hc
  | cons d layout =>
    cases hc
    exact hlayout _ (h.head _ rfl)

/-! ## Tokens one after another -/

theorem Mark.char_not_mem (m : Mark) : m.char ∉ [' ', '\t', '\r', '\n', '*'] := by
  cases m with
  | opening b | closing b => cases b <;> decide
  | _ => decide

/-- No token begins with a blank or a star, and only the parenthesis itself begins with one. -/
theorem Token.text_eq_cons (t : Token) :
    ∃ c u, t.text = c :: u ∧ c ∉ [' ', '\t', '\r', '\n', '*'] ∧ (c = '(' → u = []) := by
  cases t with
  | name text valid =>
    obtain ⟨c, more, htext, hc, -⟩ := valid
    have hstart : ∀ d ∈ [' ', '\t', '\r', '\n', '*', '('], ¬ NameStart d :=
      List.all_iff_forall_prop.1 rfl
    refine ⟨c, more, htext, ?_, ?_⟩
    · intro hmem
      exact hstart c (List.mem_append_left ['('] hmem) hc
    · rintro rfl
      exact absurd hc (by decide)
  | quoted quote text valid =>
    cases quote <;> exact ⟨_, _, rfl, by decide, fun h => absurd h (by decide)⟩
  | dots => exact ⟨_, _, rfl, by decide, by decide⟩
  | mark m => exact ⟨m.char, [], rfl, m.char_not_mem, fun _ => rfl⟩

/-- With a token in front there is no layout in front. -/
theorem Bare.token (h : Bare x) (hlayout : Layout layout) (t : Token) :
    Bare (t.text ++ (layout ++ x)) := by
  obtain ⟨c, u, ht, hc, hopening⟩ := t.text_eq_cons
  rw [ht, List.cons_append]
  by_cases hp : c = '('
  · subst hp
    rw [hopening rfl, List.nil_append]
    exact .opening (hlayout.head_append (List.all_iff_forall_prop.1 rfl) h.2)
  · apply Bare.of_head
    intro d hd
    cases hd
    refine ⟨?_, hp, ?_⟩
    · rw [isLayoutBlank_iff]
      exact fun hmem => hc (List.mem_append_left ['*'] hmem)
    · rintro rfl
      exact hc (by decide)

variable {ts us : List Token} {t : Token}

theorem Reads.bare (h : Reads ts x z) (hz : Bare z) : Bare x := by
  induction h with
  | nil => exact hz
  | cons t hlayout _ ih => exact (ih hz).token hlayout t

theorem Reads.single (t : Token) (x : List Char) : Reads [t] (t.text ++ x) (skipLayout x) := by
  obtain ⟨layout, hlayout, hx⟩ := exists_layout x
  have h := Reads.cons t hlayout (.nil (z := skipLayout x))
  rwa [← hx] at h

theorem Reads.append (h : Reads ts x y) (h' : Reads us y z) : Reads (ts ++ us) x z := by
  induction h with
  | nil => exact h'
  | cons t hlayout _ ih => exact .cons t hlayout (ih h')

theorem Reads.split (h : Reads (ts ++ us) x z) : ∃ y, Reads ts x y ∧ Reads us y z := by
  induction ts generalizing x with
  | nil => exact ⟨x, .nil, h⟩
  | cons t ts ih =>
    cases h with
    | cons _ hlayout h =>
      obtain ⟨y, hy, hz⟩ := ih h
      exact ⟨y, .cons t hlayout hy, hz⟩

theorem Reads.suffix (h : Reads ts x z) : z <:+ x := by
  induction h with
  | nil => exact List.suffix_rfl
  | cons t _ _ ih => exact ih.trans ((List.suffix_append _ _).trans (List.suffix_append _ _))

/-- The other tokens are read from behind the first one and its layout. -/
theorem Reads.head (h : Reads (t :: ts) x z) (hz : Bare z) :
    ∃ layout y, x = t.text ++ (layout ++ y) ∧ Layout layout ∧ Reads ts y z ∧
      skipLayout (layout ++ y) = y := by
  cases h with
  | @cons _ _ layout y _ hlayout h =>
    refine ⟨layout, y, rfl, hlayout, h, ?_⟩
    rw [skipLayout_append hlayout, (h.bare hz).1]

theorem bare_nil : Bare [] := ⟨rfl, by simp⟩

/-- A text renders tokens if these are read from behind its first layout up to its end. -/
theorem renders_iff {s : List Char} : Renders ts s ↔ Reads ts (skipLayout s) [] := by
  constructor
  · rintro ⟨layout, x, rfl, hlayout, h⟩
    rwa [skipLayout_append hlayout, (h.bare bare_nil).1]
  · intro h
    obtain ⟨layout, hlayout, hs⟩ := exists_layout s
    exact ⟨layout, skipLayout s, hs, hlayout, h⟩

end

end Peg.Ebnf
