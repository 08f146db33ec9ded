-- Expressions are read exactly where their tokens stand. Each level of the reader is taken by
-- itself: what it reads is spelled at that level, and what is spelled at that level it reads, in
-- front of whatever may come behind.
import Peg.Ebnf.Reader
import Peg.Proofs.Ebnf.Tokens

namespace Peg.Ebnf

/-! ## What comes behind -/

/-- What may come behind an expression of a level, if anything does: a mark that belongs to a
looser level. -/
def Level.stops : Level → List Char
  | alternation => [')', '}', ']', ';']
  | concatenation => ['|', ')', '}', ']', ';']
  | exception => [',', '|', ')', '}', ']', ';']
  | factor => ['-', ',', '|', ')', '}', ']', ';']

def Follows (l : Level) (z : List Char) : Prop := ∀ c ∈ z.head?, c ∈ l.stops

section

variable {l : Level} {b : Bracket} {e a : Expr} {ts : List Token} {u w x y z : List Char} {c : Char}

theorem Follows.mono {l' : Level} (h : Follows l z) (hsubset : l.stops ⊆ l'.stops) :
    Follows l' z :=
  fun c hc => hsubset (h c hc)

theorem Follows.factor (h : Follows l z) : Follows .factor z :=
  h.mono (by cases l <;> decide)

theorem Follows.ne (h : Follows l z) (hc : c ∉ l.stops) : ∀ d ∈ z.head?, d ≠ c := by
  rintro d hd rfl
  exact hc (h d hd)

theorem Follows.bare (h : Follows l z) : Bare z := by
  have hstops : ∀ d ∈ Level.factor.stops, ¬ isLayoutBlank d = true ∧ d ≠ '(' ∧ d ≠ '*' :=
    List.all_iff_forall_prop.1 rfl
  exact .of_head fun c hc => hstops c (h.factor c hc)

theorem follows_mark (m : Mark) (hm : m.char ∈ l.stops) (z : List Char) :
    Follows l (m.char :: z) := by
  intro c hc
  cases hc
  exact hm

theorem follows_nil (l : Level) : Follows l [] := by
  intro c hc
  cases hc

/-! ## Atoms -/

variable {inner : Read Expr}

theorem readBracketed_of_ne {opening closing : Char} (h : ∀ c ∈ x.head?, c ≠ opening) :
    readBracketed opening closing inner x = none := by
  cases x with
  | nil => rfl
  | cons c x => exact if_neg (h c rfl)

theorem readBracketed_eq_some {opening closing : Char} :
    readBracketed opening closing inner x = some (e, y) ↔
      ∃ w, x = opening :: w ∧ inner w = .ok (e, closing :: y) := by
  constructor
  · intro h
    unfold readBracketed at h
    split at h
    · cases h
    · next c w =>
      split at h
      · next hc =>
        split at h
        · next d rest hread =>
          split at h
          · next hd =>
            cases h
            exact ⟨w, by rw [hc], by rw [hread, hd]⟩
          · cases h
        · cases h
      · cases h
  · rintro ⟨w, rfl, hread⟩
    simp [readBracketed, hread]

theorem readName_eq_none (h : ∀ c ∈ x.head?, ¬ NameStart c) : readName x = none := by
  cases x with
  | nil => rfl
  | cons c x => exact if_neg fun hc => h c rfl (isNameStart_iff.1 hc)

theorem readRange_of_readTerminal (h : readTerminal x = none) : readRange x = none := by
  simp [readRange, readCharTerminal, h]

/-- With an opening bracket in front, only what stands in these brackets can be read. -/
theorem readAtom_bracket (b : Bracket) (w : List Char) :
    readAtom inner (b.opening :: w) =
      (readBracketed b.opening b.closing inner (b.opening :: w)).map
        fun (e, y) => (b.wrap e, y) := by
  have hterminal : readTerminal (b.opening :: w) = none := by
    apply readTerminal_eq_none
    intro c hc
    cases hc
    cases b <;> decide
  have hname : readName (b.opening :: w) = none := by
    apply readName_eq_none
    intro c hc
    cases hc
    cases b <;> decide
  have hother : ∀ b' : Bracket, b.opening ≠ b'.opening →
      readBracketed b'.opening b'.closing inner (b.opening :: w) = none := fun b' h => if_neg h
  have hgroup := hother .group
  have hrepetition := hother .repetition
  have hoptional := hother .optional
  rw [readAtom, readRange_of_readTerminal hterminal, hterminal, hname]
  cases b <;> simp_all [Bracket.opening, Bracket.closing, Bracket.wrap]

/-- Without one, it is a range, or else a terminal, or else a name. -/
theorem readAtom_token (h : ∀ b : Bracket, ∀ c ∈ x.head?, c ≠ b.opening) :
    readAtom inner x =
      (((readRange x).map fun ((lo, hi), y) => (.range lo hi, y))
      <|> ((readTerminal x).map fun (text, y) => (.terminal (String.ofList text), y))
      <|> ((readName x).map fun (name, y) => (.identifier name, y))) := by
  have hgroup : readBracketed '(' ')' inner x = none := readBracketed_of_ne (h .group)
  have hrepetition : readBracketed '{' '}' inner x = none := readBracketed_of_ne (h .repetition)
  have hoptional : readBracketed '[' ']' inner x = none := readBracketed_of_ne (h .optional)
  rw [readAtom, hgroup, hrepetition, hoptional]
  simp

/-! ## What is read is spelled -/

/-- Whatever is read is spelled at the level, and no layout is left in front of the rest. -/
def SoundAt (l : Level) (read : Read Expr) : Prop :=
  ∀ {w e z}, read w = .ok (e, z) →
    ∃ ts, Spells l e ts ∧ Reads ts (skipLayout w) z ∧ skipLayout z = z

theorem readAtom_sound (hinner : SoundAt .alternation inner) (h : readAtom inner x = some (e, y)) :
    ∃ ts, Spells .factor e ts ∧ Reads ts x (skipLayout y) := by
  by_cases hopening : ∃ b : Bracket, b.opening ∈ x.head?
  · obtain ⟨b, hb⟩ := hopening
    obtain ⟨w, rfl⟩ := List.head?_eq_some_iff.1 hb
    rw [readAtom_bracket, Option.map_eq_some_iff] at h
    obtain ⟨⟨e', y'⟩, hread, heq⟩ := h
    cases heq
    obtain ⟨w', hw, hread⟩ := readBracketed_eq_some.1 hread
    cases hw
    obtain ⟨ts, hspells, hreads, -⟩ := hinner hread
    have hopens := Reads.single (.mark (.opening b)) w
    have hcloses := Reads.single (.mark (.closing b)) y
    exact ⟨_, .bracket b hspells, hopens.append (hreads.append hcloses)⟩
  · rw [readAtom_token fun b c hc hopens => hopening ⟨b, hopens ▸ hc⟩] at h
    simp only [Option.orElse_eq_orElse, Option.orElse_eq_or, Option.or_eq_some_iff,
      Option.map_eq_some_iff] at h
    rcases h with ⟨⟨⟨lo, hi⟩, y'⟩, hread, heq⟩ |
      ⟨-, ⟨⟨text, y'⟩, hread, heq⟩ | ⟨-, ⟨name, y'⟩, hread, heq⟩⟩
    · cases heq
      obtain ⟨q, q', valid, valid', hreads⟩ := reads_of_readRange hread
      exact ⟨_, .range valid valid', hreads⟩
    · cases heq
      obtain ⟨text, rfl⟩ : ∃ s : String, s.toList = text := ⟨_, String.toList_ofList⟩
      obtain ⟨q, valid, rfl⟩ := exists_quoted hread
      rw [String.ofList_toList]
      exact ⟨_, .terminal valid, .single _ _⟩
    · cases heq
      obtain ⟨valid, rfl⟩ := exists_name hread
      exact ⟨_, .identifier valid, .single _ _⟩

theorem readFactor_sound (hinner : SoundAt .alternation inner) :
    SoundAt .factor (readFactor inner) := by
  intro w e z h
  unfold readFactor at h
  split at h
  · next y hread =>
    cases h
    obtain ⟨ts, hspells, hreads⟩ := readAtom_sound hinner hread
    exact ⟨ts, hspells, hreads, skipLayout_skipLayout _⟩
  · cases h

/-- A mark stands between what is read on its two sides. -/
theorem Reads.around {us : List Token} (m : Mark) (h : Reads ts x (m.char :: w))
    (h' : Reads us (skipLayout w) z) : Reads (ts ++ .mark m :: us) x z :=
  h.append ((Reads.single (.mark m) w).append h')

theorem bind_eq_ok {α β : Type} {read : Except ReadError α} {next : α → Except ReadError β}
    {y : β} : (read >>= next) = .ok y ↔ ∃ x, read = .ok x ∧ next x = .ok y := by
  cases read with
  | error error =>
    constructor
    · intro h
      cases h
    · rintro ⟨x, hx, -⟩
      cases hx
  | ok x =>
    constructor
    · intro h
      exact ⟨x, rfl, h⟩
    · rintro ⟨x', hx, h⟩
      cases hx
      exact h

theorem readException_sound (hinner : SoundAt .alternation inner) :
    SoundAt .exception (readException inner) := by
  intro w e z h
  obtain ⟨⟨a, y⟩, hread, h⟩ := bind_eq_ok.1 h
  obtain ⟨ts, hspells, hreads, hskip⟩ := readFactor_sound hinner hread
  dsimp only at h
  split at h
  · next more =>
    split at h
    · next b y' hread' =>
      cases h
      obtain ⟨us, hspells', hreads', hskip'⟩ := readFactor_sound hinner hread'
      exact ⟨_, .exception hspells hspells', hreads.around .hyphen hreads', hskip'⟩
    · cases h
      exact ⟨ts, .ofFactor hspells, hreads, hskip⟩
  · cases h
    exact ⟨ts, .ofFactor hspells, hreads, hskip⟩

/-- Items with a mark between them are spelled at the level of the mark, if one item is and if
any item is in front of what is spelled there. -/
theorem readJoined_sound {l' : Level} {m : Mark} {join : Expr → Expr → Expr} {item : Read Expr}
    (hitem : SoundAt l item) (hlast : ∀ {a ts}, Spells l a ts → Spells l' a ts)
    (hjoin : ∀ {a b ts us}, Spells l a ts → Spells l' b us →
      Spells l' (join a b) (ts ++ .mark m :: us)) (fuel : Nat) :
    SoundAt l' (readJoined m.char join item fuel) := by
  induction fuel with
  | zero =>
    intro w e z h
    cases h
  | succ fuel ih =>
    intro w e z h
    obtain ⟨⟨a, y⟩, hread, h⟩ := bind_eq_ok.1 h
    obtain ⟨ts, hspells, hreads, hskip⟩ := hitem hread
    dsimp only at h
    split at h
    · cases h
      exact ⟨ts, hlast hspells, hreads, hskip⟩
    · next c more =>
      split at h
      · next hc =>
        subst hc
        split at h
        · next b y' hread' =>
          cases h
          obtain ⟨us, hspells', hreads', hskip'⟩ := ih hread'
          exact ⟨_, hjoin hspells hspells', hreads.around m hreads', hskip'⟩
        · cases h
          exact ⟨ts, hlast hspells, hreads, hskip⟩
      · cases h
        exact ⟨ts, hlast hspells, hreads, hskip⟩

theorem readConcatenation_sound (hinner : SoundAt .alternation inner) :
    SoundAt .concatenation (readConcatenation inner) := fun h =>
  readJoined_sound (m := .comma) (readException_sound hinner) .ofException .concatenation _ h

theorem readAlternation_sound (hinner : SoundAt .alternation inner) :
    SoundAt .alternation (readAlternation inner) := fun h =>
  readJoined_sound (m := .bar) (readConcatenation_sound hinner) .ofConcatenation .alternation _ h

theorem readNested_sound (fuel : Nat) : SoundAt .alternation (readNested fuel) := by
  induction fuel with
  | zero =>
    intro w e z h
    cases h
  | succ fuel ih => exact readAlternation_sound ih

theorem readExpr_sound : SoundAt .alternation readExpr := fun h => readNested_sound _ h

/-! ## What is spelled is read -/

/-- Whatever is spelled at the level is read, in texts of less than `n` characters and in front of
what may come behind. -/
def CompleteAt (n : Nat) (l : Level) (read : Read Expr) : Prop :=
  ∀ {e ts x z w}, Spells l e ts → Reads ts x z → Follows l z → skipLayout w = x → w.length < n →
    read w = .ok (e, z)

theorem readFactor_of_atom (hw : skipLayout w = x) (h : readAtom inner x = some (e, y)) :
    readFactor inner w = .ok (e, skipLayout y) := by
  simp only [readFactor, hw, h]

theorem readAtom_identifier {name : String} (valid : IsName name.toList)
    (hy : ∀ c ∈ y.head?, ¬ NamePart c) :
    readAtom inner (name.toList ++ y) = some (.identifier name, y) := by
  have hhead : ∀ c ∈ (name.toList ++ y).head?, NameStart c := by
    obtain ⟨c, more, hname, hc, -⟩ := valid
    intro d hd
    rw [hname] at hd
    cases hd
    exact hc
  have hterminal : readTerminal (name.toList ++ y) = none := by
    apply readTerminal_eq_none
    intro c hc
    refine ⟨?_, ?_⟩
    · rintro rfl
      exact absurd (hhead _ hc) (by decide)
    · rintro rfl
      exact absurd (hhead _ hc) (by decide)
  rw [readAtom_token, readRange_of_readTerminal hterminal, hterminal, readName_append valid hy]
  · rfl
  · rintro b c hc rfl
    have := hhead _ hc
    cases b <;> revert this <;> decide

theorem quoted_head {q : Quote} {text : List Char} {valid : q.char ∉ text} (b : Bracket) :
    ∀ c ∈ ((Token.quoted q text valid).text ++ y).head?, c ≠ b.opening := by
  intro c hc
  cases hc
  cases q <;> cases b <;> decide

theorem readAtom_terminal {q : Quote} {text : String} (valid : q.char ∉ text.toList)
    (hy : ∀ c ∈ (skipLayout y).head?, c ≠ '.') :
    readAtom inner ((Token.quoted q text.toList valid).text ++ y) = some (.terminal text, y) := by
  have hread := readTerminal_append valid y
  rw [readAtom_token quoted_head, readRange_eq_none hread hy, hread]
  simp [String.ofList_toList]

theorem readAtom_wrap (b : Bracket) (hread : inner w = .ok (e, b.closing :: y)) :
    readAtom inner (b.opening :: w) = some (b.wrap e, y) := by
  rw [readAtom_bracket, readBracketed_eq_some.2 ⟨w, rfl, hread⟩]
  rfl

theorem readException_single (hread : readFactor inner w = .ok (e, z))
    (hz : ∀ c ∈ z.head?, c ≠ '-') : readException inner w = .ok (e, z) := by
  refine bind_eq_ok.2 ⟨(e, z), hread, ?_⟩
  dsimp only
  split
  · exact absurd rfl (hz '-' rfl)
  · rfl

theorem readException_pair (hread : readFactor inner w = .ok (a, '-' :: u))
    (hread' : readFactor inner u = .ok (e, z)) :
    readException inner w = .ok (.exception a e, z) := by
  refine bind_eq_ok.2 ⟨(a, '-' :: u), hread, ?_⟩
  simp only [hread']
  rfl

theorem readJoined_last {separator : Char} {join : Expr → Expr → Expr} {item : Read Expr}
    (hread : item w = .ok (e, z)) (hz : ∀ c ∈ z.head?, c ≠ separator) (fuel : Nat) :
    readJoined separator join item (fuel + 1) w = .ok (e, z) := by
  refine bind_eq_ok.2 ⟨(e, z), hread, ?_⟩
  cases z with
  | nil => rfl
  | cons c z =>
    simp only [if_neg (hz c rfl)]
    rfl

theorem readJoined_more {separator : Char} {join : Expr → Expr → Expr} {item : Read Expr}
    {fuel : Nat} (hread : item w = .ok (a, separator :: u))
    (hread' : readJoined separator join item fuel u = .ok (e, z)) :
    readJoined separator join item (fuel + 1) w = .ok (join a e, z) := by
  refine bind_eq_ok.2 ⟨(a, separator :: u), hread, ?_⟩
  simp only [if_true, hread']
  rfl

/-- The reader of a level, with fuel for its items. -/
def Level.reader (inner : Read Expr) : Level → Nat → Read Expr
  | factor, _ => readFactor inner
  | exception, _ => readException inner
  | concatenation, fuel => readJoined ',' .concatenation (readException inner) fuel
  | alternation, fuel => readJoined '|' .alternation (readConcatenation inner) fuel

/-- What stands behind a mark is shorter than the text in front of the tokens before it. -/
theorem length_lt_of_reads (hw : skipLayout w = x) (h : Reads ts x (c :: u)) :
    u.length < w.length := by
  have hle := h.suffix.length_le
  have hle' := length_skipLayout_le w
  rw [hw] at hle'
  simp only [List.length_cons] at hle
  omega

theorem Reads.around_inv {us : List Token} {m : Mark} (h : Reads (ts ++ .mark m :: us) x z)
    (hz : Bare z) (hw : skipLayout w = x) :
    ∃ u y, Reads ts x (m.char :: u) ∧ Reads us y z ∧ skipLayout u = y ∧ u.length < w.length := by
  obtain ⟨v, hfirst, hrest⟩ := h.split
  obtain ⟨layout, y, rfl, -, hsecond, hskip⟩ := hrest.head hz
  exact ⟨layout ++ y, y, hfirst, hsecond, hskip, length_lt_of_reads hw hfirst⟩

/-- A level reads what is spelled there, if the expressions in brackets are read. -/
theorem Spells.reader {n fuel : Nat} (hinner : CompleteAt n .alternation inner)
    (h : Spells l e ts) (hreads : Reads ts x z) (hz : Follows l z) (hw : skipLayout w = x)
    (hn : w.length < n + 1) (hfuel : w.length < fuel) :
    l.reader inner fuel w = .ok (e, z) := by
  induction h generalizing x z w fuel with
  | identifier valid =>
    obtain ⟨layout, y, rfl, hlayout, hrest, hskip⟩ := hreads.head hz.bare
    cases hrest
    have hname : ∀ c ∈ (layout ++ z).head?, ¬ NamePart c := by
      refine hlayout.head_append (List.all_iff_forall_prop.1 rfl) fun c hc => ?_
      have hstops : ∀ d ∈ Level.factor.stops, ¬ NamePart d := List.all_iff_forall_prop.1 rfl
      exact hstops c (hz c hc)
    rw [← hskip]
    exact readFactor_of_atom hw (readAtom_identifier valid hname)
  | terminal valid =>
    obtain ⟨layout, y, rfl, -, hrest, hskip⟩ := hreads.head hz.bare
    cases hrest
    have hdot : ∀ c ∈ (skipLayout (layout ++ z)).head?, c ≠ '.' := by
      rw [hskip]
      have hstops : ∀ d ∈ Level.factor.stops, d ≠ '.' := List.all_iff_forall_prop.1 rfl
      exact fun c hc => hstops c (hz c hc)
    rw [← hskip]
    exact readFactor_of_atom hw (readAtom_terminal valid hdot)
  | range valid valid' =>
    obtain ⟨y, hread, rfl⟩ := readRange_of_reads hreads hz.bare
    refine readFactor_of_atom hw ?_
    obtain ⟨layout, u, rfl, -⟩ := hreads.head hz.bare
    rw [readAtom_token quoted_head, hread]
    rfl
  | @bracket b e ts hspells _ =>
    obtain ⟨layout, y, rfl, hlayout, hrest, hskip⟩ := hreads.head hz.bare
    obtain ⟨y', hinside, hclosing⟩ := hrest.split
    obtain ⟨layout', y'', rfl, hlayout', hend, hskip'⟩ := hclosing.head hz.bare
    cases hend
    have hlt : (layout ++ y).length < w.length := length_lt_of_reads hw .nil
    have hread : inner (layout ++ y) = .ok (e, b.closing :: (layout' ++ z)) :=
      hinner hspells hinside (follows_mark (.closing b) (by cases b <;> decide) _) hskip (by omega)
    rw [← hskip']
    exact readFactor_of_atom hw (readAtom_wrap b hread)
  | exception _ _ ih₁ ih₂ =>
    obtain ⟨u, y, hfirst, hsecond, hskip, hlt⟩ := hreads.around_inv hz.bare hw
    have hread := ih₁ hfirst (follows_mark .hyphen (by decide) _) hw hn hfuel
    have hread' := ih₂ hsecond hz.factor hskip (by omega) (Nat.lt_succ_self _)
    exact readException_pair hread hread'
  | concatenation _ _ ih₁ ih₂ =>
    obtain ⟨u, y, hfirst, hsecond, hskip, hlt⟩ := hreads.around_inv hz.bare hw
    obtain ⟨fuel, rfl⟩ := Nat.exists_eq_succ_of_ne_zero (Nat.ne_zero_of_lt hfuel)
    have hread := ih₁ hfirst (follows_mark .comma (by decide) _) hw hn hfuel
    have hread' : Level.reader inner .concatenation fuel _ = _ :=
      ih₂ hsecond hz hskip (by omega) (by omega)
    exact readJoined_more hread hread'
  | alternation _ _ ih₁ ih₂ =>
    obtain ⟨u, y, hfirst, hsecond, hskip, hlt⟩ := hreads.around_inv hz.bare hw
    obtain ⟨fuel, rfl⟩ := Nat.exists_eq_succ_of_ne_zero (Nat.ne_zero_of_lt hfuel)
    have hread := ih₁ hfirst (follows_mark .bar (by decide) _) hw hn (Nat.lt_succ_self _)
    have hread' : Level.reader inner .alternation fuel _ = _ :=
      ih₂ hsecond hz hskip (by omega) (by omega)
    exact readJoined_more hread hread'
  | ofFactor _ ih =>
    have hread := ih hreads hz.factor hw hn hfuel
    exact readException_single hread (hz.ne (c := '-') (by decide))
  | ofException _ ih =>
    obtain ⟨fuel, rfl⟩ := Nat.exists_eq_succ_of_ne_zero (Nat.ne_zero_of_lt hfuel)
    have hread := ih hreads (hz.mono (by decide)) hw hn hfuel
    exact readJoined_last hread (hz.ne (c := ',') (by decide)) fuel
  | ofConcatenation _ ih =>
    obtain ⟨fuel, rfl⟩ := Nat.exists_eq_succ_of_ne_zero (Nat.ne_zero_of_lt hfuel)
    have hread : readConcatenation inner w = .ok _ :=
      ih hreads (hz.mono (by decide)) hw hn (Nat.lt_succ_self _)
    exact readJoined_last hread (hz.ne (c := '|') (by decide)) fuel

theorem readNested_complete (n : Nat) : CompleteAt n .alternation (readNested n) := by
  induction n with
  | zero =>
    intro e ts x z w _ _ _ _ hn
    exact absurd hn (Nat.not_lt_zero _)
  | succ n ih =>
    intro e ts x z w h hreads hz hw hn
    exact h.reader ih hreads hz hw hn (Nat.lt_succ_self _)

theorem readExpr_complete (h : e.Spelled ts) (hreads : Reads ts x z) (hz : Follows .alternation z)
    (hw : skipLayout w = x) : readExpr w = .ok (e, z) :=
  readNested_complete _ h hreads hz hw (Nat.lt_succ_self _)

end

end Peg.Ebnf
