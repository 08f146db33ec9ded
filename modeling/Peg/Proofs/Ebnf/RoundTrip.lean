-- What is printed is read again. The printer puts nothing in parentheses, so that some trees do
-- not come back; those that do are exactly the ones that can be read from some text.
import Mathlib.Order.Basic
import Peg.Ebnf.Printer
import Peg.Proofs.Ebnf.Recognition

namespace Peg.Ebnf

/-! ## Canonical trees -/

def Level.rank : Level → Nat
  | factor => 0
  | exception => 1
  | concatenation => 2
  | alternation => 3

instance : Preorder Level := .lift Level.rank

instance : DecidableLE Level := fun l l' => inferInstanceAs (Decidable (l.rank ≤ l'.rank))

/-- How loosely an expression holds together at its top. -/
def Expr.level : Expr → Level
  | identifier _ | terminal _ | range _ _ | optional _ | repetition _ | group _ => .factor
  | exception _ _ => .exception
  | concatenation _ _ => .concatenation
  | alternation _ _ => .alternation

/-- No parentheses are missing, and names and terminals can be written. -/
def Expr.Canonical : Expr → Prop
  | identifier name => IsName name.toList
  | terminal text => ¬ ('\'' ∈ text.toList ∧ '"' ∈ text.toList)
  | range _ _ => True
  | optional e | repetition e | group e => e.Canonical
  | exception a b => (a.level ≤ .factor ∧ a.Canonical) ∧ b.level ≤ .factor ∧ b.Canonical
  | concatenation a b =>
    (a.level ≤ .exception ∧ a.Canonical) ∧ b.level ≤ .concatenation ∧ b.Canonical
  | alternation a b =>
    (a.level ≤ .concatenation ∧ a.Canonical) ∧ b.level ≤ .alternation ∧ b.Canonical

def Production.Canonical (p : Production) : Prop := IsName p.name.toList ∧ p.body.Canonical

def Grammar.Canonical (g : Grammar) : Prop := ∀ p ∈ g.productions, p.Canonical

section

variable {l l' : Level} {e a b : Expr} {p : Production} {g : Grammar}
variable {ts us : List Token} {s s' layout text : List Char}

/-! ## What is spelled is canonical -/

theorem Level.le_alternation (l : Level) : l ≤ .alternation := by cases l <;> decide

theorem Bracket.level_wrap (b : Bracket) : (b.wrap e).level = .factor := by cases b <;> rfl

theorem Bracket.canonical_wrap (b : Bracket) : (b.wrap e).Canonical ↔ e.Canonical := by
  cases b <;> rfl

theorem Quote.not_both {q : Quote} (h : q.char ∉ text) : ¬ ('\'' ∈ text ∧ '"' ∈ text) := by
  rintro ⟨hsingle, hdouble⟩
  cases q with
  | single => exact h hsingle
  | double => exact h hdouble

theorem Spells.canonical (h : Spells l e ts) : e.level ≤ l ∧ e.Canonical := by
  induction h with
  | identifier valid => exact ⟨le_rfl, valid⟩
  | terminal valid => exact ⟨le_rfl, Quote.not_both valid⟩
  | range _ _ => exact ⟨le_rfl, trivial⟩
  | bracket b _ ih => exact ⟨by rw [b.level_wrap], b.canonical_wrap.2 ih.2⟩
  | exception _ _ iha ihb => exact ⟨le_rfl, iha, ihb⟩
  | concatenation _ _ iha ihb => exact ⟨le_rfl, iha, ihb⟩
  | alternation _ _ iha ihb => exact ⟨le_rfl, iha, ihb⟩
  | ofFactor _ ih => exact ⟨ih.1.trans (by decide), ih.2⟩
  | ofException _ ih => exact ⟨ih.1.trans (by decide), ih.2⟩
  | ofConcatenation _ ih => exact ⟨ih.1.trans (by decide), ih.2⟩

theorem Production.Spelled.canonical (h : p.Spelled ts) : p.Canonical := by
  obtain ⟨valid, hbody⟩ := h
  exact ⟨valid, (Spells.canonical hbody).2⟩

theorem Grammar.Spelled.canonical (h : g.Spelled ts) : g.Canonical := by
  induction h with
  | nil => simp [Grammar.Canonical]
  | cons hp _ ih => exact List.forall_mem_cons.2 ⟨hp.canonical, ih⟩

theorem Spells.mono (h : Spells l e ts) (hle : l ≤ l') : Spells l' e ts := by
  cases l <;> cases l'
  case factor.factor | exception.exception | concatenation.concatenation |
    alternation.alternation => exact h
  case factor.exception => exact .ofFactor h
  case factor.concatenation => exact .ofException (.ofFactor h)
  case factor.alternation => exact .ofConcatenation (.ofException (.ofFactor h))
  case exception.concatenation => exact .ofException h
  case exception.alternation => exact .ofConcatenation (.ofException h)
  case concatenation.alternation => exact .ofConcatenation h
  all_goals exact absurd hle (by decide)

/-! ## What is canonical is printed as its tokens -/

/-- A text is tokens and the layout between them, without any at its ends. -/
def Shows (ts : List Token) (s : List Char) : Prop :=
  ∀ layout x, Layout layout → Reads ts (s ++ (layout ++ x)) x

theorem Shows.single (t : Token) : Shows [t] t.text := fun _ _ h => .cons t h .nil

theorem Shows.append (h : Shows ts s) (hlayout : Layout layout) (h' : Shows us s') :
    Shows (ts ++ us) (s ++ (layout ++ s')) := by
  intro layout' x hlayout'
  simp only [List.append_assoc]
  exact (h _ _ hlayout).append (h' _ _ hlayout')

theorem layout_space : Layout [' '] := .blank (by decide) .nil

/-- The printer puts a space on either side of a mark. -/
theorem Shows.around (m : Mark) (h : Shows ts s) (h' : Shows us s') :
    Shows (ts ++ .mark m :: us) (s ++ [' ', m.char, ' '] ++ s') := by
  have h := h.append layout_space ((Shows.single (.mark m)).append layout_space h')
  simpa [Token.text] using h

theorem exists_quoteTerminal (h : ¬ ('\'' ∈ text ∧ '"' ∈ text)) :
    ∃ (q : Quote) (valid : q.char ∉ text),
      quoteTerminal text = (Token.quoted q text valid).text := by
  by_cases hdouble : '"' ∈ text
  · exact ⟨.single, fun hsingle => h ⟨hsingle, hdouble⟩,
      by simp [quoteTerminal, Token.text, Quote.char, hdouble]⟩
  · exact ⟨.double, hdouble, by simp [quoteTerminal, Token.text, Quote.char, hdouble]⟩

theorem exists_quoteTerminal_char (c : Char) :
    ∃ (q : Quote) (valid : q.char ∉ [c]), quoteTerminal [c] = (Token.quoted q [c] valid).text := by
  apply exists_quoteTerminal
  rintro ⟨hsingle, hdouble⟩
  rw [List.mem_singleton] at hsingle hdouble
  rw [← hsingle] at hdouble
  cases hdouble

theorem Bracket.print_wrap (b : Bracket) :
    (b.wrap e).print = [b.opening, ' '] ++ e.print ++ [' ', b.closing] := by
  cases b <;> rfl

theorem Shows.wrap (b : Bracket) (h : Shows ts e.print) :
    Shows (.mark (.opening b) :: (ts ++ [.mark (.closing b)])) (b.wrap e).print := by
  have h := (Shows.single (.mark (.opening b))).append layout_space
    (h.append layout_space (.single (.mark (.closing b))))
  rw [b.print_wrap]
  simpa [Token.text, Mark.char] using h

/-- What is spelled in brackets may hold together as loosely as anything. -/
theorem exists_wrap (b : Bracket) (h : ∃ ts, Spells e.level e ts ∧ Shows ts e.print) :
    ∃ ts, Spells .factor (b.wrap e) ts ∧ Shows ts (b.wrap e).print := by
  obtain ⟨ts, hspells, hshows⟩ := h
  exact ⟨_, .bracket b (hspells.mono e.level.le_alternation), hshows.wrap b⟩

theorem Expr.Canonical.shows (h : e.Canonical) :
    ∃ ts, Spells e.level e ts ∧ Shows ts e.print := by
  induction e with
  | identifier name => exact ⟨_, .identifier h, .single (.name name h)⟩
  | terminal text =>
    obtain ⟨q, valid, htext⟩ := exists_quoteTerminal h
    refine ⟨_, .terminal valid, ?_⟩
    rw [Expr.print, htext]
    exact .single _
  | range lo hi =>
    obtain ⟨q, valid, hlo⟩ := exists_quoteTerminal_char lo
    obtain ⟨q', valid', hhi⟩ := exists_quoteTerminal_char hi
    refine ⟨_, .range valid valid', ?_⟩
    have h := (Shows.single (.quoted q [lo] valid)).append layout_space
      ((Shows.single .dots).append layout_space (.single (.quoted q' [hi] valid')))
    rw [Expr.print, hlo, hhi]
    simpa [Token.text] using h
  | optional e ih => exact exists_wrap .optional (ih h)
  | repetition e ih => exact exists_wrap .repetition (ih h)
  | group e ih => exact exists_wrap .group (ih h)
  | exception a b iha ihb =>
    obtain ⟨⟨hla, ha⟩, hlb, hb⟩ := h
    obtain ⟨ts, hspells, hshows⟩ := iha ha
    obtain ⟨us, hspells', hshows'⟩ := ihb hb
    exact ⟨_, .exception (hspells.mono hla) (hspells'.mono hlb), hshows.around .hyphen hshows'⟩
  | alternation a b iha ihb =>
    obtain ⟨⟨hla, ha⟩, hlb, hb⟩ := h
    obtain ⟨ts, hspells, hshows⟩ := iha ha
    obtain ⟨us, hspells', hshows'⟩ := ihb hb
    exact ⟨_, .alternation (hspells.mono hla) (hspells'.mono hlb), hshows.around .bar hshows'⟩
  | concatenation a b iha ihb =>
    obtain ⟨⟨hla, ha⟩, hlb, hb⟩ := h
    obtain ⟨ts, hspells, hshows⟩ := iha ha
    obtain ⟨us, hspells', hshows'⟩ := ihb hb
    exact ⟨_, .concatenation (hspells.mono hla) (hspells'.mono hlb), hshows.around .comma hshows'⟩

theorem Expr.Canonical.spelled (h : e.Canonical) : ∃ ts, e.Spelled ts ∧ Shows ts e.print := by
  obtain ⟨ts, hspells, hshows⟩ := h.shows
  exact ⟨ts, hspells.mono e.level.le_alternation, hshows⟩

theorem Production.Canonical.spelled (h : p.Canonical) : ∃ ts, p.Spelled ts ∧ Shows ts p.print := by
  obtain ⟨valid, hbody⟩ := h
  obtain ⟨ts, hspells, hshows⟩ := hbody.spelled
  refine ⟨_, .intro valid hspells, ?_⟩
  have h := (Shows.single (.name p.name valid)).around .equals
    (hshows.append layout_space (.single (.mark .semicolon)))
  simpa [Production.print, Token.text, Mark.char] using h

theorem Shows.renders (h : Shows ts s) : Renders ts s := by
  have h := h [] [] .nil
  rw [List.append_nil, List.append_nil] at h
  exact ⟨[], s, rfl, .nil, h⟩

/-- The productions stand on a line each. -/
theorem Grammar.Canonical.spelled (h : g.Canonical) : ∃ ts, g.Spelled ts ∧ Reads ts g.print [] := by
  obtain ⟨ps⟩ := g
  induction ps with
  | nil => exact ⟨[], .nil, .nil⟩
  | cons p ps ih =>
    obtain ⟨hp, hps⟩ := List.forall_mem_cons.1 h
    obtain ⟨ts, hspells, hshows⟩ := hp.spelled
    obtain ⟨us, hspells', hreads⟩ := ih hps
    refine ⟨ts ++ us, .cons hspells hspells', ?_⟩
    have h := (hshows ['\n'] _ (.blank (by decide) .nil)).append hreads
    simpa [Grammar.print] using h

/-! ## Round trips -/

/-- What comes of printing and reading. -/
structure RoundTrips {α : Type} (parse : List Char → Except ReadError α)
    (print : α → List Char) (canonical : α → Prop) : Prop where
  /-- A tree comes back if and only if it is canonical. -/
  back_iff (t : α) : parse (print t) = .ok t ↔ canonical t
  /-- Whatever is read is canonical. -/
  canonical {s : List Char} {t : α} (h : parse s = .ok t) : canonical t
  /-- What has been read from any text is printed as a text that gives it again. -/
  again {s : List Char} {t : α} (h : parse s = .ok t) : parse (print t) = .ok t

theorem Recognizes.roundTrips {α : Type} {parse : List Char → Except ReadError α}
    {spelled : α → List Token → Prop} {print : α → List Char} {canonical : α → Prop}
    (h : Recognizes parse spelled) (hspelled : ∀ {t ts}, spelled t ts → canonical t)
    (hprint : ∀ {t}, canonical t → ∃ ts, spelled t ts ∧ Renders ts (print t)) :
    RoundTrips parse print canonical := by
  have hcanonical : ∀ {s t}, parse s = .ok t → canonical t := by
    intro s t hread
    obtain ⟨ts, hts, -⟩ := (h.ok_iff s t).1 hread
    exact hspelled hts
  have hback : ∀ {t}, canonical t → parse (print t) = .ok t := fun ht =>
    (h.ok_iff _ _).2 (hprint ht)
  exact ⟨fun t => ⟨hcanonical, hback⟩, hcanonical, fun hread => hback (hcanonical hread)⟩

/-- An expression, a production or a grammar is printed as a text that gives it again if and only
if it is canonical, as are all that can be read. -/
theorem canonical_trees_come_back_from_their_text :
    RoundTrips Expr.parse Expr.print Expr.Canonical ∧
      RoundTrips Production.parse Production.print Production.Canonical ∧
      RoundTrips Grammar.parse Grammar.print Grammar.Canonical := by
  refine ⟨Expr.recognized.roundTrips (fun h => (Spells.canonical h).2) ?_,
    Production.recognized.roundTrips (fun h => h.canonical) ?_,
    Grammar.recognized.roundTrips (fun h => h.canonical) ?_⟩
  · intro e h
    obtain ⟨ts, hspells, hshows⟩ := h.spelled
    exact ⟨ts, hspells, hshows.renders⟩
  · intro p h
    obtain ⟨ts, hspells, hshows⟩ := h.spelled
    exact ⟨ts, hspells, hshows.renders⟩
  · intro g h
    obtain ⟨ts, hspells, hreads⟩ := h.spelled
    exact ⟨ts, hspells, [], g.print, rfl, .nil, hreads⟩

-- without its parentheses, an alternation takes in what comes behind it
example :
    Expr.parse (Expr.concatenation (.alternation (.identifier "a") (.identifier "b"))
      (.identifier "c")).print =
      .ok (.alternation (.identifier "a")
        (.concatenation (.identifier "b") (.identifier "c"))) := by
  rfl

end

end Peg.Ebnf
