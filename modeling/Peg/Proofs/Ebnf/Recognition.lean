-- Productions, grammars and whole texts: exactly the texts that render the tokens of a tree are
-- read, and they are read as this tree.
import Peg.Proofs.Ebnf.Expressions

namespace Peg.Ebnf

section

variable {p : Production} {ps : List Production} {ts : List Token} {w x y z : List Char}
variable {mark : Char} {fuel : Nat}

/-! ## Productions -/

theorem readMark_eq_ok : readMark mark w = .ok y ↔ w = mark :: y := by
  cases w with
  | nil => simp [readMark]
  | cons c w =>
    rw [readMark]
    split
    · next hc => simp [hc]
    · next hc => simp [hc]

theorem readProduction_sound (h : readProduction w = .ok (p, z)) :
    ∃ ts, p.Spelled ts ∧ Reads ts (skipLayout w) z ∧ skipLayout z = z := by
  unfold readProduction at h
  dsimp only at h
  split at h
  · cases h
  · next name y hname =>
    obtain ⟨u, hequals, h⟩ := bind_eq_ok.1 h
    obtain ⟨⟨body, v⟩, hbody, h⟩ := bind_eq_ok.1 h
    obtain ⟨rest, hsemicolon, h⟩ := bind_eq_ok.1 h
    cases h
    dsimp only at hsemicolon
    rw [readMark_eq_ok] at hequals hsemicolon
    obtain ⟨valid, hw⟩ := exists_name hname
    obtain ⟨ts, hspells, hreads, -⟩ := readExpr_sound hbody
    rw [hsemicolon] at hreads
    have hfirst := Reads.single (.name name valid) y
    rw [← hw, hequals] at hfirst
    exact ⟨_, .intro valid hspells,
      hfirst.around .equals (hreads.append (.single (.mark .semicolon) rest)),
      skipLayout_skipLayout rest⟩

theorem readProduction_complete (h : p.Spelled ts) (hreads : Reads ts x z) (hz : Bare z)
    (hw : skipLayout w = x) : readProduction w = .ok (p, z) := by
  obtain ⟨valid, hspells⟩ := h
  obtain ⟨layout, y, rfl, hlayout, hrest, hskip⟩ := hreads.head hz
  obtain ⟨layout', y', rfl, -, hrest, hskip'⟩ := hrest.head hz
  obtain ⟨v, hbody, hend⟩ := hrest.split
  obtain ⟨layout'', u, rfl, -, hend, hskip''⟩ := hend.head hz
  cases hend
  have hparts : ∀ c ∈ (layout ++ ((Token.mark .equals).text ++ (layout' ++ y'))).head?,
      ¬ NamePart c := by
    refine hlayout.head_append (List.all_iff_forall_prop.1 rfl) fun c hc => ?_
    cases hc
    decide
  have hname : readName ((Token.name p.name valid).text ++ _) = _ := readName_append valid hparts
  have hread := readExpr_complete hspells hbody
    (follows_mark .semicolon (by decide) (layout'' ++ z)) hskip'
  simp only [readProduction, hw, hname, hskip]
  refine bind_eq_ok.2 ⟨layout' ++ y', readMark_eq_ok.2 rfl, ?_⟩
  refine bind_eq_ok.2 ⟨_, hread, ?_⟩
  refine bind_eq_ok.2 ⟨layout'' ++ z, readMark_eq_ok.2 rfl, ?_⟩
  rw [hskip'']
  rfl

/-! ## Grammars -/

theorem Reads.length_lt {t : Token} (h : Reads (t :: ts) x z) : z.length < x.length := by
  obtain ⟨c, u, ht, -⟩ := t.text_eq_cons
  cases h with
  | cons _ _ h =>
    have hle := h.suffix.length_le
    simp only [ht, List.cons_append, List.length_cons, List.length_append]
    omega

theorem readProduction_eq_error (hw : skipLayout w = []) :
    readProduction w = .error ⟨.item, []⟩ := by
  simp [readProduction, hw, readName]

theorem readProductions_sound (h : readProductions fuel w = (ps, z)) :
    ∃ ts, Grammar.Spelled ⟨ps⟩ ts ∧ Reads ts (skipLayout w) (skipLayout z) := by
  induction fuel generalizing w ps with
  | zero =>
    cases h
    exact ⟨[], .nil, .nil⟩
  | succ fuel ih =>
    rw [readProductions] at h
    split at h
    · cases h
      exact ⟨[], .nil, .nil⟩
    · next p y hread =>
      cases h
      obtain ⟨ts, hspells, hreads, hskip⟩ := readProduction_sound hread
      obtain ⟨us, hspells', hreads'⟩ := ih (w := y) rfl
      rw [hskip] at hreads'
      exact ⟨ts ++ us, .cons hspells hspells', hreads.append hreads'⟩

/-- Productions are read up to the end of the text, if there is no more than layout behind them. -/
theorem readProductions_complete {g : Grammar} (h : g.Spelled ts) (hreads : Reads ts x [])
    (hw : skipLayout w = x) (hfuel : w.length ≤ fuel) :
    ∃ z, readProductions fuel w = (g.productions, z) ∧ skipLayout z = [] := by
  induction h generalizing fuel w x with
  | nil =>
    cases hreads
    refine ⟨w, ?_, hw⟩
    cases fuel with
    | zero => rfl
    | succ fuel => rw [readProductions, readProduction_eq_error hw]
  | @cons p ps ts us hp _ ih =>
    obtain ⟨y, hfirst, hrest⟩ := hreads.split
    have hbare : Bare y := hrest.bare bare_nil
    have hlt : y.length < w.length := by
      have hle := length_skipLayout_le w
      rw [hw] at hle
      obtain ⟨valid, -⟩ := hp
      have hlt := hfirst.length_lt
      omega
    obtain ⟨fuel, rfl⟩ := Nat.exists_eq_succ_of_ne_zero (n := fuel) (by omega)
    have hfuel' : y.length ≤ fuel := by omega
    obtain ⟨z, hread, hz⟩ := ih hrest hbare.1 hfuel'
    refine ⟨z, ?_, hz⟩
    rw [readProductions, readProduction_complete hp hfirst hbare hw]
    simp only [hread]

/-! ## Whole texts -/

theorem readWhole_eq_ok {α : Type} {read : Read α} {t : α} :
    readWhole read w = .ok t ↔ ∃ z, read w = .ok (t, z) ∧ skipLayout z = [] := by
  unfold readWhole
  rw [bind_eq_ok]
  constructor
  · rintro ⟨⟨t', z⟩, hread, h⟩
    dsimp only at h
    split at h
    · next hz =>
      cases h
      exact ⟨z, hread, hz⟩
    · cases h
  · rintro ⟨z, hread, hz⟩
    refine ⟨(t, z), hread, ?_⟩
    simp only [hz]
    rfl

theorem exists_renders (ts : List Token) : ∃ s, Renders ts s := by
  have hreads : ∃ x, Reads ts x [] := by
    induction ts with
    | nil => exact ⟨[], .nil⟩
    | cons t ts ih =>
      obtain ⟨x, hx⟩ := ih
      exact ⟨_, .cons t .nil hx⟩
  obtain ⟨x, hx⟩ := hreads
  exact ⟨x, [], x, rfl, .nil, hx⟩

/-- What a reader of whole texts makes of the tokens that stand for a tree. -/
structure Recognizes {α : Type} (parse : List Char → Except ReadError α)
    (spelled : α → List Token → Prop) : Prop where
  /-- A text is read as a tree if and only if it renders tokens of the tree. -/
  ok_iff (s : List Char) (t : α) : parse s = .ok t ↔ ∃ ts, spelled t ts ∧ Renders ts s
  /-- Whatever the layout is, tokens are read as the one tree that they stand for. -/
  layout {t : α} {ts : List Token} (h : spelled t ts) :
    (∀ s, Renders ts s → parse s = .ok t) ∧ ∀ t', spelled t' ts → t' = t
  /-- Every other text is an error. -/
  error_iff (s : List Char) : (∃ e, parse s = .error e) ↔ ¬ ∃ t ts, spelled t ts ∧ Renders ts s

theorem Recognizes.of_ok_iff {α : Type} {parse : List Char → Except ReadError α}
    {spelled : α → List Token → Prop}
    (h : ∀ s t, parse s = .ok t ↔ ∃ ts, spelled t ts ∧ Renders ts s) :
    Recognizes parse spelled where
  ok_iff := h
  layout {t ts} ht := by
    refine ⟨fun s hs => (h s t).2 ⟨ts, ht, hs⟩, fun t' ht' => ?_⟩
    obtain ⟨s, hs⟩ := exists_renders ts
    have hread := (h s t).2 ⟨ts, ht, hs⟩
    rw [(h s t').2 ⟨ts, ht', hs⟩] at hread
    cases hread
    rfl
  error_iff s := by
    cases hread : parse s with
    | error e =>
      refine ⟨fun _ ⟨t, ht⟩ => ?_, fun _ => ⟨e, rfl⟩⟩
      rw [(h s t).2 ht] at hread
      cases hread
    | ok t =>
      refine ⟨fun ⟨e, he⟩ => ?_, fun hnone => absurd ⟨t, (h s t).1 hread⟩ hnone⟩
      cases he

/-- A reader that reads what is spelled, and nothing else, recognizes whole texts. -/
theorem recognizes_readWhole {α : Type} {read : Read α} {spelled : α → List Token → Prop}
    (hsound : ∀ {w t z}, read w = .ok (t, z) →
      ∃ ts, spelled t ts ∧ Reads ts (skipLayout w) (skipLayout z))
    (hcomplete : ∀ {w t ts}, spelled t ts → Reads ts (skipLayout w) [] →
      ∃ z, read w = .ok (t, z) ∧ skipLayout z = []) :
    Recognizes (readWhole read) spelled := by
  refine .of_ok_iff fun s t => ?_
  simp only [renders_iff]
  rw [readWhole_eq_ok]
  constructor
  · rintro ⟨z, hread, hz⟩
    have h := hsound hread
    rwa [hz] at h
  · rintro ⟨ts, hspelled, hreads⟩
    exact hcomplete hspelled hreads

theorem Expr.recognized : Recognizes Expr.parse Expr.Spelled := by
  refine recognizes_readWhole ?_ ?_
  · intro w e z hread
    obtain ⟨ts, hspells, hreads, hskip⟩ := readExpr_sound hread
    exact ⟨ts, hspells, by rwa [hskip]⟩
  · intro w e ts hspells hreads
    exact ⟨[], readExpr_complete hspells hreads (follows_nil _) rfl, rfl⟩

theorem Production.recognized : Recognizes Production.parse Production.Spelled := by
  refine recognizes_readWhole ?_ ?_
  · intro w p z hread
    obtain ⟨ts, hspells, hreads, hskip⟩ := readProduction_sound hread
    exact ⟨ts, hspells, by rwa [hskip]⟩
  · intro w p ts hspells hreads
    exact ⟨[], readProduction_complete hspells hreads bare_nil rfl, rfl⟩

theorem Grammar.recognized : Recognizes Grammar.parse Grammar.Spelled := by
  refine recognizes_readWhole ?_ ?_
  · intro w g z hread
    cases hread
    exact readProductions_sound rfl
  · intro w g ts hspells hreads
    obtain ⟨z, hread, hz⟩ := readProductions_complete hspells hreads rfl (Nat.le_refl _)
    refine ⟨z, ?_, hz⟩
    rw [readGrammar, hread]

/-- Expressions, productions and grammars are read from exactly the texts that render them, with
any layout before, between and behind the tokens. -/
theorem exactly_the_rendered_texts_are_read :
    Recognizes Expr.parse Expr.Spelled ∧
      Recognizes Production.parse Production.Spelled ∧
      Recognizes Grammar.parse Grammar.Spelled :=
  ⟨Expr.recognized, Production.recognized, Grammar.recognized⟩

end

end Peg.Ebnf
