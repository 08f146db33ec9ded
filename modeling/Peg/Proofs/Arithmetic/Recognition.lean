-- The rules of arithmetic find what tokens stand for a part, and nothing else, and their captures
-- have the effect of its value.
import Peg.Proofs.Arithmetic.Answers

namespace Peg.Arithmetic

open Text

section

variable {input y z u : List Char} {lvl : Level}

/-! ## What is found is meant -/

/-- In front of a text a part is missed, or it is found where tokens stand for it, and what is left
behind pushes its value. -/
def Sound (input : List Char) (P : Part) (x : List Char) : Prop :=
  Misses input P x ∨
    ∃ y l ts v, Finds input P x y l ∧ Reads ts x (skip y) ∧ Means P ts v ∧ Pushes l v

theorem factor_sound {x : List Char} (hx : x <:+ input)
    (hsum : ∀ z, z.length < x.length → z <:+ input → Sound input (.chain .sum) z) :
    Sound input .factor x := by
  by_cases hopening : ['('] <+: x
  · obtain ⟨u, rfl⟩ := hopening
    have hsuffix : skip u <:+ '(' :: u := (skip_suffix u).trans (List.suffix_cons '(' u)
    have hlt : (skip u).length < (['('] ++ u).length := by
      have hle := (skip_suffix u).length_le
      simp only [List.length_append, List.length_singleton]
      omega
    rcases hsum (skip u) hlt (hsuffix.trans hx) with
      hmiss | ⟨y, l, ts, v, hfind, hreads, hmeans, hpushes⟩
    · exact .inl (factor_missed_inside hmiss)
    · by_cases hclosing : [')'] <+: skip y
      · obtain ⟨z, hz⟩ := hclosing
        obtain ⟨layout, hlayout, hu⟩ := exists_layout u
        have hgroup :
            Reads (.opening :: (ts ++ [.closing])) ('(' :: (layout ++ skip u)) (skip z) := by
          apply Reads.cons .opening hlayout
          apply hreads.append
          rw [← hz]
          exact .single .closing z
        rw [← hu] at hgroup
        exact .inr ⟨z, l, _, v, factor_of_group hfind hz.symm, hgroup, .group hmeans, hpushes⟩
      · exact .inl (factor_missed_at_end hfind hclosing)
  · by_cases hdigit : StartsWith Char.isDigit x
    · obtain ⟨n, y, rfl, hends⟩ := exists_number hdigit
      obtain ⟨v, hv⟩ := parseFloat_text n
      exact .inr ⟨y, _, _, v, factor_of_number hends, .single (.number n) y, .number hv,
        .number rfl hx rfl hv⟩
    · exact .inl (factor_missed_at_start hopening hdigit)

theorem length_lt_of_symbol {w : List Char} {op : Operation} (hu : skip w = op.symbol.toList ++ u) :
    (skip u).length < w.length := by
  have hle := (skip_suffix u).length_le
  have hle' := (skip_suffix w).length_le
  have hsymbol : 0 < op.symbol.toList.length := by cases op <;> decide
  rw [hu, List.length_append] at hle'
  omega

/-- Operations are found as long as they have an operand, and what is left behind turns the value
of the operand before them. -/
theorem tail_sound {w : List Char} (hw : w <:+ input)
    (hoperand : ∀ z, z.length < w.length → z <:+ input → Sound input lvl.operand z) :
    ∃ y l, Tail input lvl w y l ∧ ∀ a, ∃ us v, Reads us (skip w) (skip y) ∧
      Means (.tail lvl a) us v ∧ Turns l a v := by
  by_cases hturn : ∃ op u y l ts b, lvl.has op = true ∧ skip w = op.symbol.toList ++ u ∧
      Finds input lvl.operand (skip u) y l ∧ Reads ts (skip u) (skip y) ∧
      Means lvl.operand ts b ∧ Pushes l b
  · obtain ⟨op, u, y, l, ts, b, hop, hu, hfind, hreads, hmeans, hpushes⟩ := hturn
    obtain ⟨id, s, hr, hm⟩ := turn_finds hop hu hfind
    have hyw : y <:+ w := hm.rest_suffix
    have hlt : y.length < w.length :=
      Nat.lt_of_le_of_lt hfind.rest_suffix.length_le (length_lt_of_symbol hu)
    -- the value is not fixed here: what follows turns whatever this operation makes of it
    obtain ⟨z, k, ⟨n, hn⟩, hrest⟩ := tail_sound (hyw.trans hw) fun z hz => hoperand z (by omega)
    refine ⟨z, _ ++ k, ⟨n + 1, .step hm ?_ hn⟩, ?_⟩
    · rintro rfl
      exact Nat.lt_irrefl _ hlt
    · intro a
      obtain ⟨us, v, hus, hvalue, hturns'⟩ := hrest (op.apply a b)
      obtain ⟨layout, hlayout, hlu⟩ := exists_layout u
      have hall : Reads (.operator op :: (ts ++ us)) (skip w) (skip z) := by
        rw [hu, hlu]
        exact .cons (.operator op) hlayout (hreads.append hus)
      exact ⟨_, v, hall, .turn hop hmeans hvalue, (hpushes.turn hr).trans hturns'⟩
  · have hmisses : ∀ op u, lvl.has op = true → skip w = op.symbol.toList ++ u →
        Misses input lvl.operand (skip u) := by
      intro op u hop hu
      have huw : u <:+ w := (List.suffix_append _ u).trans (hu ▸ skip_suffix w)
      have hskip : skip u <:+ input := ((skip_suffix u).trans huw).trans hw
      rcases hoperand (skip u) (length_lt_of_symbol hu) hskip with hmiss | hfound
      · exact hmiss
      · obtain ⟨y, l, ts, b, hfind, hreads, hmeans, hpushes⟩ := hfound
        exact absurd ⟨op, u, y, l, ts, b, hop, hu, hfind, hreads, hmeans, hpushes⟩ hturn
    obtain ⟨y, hy⟩ := turn_misses hmisses
    exact ⟨w, [], ⟨0, .stop hy⟩, fun a => ⟨[], a, .nil, .stop, .nil⟩⟩
termination_by w.length

theorem chain_sound {x : List Char} (hx : x <:+ input)
    (hoperand : ∀ z, z.length ≤ x.length → z <:+ input → Sound input lvl.operand z) :
    Sound input (.chain lvl) x := by
  rcases hoperand x (Nat.le_refl _) hx with hmiss | ⟨y, l, ts, a, hfind, hreads, hmeans, hpushes⟩
  · exact .inl (chain_misses hmiss)
  · have hyx : skip y <:+ x := (skip_suffix y).trans hfind.rest_suffix
    obtain ⟨z, m, htail, hrest⟩ := tail_sound (hyx.trans hx) fun z hz =>
      hoperand z (hz.le.trans hyx.length_le)
    obtain ⟨us, v, hus, hvalue, hturns⟩ := hrest a
    rw [skip_skip] at hus
    exact .inr ⟨z, l ++ m, ts ++ us, v, chain_finds hfind htail, hreads.append hus,
      .chain hmeans hvalue, hpushes.turns hturns⟩

/-- Sums are found where tokens stand for one. -/
theorem sum_sound {x : List Char} (hx : x <:+ input) : Sound input (.chain .sum) x := by
  -- only a group asks for a sum again, and that one is shorter
  have hfactor : ∀ z, z.length ≤ x.length → z <:+ input → Sound input .factor z := fun z hle hz =>
    factor_sound hz fun z' hlt hz' => sum_sound hz'
  have hproduct : ∀ z, z.length ≤ x.length → z <:+ input → Sound input (.chain .product) z :=
    fun z hle hz => chain_sound hz fun z' hle' => hfactor z' (hle'.trans hle)
  exact chain_sound hx hproduct
termination_by x.length

/-! ## What is meant is found -/

/-- How loosely an operation binds. -/
def Operation.rank : Operation → Nat
  | mul | div => 0
  | add | sub => 1

def Level.rank : Level → Nat
  | product => 1
  | sum => 2

/-- A part takes all operations that bind closer than this. -/
def Part.rank : Part → Nat
  | factor => 0
  | chain lvl | tail lvl _ => lvl.rank

/-- What can come behind a part: the end, a closing parenthesis, or an operation that binds too
loosely for the part. -/
def Follows (P : Part) (z : List Char) : Prop :=
  ∀ c ∈ z.head?, c = ')' ∨ ∃ op : Operation, op.symbol.toList = [c] ∧ P.rank ≤ op.rank

theorem Follows.mono {P Q : Part} (h : Follows P z) (hle : Q.rank ≤ P.rank) : Follows Q z := by
  intro c hc
  rcases h c hc with hclosing | ⟨op, hop, hrank⟩
  · exact .inl hclosing
  · exact .inr ⟨op, hop, hle.trans hrank⟩

/-- What comes behind a part is neither a blank nor part of a number. -/
theorem Follows.head {P : Part} (h : Follows P z) {c : Char} (hc : c ∈ z.head?) :
    ¬ Ebnf.isLayoutBlank c = true ∧ ¬ c.isDigit = true ∧ c ≠ '.' := by
  rcases h c hc with rfl | ⟨op, hop, -⟩
  · decide
  · cases op <;> cases hop <;> decide

theorem Follows.skip_eq {P : Part} (h : Follows P z) : skip z = z :=
  skip_eq_self fun _ hc => (h.head hc).1

/-- A number ends where what comes behind it, or layout before that, begins. -/
theorem Follows.ends {P : Part} (h : Follows P (skip y)) (n : Number) : n.Ends y := by
  have hhead : ∀ c ∈ y.head?, ¬ c.isDigit = true ∧ c ≠ '.' := by
    intro c hc
    by_cases hblank : Ebnf.isLayoutBlank c = true
    · simp only [Ebnf.isLayoutBlank, Bool.or_eq_true, decide_eq_true_eq] at hblank
      rcases hblank with ((rfl | rfl) | rfl) | rfl <;> decide
    · have hy : skip y = y := by
        apply skip_eq_self
        intro d hd
        rw [hc] at hd
        cases hd
        exact hblank
      rw [hy] at h
      exact (h.head hc).2
  constructor
  · rintro ⟨c, hc, hdigit⟩
    exact (hhead c hc).1 hdigit
  · rintro - u rfl
    exact absurd rfl (hhead '.' rfl).2

/-- A part is found up to a place, and what is left behind has the effect of its value. Operations
behind an operand are found from wherever only layout stands before them. -/
def Complete (input : List Char) : Part → List Char → List Char → Float → Prop
  | .tail lvl a, x, z, v => ∀ w, skip w = x → ∃ y l, Tail input lvl w y l ∧ skip y = z ∧ Turns l a v
  | P, x, z, v => ∃ y l, Finds input P x y l ∧ skip y = z ∧ Pushes l v

theorem Complete.operand {x : List Char} {v : Float} (h : Complete input lvl.operand x z v) :
    ∃ y l, Finds input lvl.operand x y l ∧ skip y = z ∧ Pushes l v := by
  cases lvl <;> exact h

end

end Peg.Arithmetic
