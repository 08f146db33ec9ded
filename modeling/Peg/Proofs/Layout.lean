-- The default white space skips all blanks and line ends that come next, whatever the active name
-- is, and records nothing.
import Peg.Ebnf.Lexical
import Peg.Proofs.Answers
import Peg.Proofs.Extending

namespace Peg

open Text Ebnf

variable {σ : Type}

/-! ## Rules that read one kind of characters -/

/-- The rule reads some characters of a kind, and only such, or it fails. Where a text `starts` as
it should, the rule does not fail. It records nothing. -/
def Eats (g : Arena σ) (input : List Char) (active : Option String) (a : RuleId) (p : Char → Bool)
    (starts : List Char → Prop) : Prop :=
  ∀ x,
    (∃ y, Answers g input ⟨a, active, x⟩ true y [] ∧ y ≠ x ∧ y.dropWhile p = x.dropWhile p) ∨
    (∃ y, Answers g input ⟨a, active, x⟩ false y [] ∧ ¬ starts x)

/-- The next character is of a kind. -/
def StartsWith (p : Char → Bool) (x : List Char) : Prop := ∃ c ∈ x.head?, p c = true

section

variable {g : Arena σ} {input x y : List Char} {active : Option String} {a b id : RuleId}
  {p : Char → Bool} {starts starts' : List Char → Prop}

theorem dropWhile_of_not_startsWith (h : ¬ StartsWith p x) : x.dropWhile p = x := by
  cases x with
  | nil => rfl
  | cons c x => exact List.dropWhile_cons_of_neg fun hc => h ⟨c, rfl, hc⟩

theorem not_startsWith_dropWhile (p : Char → Bool) (x : List Char) :
    ¬ StartsWith p (x.dropWhile p) := by
  rintro ⟨c, hc, hp⟩
  have h := List.head?_dropWhile_not p x
  rw [hc] at h
  simp [hp] at h

theorem Eats.mono (h : Eats g input active a p starts) (hs : ∀ x, starts' x → starts x) :
    Eats g input active a p starts' := by
  intro x
  rcases h x with hx | ⟨y, hy, hx⟩
  · exact .inl hx
  · exact .inr ⟨y, hy, fun h => hx (hs x h)⟩

theorem Eats.literal {text : String} (hr : g.rule? id = some (.literal text))
    (hne : text.toList ≠ []) (hp : text.toList.all p = true) :
    Eats g input active id p (text.toList <+: ·) := by
  intro x
  by_cases hx : text.toList <+: x
  · obtain ⟨y, rfl⟩ := hx
    refine .inl ⟨y, .literal hr, ?_, ?_⟩
    · intro hy
      exact hne (List.append_left_eq_self.1 hy.symm)
    · rw [List.dropWhile_append_of_pos (List.all_eq_true.1 hp)]
  · exact .inr ⟨x, .literal_fails hr hx, hx⟩

/-- The same without naming the text: the rule does not fail where its own text comes next. -/
theorem Eats.own_text {text : String} (hr : g.rule? id = some (.literal text))
    (hne : text.toList ≠ []) (hp : text.toList.all p = true) :
    Eats g input active id p fun x => ∃ text, g.rule? id = some (.literal text) ∧
      text.toList <+: x := by
  refine (Eats.literal hr hne hp).mono fun x ⟨text', hr', hx⟩ => ?_
  rw [hr] at hr'
  cases hr'
  exact hx

theorem Eats.range {lo hi : Char} (hr : g.rule? id = some (.range lo hi))
    (hp : ∀ c, p c = true ↔ lo ≤ c ∧ c ≤ hi) : Eats g input active id p (StartsWith p) := by
  intro x
  by_cases hx : StartsWith p x
  · obtain ⟨c, hc, hpc⟩ := hx
    obtain ⟨y, rfl⟩ := List.head?_eq_some_iff.1 hc
    obtain ⟨hlo, hhi⟩ := (hp c).1 hpc
    refine .inl ⟨y, .range hr hlo hhi, by simp, ?_⟩
    rw [List.dropWhile_cons_of_pos hpc]
  · refine .inr ⟨x, .range_fails hr ?_, hx⟩
    intro c hc hbounds
    exact hx ⟨c, hc, (hp c).2 hbounds⟩

theorem Eats.choice (hr : g.rule? id = some (.choice a b)) (h : Eats g input active a p starts)
    (h' : Eats g input active b p starts') :
    Eats g input active id p (fun x => starts x ∨ starts' x) := by
  intro x
  rcases h x with ⟨y, hy, hne, hdrop⟩ | ⟨y, hy, hx⟩
  · exact .inl ⟨y, .choice_first hr hy, hne, hdrop⟩
  · rcases h' x with ⟨z, hz, hne, hdrop⟩ | ⟨z, hz, hx'⟩
    · exact .inl ⟨z, .choice_second hr hy hz, hne, hdrop⟩
    · exact .inr ⟨x, .choice_second hr hy hz, fun h => h.elim hx hx'⟩

/-- Repeated, the rule reads all characters of the kind that come next. -/
theorem Eats.repeats (h : Eats g input active a p (StartsWith p)) (x : List Char) :
    ∃ n, Repeats g input active a x n (x.dropWhile p) [] := by
  rcases h x with ⟨y, hy, hne, hdrop⟩ | ⟨y, hy, hx⟩
  · have hlt : y.length < x.length := hy.length_lt hne
    obtain ⟨n, hn⟩ := h.repeats y
    refine ⟨n + 1, ?_⟩
    rw [← hdrop]
    exact .step hy hne hn
  · refine ⟨0, ?_⟩
    rw [dropWhile_of_not_startsWith hx]
    exact .stop hy
termination_by x.length

theorem Eats.zeroOrMore (h : Eats g input active a p (StartsWith p))
    (hr : g.rule? id = some (.zeroOrMore a)) (x : List Char) :
    Answers g input ⟨id, active, x⟩ true (x.dropWhile p) [] := by
  obtain ⟨n, hn⟩ := h.repeats x
  exact .zeroOrMore hr hn

theorem Eats.oneOrMore (h : Eats g input active a p (StartsWith p))
    (hr : g.rule? id = some (.oneOrMore a)) (hx : StartsWith p x) :
    Answers g input ⟨id, active, x⟩ true (x.dropWhile p) [] := by
  rcases h x with ⟨y, hy, hne, hdrop⟩ | ⟨y, -, hx'⟩
  · obtain ⟨n, hn⟩ := h.repeats y
    rw [← hdrop]
    exact .oneOrMore hr (.step hy hne hn)
  · exact absurd hx hx'

theorem Eats.oneOrMore_fails (h : Eats g input active a p (StartsWith p))
    (hr : g.rule? id = some (.oneOrMore a)) (hx : ¬ StartsWith p x) :
    Answers g input ⟨id, active, x⟩ false x [] := by
  rcases h x with ⟨y, hy, hne, hdrop⟩ | ⟨y, hy, -⟩
  · have hlt : y.length < x.length := hy.length_lt hne
    have hle := (List.dropWhile_suffix (l := y) p).length_le
    rw [hdrop, dropWhile_of_not_startsWith hx] at hle
    omega
  · exact .oneOrMore_fails hr hy

end

/-! ## Choices from a list -/

/-- A choice from a list reads what the rules of the list read. -/
theorem lasting_eats_chain (first : RuleId) (more : List RuleId) :
    Build.Lasting (fun (h : Arena σ) id => ∀ input active p (starts : RuleId → List Char → Prop),
      (∀ a ∈ first :: more, Eats h input active a p (starts a)) →
        Eats h input active id p fun x => ∃ a ∈ first :: more, starts a x)
      (Build.chain .choice first more) := by
  induction more generalizing first with
  | nil =>
    refine ⟨.pure first, fun _ input active p starts heats => ?_⟩
    exact (heats first List.mem_cons_self).mono fun x ⟨a, ha, hx⟩ => List.mem_singleton.1 ha ▸ hx
  | cons second more ih =>
    refine (ih second).bind fun tail => ⟨Build.keeping_push _, ?_⟩
    intro g h hext htail input active p starts heats
    obtain ⟨hfirst, hmore⟩ := List.forall_mem_cons.1 heats
    have hchoice := (Build.lasting_push (.choice first tail)).answer hext
    refine (Eats.choice hchoice hfirst (htail input active p starts hmore)).mono ?_
    rintro x ⟨a, ha, hx⟩
    rcases List.mem_cons.1 ha with rfl | ha
    · exact .inl hx
    · exact .inr ⟨a, ha, hx⟩

/-! ## Default white space -/

/-- The rules of the default white space. -/
def spaceRules : List (Rule σ) :=
  [.literal " ", .literal "\t", .literal "\r\n", .literal "\r", .literal "\n", .choice ⟨3⟩ ⟨4⟩,
    .choice ⟨2⟩ ⟨5⟩, .choice ⟨1⟩ ⟨6⟩, .choice ⟨0⟩ ⟨7⟩, .zeroOrMore ⟨8⟩]

/-- The arena has the rules of the default white space where a new arena has them. -/
def Arena.HasDefaultSpace (g : Arena σ) : Prop := ∀ k < 10, g.rule? ⟨k⟩ = spaceRules[k]?

/-- The rule was made as default white space, with any other rules in front of it and behind it. -/
def Arena.HasSpaceAt (g : Arena σ) (id : RuleId) : Prop :=
  ∃ h : Arena σ, (Build.defaultWhitespace.run h).1 = id ∧
    (Build.defaultWhitespace.run h).2.Extends g

section

variable {g : Arena σ} {input : List Char} {active : Option String} {id : RuleId}

/-- Each round of the default white space reads a blank, or a line end as a whole. -/
theorem lasting_defaultWhitespace :
    Build.Lasting (fun (g : Arena σ) id => ∃ any, g.rule? id = some (.zeroOrMore any) ∧
      ∀ input active, Eats g input active any isLayoutBlank (StartsWith isLayoutBlank))
      Build.defaultWhitespace := by
  refine (Build.lasting_push (.literal " ")).bind fun space => ?_
  refine (Build.lasting_push (.literal "\t")).bind fun tab => ?_
  refine (Build.lasting_push (.literal "\r\n")).bind fun crlf => ?_
  refine (Build.lasting_push (.literal "\r")).bind fun cr => ?_
  refine (Build.lasting_push (.literal "\n")).bind fun lf => ?_
  refine (lasting_eats_chain space [tab, crlf, cr, lf]).bind fun any => ⟨Build.keeping_push _, ?_⟩
  intro g h hext hany hlf hcr hcrlf htab hspace
  refine ⟨any, (Build.lasting_push (.zeroOrMore any)).answer hext, fun input active => ?_⟩
  have heats : ∀ a ∈ [space, tab, crlf, cr, lf], Eats h input active a isLayoutBlank
      fun x => ∃ text, h.rule? a = some (.literal text) ∧ text.toList <+: x := by
    simp only [List.forall_mem_cons, List.not_mem_nil, false_imp_iff, implies_true, and_true]
    exact ⟨.own_text hspace (by decide) rfl, .own_text htab (by decide) rfl,
      .own_text hcrlf (by decide) rfl, .own_text hcr (by decide) rfl, .own_text hlf (by decide) rfl⟩
  refine (hany input active isLayoutBlank _ heats).mono ?_
  rintro x ⟨c, hc, hblank⟩
  obtain ⟨y, rfl⟩ := List.head?_eq_some_iff.1 hc
  simp only [isLayoutBlank, Bool.or_eq_true, decide_eq_true_eq] at hblank
  -- a line end of two characters needs no case of its own: it begins with a carriage return
  rcases hblank with ((rfl | rfl) | rfl) | rfl
  · exact ⟨space, by simp, " ", hspace, y, rfl⟩
  · exact ⟨tab, by simp, "\t", htab, y, rfl⟩
  · exact ⟨cr, by simp, "\r", hcr, y, rfl⟩
  · exact ⟨lf, by simp, "\n", hlf, y, rfl⟩

/-- Default white space skips all blanks that come next, wherever it was made. -/
theorem Arena.HasSpaceAt.answers (hg : g.HasSpaceAt id) (x : List Char) :
    Answers g input ⟨id, active, x⟩ true (x.dropWhile isLayoutBlank) [] := by
  obtain ⟨h, rfl, hext⟩ := hg
  obtain ⟨any, hr, heats⟩ := lasting_defaultWhitespace.answer hext
  exact (heats input active).zeroOrMore hr x

theorem Arena.HasDefaultSpace.hasSpaceAt (hg : g.HasDefaultSpace) : g.HasSpaceAt ⟨9⟩ := by
  refine ⟨⟨#[], [], ⟨0⟩, []⟩, rfl, ?_, fun hn => by cases hn⟩
  rintro ⟨k⟩ r hr
  have hrules : spaceRules[k]? = some r := by
    rw [← hr, ← List.getElem?_toArray]
    rfl
  rw [hg k (List.getElem?_eq_some_iff.1 hrules).1, hrules]

/-- The default white space skips all layout that comes next. -/
theorem Arena.HasDefaultSpace.answers (hg : g.HasDefaultSpace) (x : List Char) :
    Answers g input ⟨⟨9⟩, active, x⟩ true (x.dropWhile isLayoutBlank) [] :=
  hg.hasSpaceAt.answers x

/-- A new arena has the rules of the default white space, and nothing else. -/
theorem fresh_eq : (Arena.fresh : Arena σ) = ⟨spaceRules.toArray, [], ⟨9⟩, []⟩ := by
  simp only [Arena.fresh, Build.defaultWhitespace, Build.chain, Build.zeroOrMore, Build.run_bind,
    Build.run_literal, Build.run_unary, Build.run_push, Arena.size, List.push_toArray,
    List.size_toArray, List.length_cons, List.length_nil, List.nil_append, List.cons_append]
  rfl

end

end Peg
