-- Where a pattern matches: at the place where it is tried, if its expression is well-formed. Which
-- texts are well-formed, and what they match, is up to the library of regular expressions, as far
-- as it keeps to what is documented.
import Peg.Proofs.Building
import Peg.Proofs.Regex.Language
import Peg.Proofs.Safety

namespace Peg

open Text

/-! ## Matching a pattern -/

section

variable {σ : Type} {g : Arena σ} {id : RuleId} {source : String} {s : MatchState}

/-- A match stops as its plan does. -/
theorem Runs.eval_stops {inside : Course} {stop : Stop} {y : List Char}
    (h : Runs g (g.plan (s.attempt id)) inside ⟨.error stop, y⟩) :
    ∃ t, Match.eval g id s = .error (stop.halt s.cursor.input y) t := by
  have hends := h.eval_ends
  cases hres : Match.eval g id s with
  | ok matched t =>
    rw [hres] at hends
    obtain ⟨hanswer, -⟩ := hends
    cases hanswer
  | error halt t =>
    rw [hres] at hends
    obtain ⟨stop', hanswer, rfl, -⟩ := hends
    cases hanswer
    exact ⟨t, rfl⟩

/-- The match goes to the end of what is found where it stands, so many bytes on, or fails and stays
where there is nothing. The end may lie inside of a character, and that is a fault. -/
def GoesBy (g : Arena σ) (id : RuleId) (s : MatchState) : Option Nat → Prop
  | none => ∃ t, Match.eval g id s = .ok false t ∧ t.cursor = s.cursor
  | some count =>
    match s.cursor.advance? count with
    | some next => ∃ t, Match.eval g id s = .ok true t ∧ t.cursor = next
    | none => ∃ t, Match.eval g id s =
      .error (.fault (.seekOutOfRange (s.position + count) (byteLength s.cursor.input))) t

theorem goesBy_pattern {finder : Option Regex.Finder} {found : Option Nat}
    (hr : g.rule? id = some (.pattern source finder))
    (hfind : finder.bind (·.findEnd? s.cursor.rest) = found) : GoesBy g id s found := by
  have hplan : g.plan (s.attempt id) =
      .ofRule g s.active s.cursor.rest (.pattern source finder) := plan_of_rule hr
  have hruns : ∀ e, Plan.ofRule g s.active s.cursor.rest (.pattern source finder) = .finish e →
      Runs g (g.plan (s.attempt id)) .none e := by
    intro e he
    rw [hplan, he]
    exact .finish e
  cases found with
  | none =>
    have hrun := hruns (.failed s.cursor.rest) (by simp [Plan.ofRule, hfind])
    obtain ⟨t, hres, hreach⟩ := hrun.eval_ok
    exact ⟨t, hres, Cursor.ext_rest hreach.input hreach.rest⟩
  | some count =>
    cases hafter : after? count s.cursor.rest with
    | none =>
      obtain ⟨t, hres⟩ := (hruns (.stopped (.insideCharacter count) s.cursor.rest)
        (by simp [Plan.ofRule, hfind, hafter])).eval_stops
      simp only [GoesBy, advance?_of_none hafter]
      refine ⟨t, ?_⟩
      rw [hres, Stop.halt, MatchState.position, s.cursor.position_eq]
    | some y =>
      obtain ⟨d, hd, hinput, hrest⟩ := advance?_of_some hafter
      have hrun := hruns (.matched y) (by simp [Plan.ofRule, hfind, hafter])
      obtain ⟨t, hres, hreach⟩ := hrun.eval_ok
      simp only [GoesBy, hd]
      exact ⟨t, hres,
        Cursor.ext_rest (hreach.input.trans hinput.symm) (hreach.rest.trans hrest.symm)⟩

/-- The rule that is made of an expression. -/
theorem rule?_pattern [Regex.Library] {h : Arena σ}
    (hbuild : (Build.pattern source).run g = (id, h)) :
    h.rule? id =
      some (.pattern source (Regex.Library.compile? (Regex.enclosed source.toList))) := by
  have hpush : ∀ (k : Arena σ) finder, (Build.push (.pattern source finder)).run k = (id, h) →
      h.rule? id = some (.pattern source finder) := by
    intro k finder hrun
    rw [Build.run_push] at hrun
    cases hrun
    exact Array.getElem?_push_size
  unfold Build.pattern at hbuild
  dsimp only at hbuild
  split at hbuild
  · rw [Build.run_bind] at hbuild
    exact hpush _ _ hbuild
  · exact hpush _ _ hbuild

/-- A pattern of a well-formed expression matches exactly where the expression has a match that
begins there, and goes to the end of the best one. A pattern never matches if the library refuses
what is made of its expression, which it may do for its size, or because a comment takes in the
parenthesis behind it. And of a malformed expression it never matches either, unless the expression
closes the group itself that is made for it. -/
theorem a_pattern_matches_where_it_stands [Regex.Library] {l : Regex.Language} (hl : l.Documented)
    {h k : Arena σ} (hbuild : (Build.pattern source).run g = (id, h))
    (hkept : k.rule? id = h.rule? id) :
    (Regex.Library.compile? (Regex.enclosed source.toList) = none → GoesBy k id s none) ∧
    (l.WellFormed source.toList →
      (Regex.Library.compile? (Regex.enclosed source.toList)).isSome →
        GoesBy k id s (l.ends source.toList s.cursor.rest 0).head?) ∧
    (¬ l.WellFormed source.toList → ¬ l.ClosesGroup source.toList → GoesBy k id s none) := by
  have hrule := hkept.trans (rule?_pattern hbuild)
  have hnever : Regex.Library.compile? (Regex.enclosed source.toList) = none →
      GoesBy k id s none := by
    intro hnone
    apply goesBy_pattern hrule
    rw [hnone]
    rfl
  refine ⟨hnever, ?_, ?_⟩
  · intro hsource hsome
    obtain ⟨finder, hfinder⟩ := Option.isSome_iff_exists.1 hsome
    apply goesBy_pattern hrule
    rw [hfinder, Option.bind_some, hl.leftmostFirst _ hfinder,
      hl.leftmostFirst?_enclosed hsource (hl.wellFormed hsome)]
  · intro hmalformed hopen
    apply hnever
    rw [← Option.not_isSome_iff_eq_none]
    intro hsome
    rcases hl.wellFormed_or_closesGroup (hl.wellFormed hsome) with hsource | hcloses
    · exact hmalformed hsource
    · exact hopen hcloses

end

/-- A word is found where it comes first, and not where it comes later. A group that is not closed
never matches. -/
theorem a_letter_is_found_in_front :
    @Regex.Language.Documented Regex.letterLibrary Regex.lettersInGroups ∧
    (∃ (id : RuleId) (h : Arena Unit),
      (@Build.pattern Unit Regex.letterLibrary "ab").run .fresh = (id, h) ∧
        (∃ t, Match.eval h id (.ofText ['a', 'b', 'c'] false) = .ok true t ∧ t.position = 2) ∧
          ∃ t, Match.eval h id (.ofText ['c', 'a', 'b'] false) = .ok false t ∧ t.position = 0) ∧
    ∃ (id : RuleId) (h : Arena Unit),
      (@Build.pattern Unit Regex.letterLibrary "(a").run .fresh = (id, h) ∧
        ∃ t, Match.eval h id (.ofText ['(', 'a'] false) = .ok false t ∧ t.position = 0 := by
  let library := Regex.letterLibrary
  have hdocumented := Regex.documented_lettersInGroups
  refine ⟨hdocumented, ?_, ?_⟩
  · rcases hbuild : (Build.pattern "ab").run (.fresh : Arena Unit) with ⟨id, h⟩
    have hgoes := fun s : MatchState =>
      (a_pattern_matches_where_it_stands (s := s) hdocumented hbuild rfl).2.1 rfl rfl
    obtain ⟨t, hres, ht⟩ := hgoes (.ofText ['a', 'b', 'c'] false)
    obtain ⟨u, hres', hu⟩ := hgoes (.ofText ['c', 'a', 'b'] false)
    exact ⟨id, h, rfl, ⟨t, hres, congrArg Cursor.position ht⟩, u, hres',
      congrArg Cursor.position hu⟩
  · rcases hbuild : (Build.pattern "(a").run (.fresh : Arena Unit) with ⟨id, h⟩
    have hopen : ¬ Regex.lettersInGroups.ClosesGroup "(a".toList := by
      rintro ⟨inner, more, heq, -⟩
      have hmem : ')' ∈ "(a".toList := by rw [heq]; simp
      exact absurd hmem (by decide)
    obtain ⟨t, hres, ht⟩ := (a_pattern_matches_where_it_stands (s := .ofText ['(', 'a'] false)
      hdocumented hbuild rfl).2.2 (by decide) hopen
    exact ⟨id, h, rfl, t, hres, congrArg Cursor.position ht⟩

/-- A malformed expression matches when it closes the group that is made for it, and opens another.
The library keeps to what is documented then. -/
theorem a_malformed_expression_matches :
    @Regex.Language.Documented Regex.letterLibrary Regex.lettersInGroups ∧
      ¬ Regex.lettersInGroups.WellFormed "a)(?:b".toList ∧
      ∃ (id : RuleId) (h : Arena Unit),
        (@Build.pattern Unit Regex.letterLibrary "a)(?:b").run .fresh = (id, h) ∧
          ∃ t, Match.eval h id (.ofText ['a', 'b'] false) = .ok true t ∧ t.position = 2 := by
  let library := Regex.letterLibrary
  refine ⟨Regex.documented_lettersInGroups, by decide, ?_⟩
  rcases hbuild : (Build.pattern "a)(?:b").run (.fresh : Arena Unit) with ⟨id, h⟩
  have hgoes : GoesBy h id (.ofText ['a', 'b'] false) (some 2) :=
    goesBy_pattern (rule?_pattern hbuild) rfl
  obtain ⟨t, hres, ht⟩ := hgoes
  exact ⟨id, h, rfl, t, hres, congrArg Cursor.position ht⟩

end Peg
