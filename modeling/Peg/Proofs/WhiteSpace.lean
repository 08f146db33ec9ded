-- White space between the parts of a rule. The default white space of an arena takes all blanks
-- that come next and no other character, and whoever puts it between two rules skips just these.
import Mathlib.Data.List.TakeWhile
import Peg.Proofs.Bracketing
import Peg.Proofs.Bytewise
import Peg.Proofs.Ebnf.Skipping
import Peg.Proofs.Enlarging
import Peg.Proofs.Histories
import Peg.Proofs.Mirroring

namespace Peg

open Text Ebnf

variable {σ : Type}

/-! ## Rules that stay -/

theorem Ebnf.Production.extends_install (spacing : Spacing) (p : Production) (g : Arena σ) :
    g.Extends ((p.install spacing).run g).2 := by
  have hbuilt := (p.body.keeping_build spacing g).extends
  rw [p.run_install]
  dsimp only
  split
  · exact (hbuilt.trans (.register _ _ _)).trans (Arena.Within.warn _ _).extends
  · exact hbuilt.trans (.register _ _ _)

theorem extends_installAll (spacing : Spacing) (productions : List Production) (g : Arena σ) :
    g.Extends (installAll spacing productions g) := by
  induction productions generalizing g with
  | nil => exact .refl g
  | cons p more ih => exact (p.extends_install spacing g).trans (ih _)

theorem Ebnf.Grammar.extends_install (spacing : Spacing) (grammar : Grammar) (g : Arena σ) :
    g.Extends ((grammar.install spacing).run.run g).2 := by
  obtain ⟨_ | ⟨first, more⟩⟩ := grammar
  · exact .refl g
  · have hall := extends_installAll spacing (first :: more) g
    rw [run_install]
    dsimp only
    split
    · exact hall
    · exact hall.trans (.push _ _)

theorem Builder.keeping (b : Builder σ) : b.build.Keeping := by
  cases b with
  | literal | range | reference => exact Build.keeping_push _
  | pattern library source => exact Build.keeping_pattern source
  | not | endOfInput | zeroOrMore | oneOrMore | optional | action =>
    exact Build.keeping_unary _ _
  | oneOrMoreSpaced => exact Build.keeping_oneOrMoreSpaced _
  | sequence | spaced | choice => exact Build.keeping_binary _ _ _

/-- No edit takes anything away, whatever ids it is given. -/
theorem Edit.extends (e : Edit σ) (g : Arena σ) : g.Extends (e.run.run g).2 := by
  cases e with
  | make b => exact (b.keeping g).extends
  | sequenceOf ids | spacedOf ids | choiceOf ids => exact (Build.keeping_chainAll _ ids g).extends
  | register name id => exact Build.extends_register g name id
  | attach name run => exact Build.extends_attach g name run
  | whitespace | named | children => exact .refl g
  | setWhitespace id => exact Build.extends_setWhitespace g id
  | expression spacing e => exact (e.keeping_build spacing g).extends
  | install spacing grammar => exact grammar.extends_install spacing g

theorem History.extends_after (h : History σ) (edits : List (Edit σ)) :
    h.arena.Extends (h.after edits).arena := by
  induction edits generalizing h with
  | nil => exact .refl _
  | cons e more ih => exact (e.extends h.arena).trans (ih (h.step e))

/-! ## Runs of blanks -/

/-- The text is made of spaces, tabs and characters of line ends. -/
def Blanks (x : List Char) : Prop := ∀ c ∈ x, c ∈ [' ', '\t', '\r', '\n']

/-- The text begins with these blanks, and with no longer run of them. -/
structure LongestBlanks (run x : List Char) : Prop where
  begins : run <+: x
  blanks : Blanks run
  longest : ∀ other, other <+: x → Blanks other → other <+: run

theorem longestBlanks_takeWhile (x : List Char) :
    LongestBlanks (x.takeWhile isLayoutBlank) x where
  begins := List.takeWhile_prefix _
  blanks c hc := isLayoutBlank_iff.1 (List.mem_takeWhile_imp hc)
  longest := by
    rintro other ⟨y, rfl⟩ hother
    have hall : ∀ c ∈ other, isLayoutBlank c = true := fun c hc => isLayoutBlank_iff.2 (hother c hc)
    rw [List.takeWhile_append_of_pos hall]
    exact List.prefix_append _ _

theorem LongestBlanks.unique {run run' x : List Char} (h : LongestBlanks run x)
    (h' : LongestBlanks run' x) : run' = run :=
  (h.longest run' h'.begins h'.blanks).eq_of_length_le
    (h'.longest run h.begins h.blanks).length_le

/-! ## Skipping blanks -/

/-- Moves over all blanks that come next. -/
def Match.skipBlanks : Match Unit :=
  modify fun s => s.atRest (s.cursor.rest.dropWhile isLayoutBlank)

/-- Matches one rule, skips blanks and matches another one. -/
def Match.acrossBlanks (g : Arena σ) (a b : RuleId) : Match Bool := do
  if ← eval g a then
    skipBlanks
    eval g b
  else return false

/-- The plan of matching two rules with blanks in between. -/
def Plan.acrossBlanks (active : Option String) (x : List Char) (a b : RuleId)
    (next : Bool → List Char → Plan) : Plan :=
  attempt ⟨a, active, x⟩ fun matched y =>
    if matched then attempt ⟨b, active, y.dropWhile isLayoutBlank⟩ next else next false y

section

variable {g : Arena σ} {s : MatchState} {x y : List Char} {active : Option String} {a b id : RuleId}
variable {next : Bool → List Char → Plan} {t : Attempt} {matched : Bool}

/-- An attempt with a known answer can be left out where it records nothing. -/
theorem Plan.Same.of_answer (h : ∀ input, Answers g input t matched y []) :
    (Plan.attempt t next).Same g (next matched y) := by
  intro input e l
  rw [does_attempt_iff]
  constructor
  · rintro ⟨c, e₁, m, hinside, hnext, rfl⟩
    obtain ⟨rfl, hnone⟩ := (h input).inside hinside
    rw [hnone]
    exact hnext
  · intro hnext
    obtain ⟨c, hrun, hnone⟩ := h input
    exact ⟨c, _, l, hrun, hnext, by rw [hnone, List.nil_append]⟩

theorem Arena.HasSpaceAt.same_spaced (hg : g.HasSpaceAt g.whitespace)
    (hr : g.rule? id = some (.spaced a b)) :
    (Plan.attempt ⟨id, active, x⟩ next).Same g (.acrossBlanks active x a b next) := by
  refine (same_ofRule hr (by simp)).trans (.attempt fun matched y => ?_)
  cases matched with
  | false => exact .refl _
  | true => exact .of_answer fun input => hg.answers y

theorem fulfils_acrossBlanks (g : Arena σ) (a b : RuleId) (s : MatchState) :
    Fulfils g s (.acrossBlanks s.active s.cursor.rest a b Plan.answer)
      (Match.acrossBlanks g a b s) := by
  refine .eval_bind fun matched t _ hactive => ?_
  cases matched with
  | false => exact .finish false
  | true =>
    have hrest : t.cursor.rest.dropWhile isLayoutBlank <:+ t.cursor.input :=
      (List.dropWhile_suffix _).trans t.cursor.rest_suffix
    have hthere := fulfils_eval g b (t.atRest (t.cursor.rest.dropWhile isLayoutBlank))
    rw [MatchState.attempt, MatchState.rest_atRest hrest, MatchState.active_atRest, hactive]
      at hthere
    exact hthere.of_atRest hrest

end

/-- Whatever edits a new arena goes through, its default white space stays. Wherever default white
space was made, it matches from every state, moves over the longest run of blanks that comes next,
and changes nothing else but the log. So where it is the white space of the arena, a rule of two
parts with white space in between matches, whatever name is active, as its parts do when such a run
is skipped in between: with the same answer or halt, at the same place, with the same captures and
active name, or both without an end. -/
theorem default_space_takes_the_longest_run_of_blanks :
    (∀ edits : List (Edit σ),
      (History.start.after edits).arena.HasSpaceAt (Arena.fresh : Arena σ).whitespace) ∧
    ∀ (g : Arena σ) (space : RuleId), g.HasSpaceAt space → ∀ s : MatchState,
      (∃ run d log, LongestBlanks run s.cursor.rest ∧ s.cursor.rest = run ++ d.rest ∧
        d.input = s.cursor.input ∧ d.position = s.position + byteLength run ∧
        Match.skipBlanks s = .ok ⟨⟩ { s with cursor := d } ∧
        Match.eval g space s = .ok true { s with cursor := d, log := log }) ∧
      (g.whitespace = space → ∀ a b id, g.rule? id = some (.spaced a b) →
        Agree (Match.eval g id s) (Match.acrossBlanks g a b s)) := by
  refine ⟨fun edits => ?_, fun g space hg s => ⟨?_, ?_⟩⟩
  · refine ⟨⟨#[], [], ⟨0⟩, []⟩, rfl, ?_⟩
    have hnew : (Build.defaultWhitespace.run ⟨#[], [], ⟨0⟩, []⟩).2.Extends (.fresh : Arena σ) :=
      ⟨fun hr => hr, fun hn => hn⟩
    exact hnew.trans (History.start.extends_after edits)
  · obtain ⟨d, log, hres, hinput, hrest⟩ := (hg.answers s.cursor.rest).eval_same
    have hread : s.cursor.rest = s.cursor.rest.takeWhile isLayoutBlank ++ d.rest := by
      rw [hrest, List.takeWhile_append_dropWhile]
    have hskip : Match.skipBlanks s = .ok ⟨⟩ { s with cursor := d } := by
      rw [Match.skipBlanks, Match.modify_apply, ← hrest, MatchState.atRest_eq hinput]
    exact ⟨_, d, log, longestBlanks_takeWhile _, hread, hinput, position_of_rest hinput hread,
      hskip, hres⟩
  · rintro rfl a b id hr
    exact (fulfils_eval g id s).agree (hg.same_spaced hr) (fulfils_acrossBlanks g a b s)

/-- Two letters, with white space in between. -/
def lettersApart : Arena Unit :=
  (History.start.after [.make (.spaced (.text "a") (.text "b"))]).arena

/-- At the start of two letters on different lines, while a name is active. -/
def beforeLetters : MatchState :=
  (MatchState.ofText ['a', ' ', '\t', '\r', '\n', '\n', ' ', 'b'] false).setActive (some "pair")

/-- The letters are found, and what lies in between is a run of six blanks. -/
theorem two_letters_are_found_on_different_lines :
    lettersApart.HasSpaceAt ⟨9⟩ ∧ lettersApart.whitespace = ⟨9⟩ ∧
      lettersApart.rule? ⟨12⟩ = some (.spaced ⟨10⟩ ⟨11⟩) ∧
      (∃ t, Match.eval lettersApart ⟨9⟩ beforeLetters.read.2 = .ok true t ∧ t.position = 7 ∧
        LongestBlanks [' ', '\t', '\r', '\n', '\n', ' '] beforeLetters.read.2.cursor.rest) ∧
      ∃ t u, Match.eval lettersApart ⟨12⟩ beforeLetters = .ok true t ∧ t.position = 8 ∧
        Match.acrossBlanks lettersApart ⟨10⟩ ⟨11⟩ beforeLetters = .ok true u ∧
        u.cursor = t.cursor := by
  obtain ⟨hedits, hmatches⟩ := default_space_takes_the_longest_run_of_blanks (σ := Unit)
  have hspace : lettersApart.HasSpaceAt ⟨9⟩ := hedits _
  refine ⟨hspace, rfl, rfl, ?_, ?_⟩
  · have hsix : LongestBlanks [' ', '\t', '\r', '\n', '\n', ' ']
        beforeLetters.read.2.cursor.rest := longestBlanks_takeWhile beforeLetters.read.2.cursor.rest
    obtain ⟨⟨run, d, log, hrun, -, -, hposition, -, hres⟩, -⟩ :=
      hmatches lettersApart ⟨9⟩ hspace beforeLetters.read.2
    rw [hsix.unique hrun] at hposition
    exact ⟨_, hres, hposition, hsix⟩
  · have hr : lettersApart.rule? ⟨12⟩ = some (.spaced ⟨10⟩ ⟨11⟩) := rfl
    have hfirst : Answers lettersApart beforeLetters.cursor.input
        ⟨⟨10⟩, some "pair", beforeLetters.cursor.rest⟩ true beforeLetters.read.2.cursor.rest [] :=
      .literal (y := beforeLetters.read.2.cursor.rest)
        (rfl : lettersApart.rule? ⟨10⟩ = some (.literal "a"))
    have hsecond : Answers lettersApart beforeLetters.cursor.input ⟨⟨11⟩, some "pair", ['b']⟩ true
        [] [] :=
      .literal (y := []) (rfl : lettersApart.rule? ⟨11⟩ = some (.literal "b"))
    have hwhole : Answers lettersApart beforeLetters.cursor.input (beforeLetters.attempt ⟨12⟩) true
        [] [] := .spaced hr hfirst (hspace.answers _) hsecond
    obtain ⟨d, log, hres, hinput, hrest⟩ := hwhole.eval_same
    obtain ⟨-, hacross⟩ := hmatches lettersApart ⟨9⟩ hspace beforeLetters
    have halike := (hacross rfl ⟨10⟩ ⟨11⟩ ⟨12⟩ hr).alike
    rw [hres] at halike
    generalize Match.acrossBlanks lettersApart ⟨10⟩ ⟨11⟩ beforeLetters = result at *
    cases halike with
    | answered hcursor _ =>
      refine ⟨_, _, hres, ?_, rfl, hcursor⟩
      rw [MatchState.position, d.position_eq, hinput, hrest]
      rfl

end Peg
