-- Matching is safe: whatever was done with a state before, and whatever comes of a match, nothing
-- is read where the text cannot be cut, no rule is looked up that is not there, and nothing that
-- was recorded before is lost.
import Peg.Proofs.Answers
import Peg.Proofs.Captures

namespace Peg

open Text

variable {σ : Type}

/-! ## Arenas that keep to themselves -/

/-- The rules, the names and the white space of an arena are its own. -/
structure Arena.Closed (g : Arena σ) : Prop where
  child : ∀ {id r b}, g.rule? id = some r → b ∈ r.children → b.index < g.size
  name : ∀ {n b}, g.named? n = some b → b.index < g.size
  whitespace : g.whitespace.index < g.size

/-- What a regular expression of the arena finds ends where the text can be cut. -/
def Arena.PatternsFit (g : Arena σ) : Prop :=
  ∀ id source finder, g.rule? id = some (.pattern source (some finder)) →
    ∀ x count, finder.findEnd? x = some count → (after? count x).isSome

section

variable {g : Arena σ} {a b : Attempt} {p : Plan} {c : Course} {e : Ending} {r : Rule σ}

/-- An arena refers to no rule that it does not have. -/
theorem Arena.Closed.inner (hg : g.Closed) (hr : g.rule? a.rule = some r)
    (h : Inner g a.active a.rest r b) : b.rule.index < g.size := by
  cases h with
  | child hb _ => exact hg.child hr hb
  | space _ => exact hg.whitespace
  | name _ hb => exact hg.name hb

/-- An ending that stops for no other reason than a name that is unknown. -/
def Ending.Harmless (e : Ending) : Prop :=
  ∀ stop, e.answer = .error stop → ∃ name, stop = .unknownRule name

theorem plan_harmless (hg : g.Closed) (hfit : g.PatternsFit) (ha : a.rule.index < g.size) :
    (g.plan a).Obeys (·.rule.index < g.size) Ending.Harmless := by
  obtain ⟨r, hr⟩ := Option.isSome_iff_exists.1 (rule?_isSome.2 ha)
  refine (plan_obeys hr).mono (fun b => hg.inner hr) ?_
  rintro e ⟨-, he⟩ stop hstop
  obtain ⟨-, hat⟩ := he stop hstop
  cases hat with
  | unknownRule _ => exact ⟨_, rfl⟩
  | insideCharacter hcount hnone =>
    have hsome := hfit _ _ _ hr _ _ hcount
    rw [hnone] at hsome
    cases hsome

/-- In an arena that keeps to itself, attempts stop at unknown names only. -/
theorem Runs.harmless (hg : g.Closed) (hfit : g.PatternsFit) (h : Runs g p c e)
    (hp : p.Obeys (·.rule.index < g.size) Ending.Harmless) : e.Harmless :=
  h.fits_of_all (fun _ => plan_harmless hg hfit) hp

end

/-! ## What a match keeps -/

/-- The text can be cut behind so many bytes. -/
def Boundary (input : List Char) (n : Nat) : Prop := ∃ u v, input = u ++ v ∧ byteLength u = n

/-- A capture that a match may add from position `start` on: the mark of an action, within the
text. -/
structure Capture.Sound (g : Arena σ) (input : List Char) (start : Nat) (k : Capture) : Prop where
  byAction : ∃ a run, g.rule? k.rule = some (.action a run)
  source : k.span.source = input
  start_le : start ≤ k.start
  start_le_stop : k.start ≤ k.stop
  stop_le : k.stop ≤ byteLength input
  startFits : Boundary input k.start
  stopFits : Boundary input k.stop

/-- What stays of a state in a match: the text, all captures, and what has been read. -/
structure Keeps (g : Arena σ) (s t : MatchState) : Prop where
  input : t.cursor.input = s.cursor.input
  position_le : s.position ≤ t.position
  fits : Boundary s.cursor.input t.position
  captures : ∃ added, t.captures = s.captures ++ added ∧
    ∀ k ∈ added, k.Sound g s.cursor.input s.position

/-- What a match may come to. It has an answer or finds an error in the grammar, and keeps what
there was; or its attempts have no end. There is no fault in it. -/
def Safe (g : Arena σ) (s : MatchState) (id : RuleId) : EStateM.Result Halt MatchState Bool → Prop
  | .ok _ t => Keeps g s t
  | .error (.error _) t => Keeps g s t
  | .error (.fault _) _ => False
  | .error .outOfFuel _ => ∀ c e, ¬ Runs g (g.plan (s.attempt id)) c e

section

variable {g : Arena σ} {s t : MatchState} {input x y z : List Char}

theorem boundary_offset (h : x <:+ input) : Boundary input (offset input x) := by
  obtain ⟨u, rfl⟩ := h
  exact ⟨u, x, rfl, by simp [offset]⟩

theorem offset_le_offset (h : y <:+ x) : offset input x ≤ offset input y := by
  obtain ⟨u, rfl⟩ := h
  simp only [offset, byteLength_append]
  omega

theorem boundary_position (s : MatchState) : Boundary s.cursor.input s.position := by
  rw [MatchState.position, s.cursor.position_eq]
  exact boundary_offset s.cursor.rest_suffix

theorem Capture.sound_between {id a : RuleId} {run : Action σ}
    (hr : g.rule? id = some (.action a run)) (hx : x <:+ input) (hy : y <:+ x) (hz : z <:+ y) :
    (Capture.between input y z id).Sound g input (offset input x) where
  byAction := ⟨a, run, hr⟩
  source := rfl
  start_le := offset_le_offset hy
  start_le_stop := by
    rw [stop_between (hy.trans hx) hz]
    exact offset_le_offset hz
  stop_le := by
    rw [stop_between (hy.trans hx) hz]
    exact Nat.sub_le _ _
  startFits := boundary_offset (hy.trans hx)
  stopFits := by
    rw [stop_between (hy.trans hx) hz]
    exact boundary_offset (hz.trans (hy.trans hx))

/-- A course of attempts keeps what there was. -/
theorem Reaches.keeps {id : RuleId} {inside : Course} {e : Ending}
    (hrun : Runs g (g.plan (s.attempt id)) inside e)
    (h : Reaches g s (.made (s.attempt id) inside e .none) e.rest t) : Keeps g s t := by
  have hrest : e.rest <:+ s.cursor.rest := hrun.rest_suffix
  have hs : s.position = offset s.cursor.input s.cursor.rest := s.cursor.position_eq
  have ht : t.position = offset s.cursor.input e.rest := h.position_eq
  refine ⟨h.input, ?_, ?_, _, h.captures, ?_⟩
  · rw [hs, ht]
    exact offset_le_offset hrest
  · rw [ht]
    exact boundary_offset (hrest.trans s.cursor.rest_suffix)
  · intro k hk
    obtain ⟨id, a, run, y, z, hr, hy, hz, rfl⟩ :=
      hrun.alone.captures_of_actions ⟨List.suffix_rfl, fun _ _ hy => hy⟩ hk
    rw [hs]
    exact Capture.sound_between hr s.cursor.rest_suffix hy hz

theorem eval_safe (hg : g.Closed) (hfit : g.PatternsFit) {id : RuleId} (hid : id.index < g.size) :
    Safe g s id (Match.eval g id s) := by
  cases hres : Match.eval g id s with
  | ok matched t =>
    obtain ⟨inside, hrun, hreach⟩ := eval_ok hres
    exact hreach.keeps hrun
  | error halt t =>
    by_cases hfuel : halt = .outOfFuel
    · subst hfuel
      -- there is fuel for every course that ends
      intro c e hrun
      exact hrun.eval_ends.not_exhausted ⟨t, hres⟩
    · obtain ⟨inside, stop, rfl, hrun, hreach⟩ := eval_error hres hfuel
      obtain ⟨name, rfl⟩ := hrun.harmless hg hfit (plan_harmless hg hfit hid) stop rfl
      exact hreach.keeps hrun

end

/-! ## What can be done with a state -/

/-- The states of a text that operations on a state lead to. An operation that is refused leaves
the state as it was. A match that halts leaves the state that it had got to, and any name active. -/
inductive Reachable (input : List Char) : MatchState → Prop where
  | new (trace : Bool) : Reachable input (.ofText input trace)
  | seek {s t : MatchState} {position : Nat} :
    Reachable input s → s.seek position = .ok t → Reachable input t
  | read {s : MatchState} : Reachable input s → Reachable input s.read.2
  | record {s t : MatchState} {start : Nat} {rule : RuleId} :
    Reachable input s → s.record start rule = .ok t → Reachable input t
  | keepCaptures {s : MatchState} {count : Nat} :
    Reachable input s → Reachable input (s.keepCaptures count)
  | activate {s : MatchState} {name : String} :
    Reachable input s → Reachable input (s.activate name).2
  | setActive {s : MatchState} {name : Option String} :
    Reachable input s → Reachable input (s.setActive name)
  | answered {σ : Type} {g : Arena σ} {s t : MatchState} {id : RuleId} {matched : Bool} :
    Reachable input s → Match.eval g id s = .ok matched t → Reachable input t
  | halted {σ : Type} {g : Arena σ} {s t : MatchState} {id : RuleId} {halt : Halt}
      {name : Option String} :
    Reachable input s → Match.eval g id s = .error halt t → halt ≠ .outOfFuel →
      Reachable input (t.setActive name)

theorem input_seek? {c d : Cursor} {position : Nat} (h : c.seek? position = some d) :
    d.input = c.input := by
  unfold Cursor.seek? at h
  split at h <;> cases h
  rfl

theorem input_read? {c d : Cursor} {x : Char} (h : c.read? = some (x, d)) : d.input = c.input := by
  unfold Cursor.read? at h
  split at h <;> cases h
  rfl

theorem Reachable.input_eq {input : List Char} {s : MatchState} (h : Reachable input s) :
    s.cursor.input = input := by
  induction h with
  | new trace => rfl
  | @seek s t position _ ht ih =>
    unfold MatchState.seek at ht
    split at ht
    · cases ht
    · next cursor hcursor =>
      cases ht
      exact (input_seek? hcursor).trans ih
  | @read s _ ih =>
    unfold MatchState.read
    split
    · exact ih
    · next c cursor hcursor => exact (input_read? hcursor).trans ih
  | @record s t start rule _ ht ih =>
    unfold MatchState.record at ht
    split at ht
    · cases ht
    · cases ht
      exact ih
  | keepCaptures _ ih => exact ih
  | activate _ ih => exact ih
  | setActive _ ih => exact ih
  | answered _ hres ih =>
    obtain ⟨inside, -, hreach⟩ := eval_ok hres
    rw [hreach.input, ih]
  | halted _ hres hfuel ih =>
    obtain ⟨inside, stop, -, -, hreach⟩ := eval_error hres hfuel
    exact hreach.input.trans ih

/-- From every state that can be come to, and whatever arena is matched against, a match is safe. -/
theorem matching_is_safe {input : List Char} {s : MatchState} (hs : Reachable input s) :
    s.cursor.input = input ∧ Boundary input s.position ∧
      ∀ {σ : Type} (g : Arena σ), g.Closed → g.PatternsFit →
        ∀ id : RuleId, id.index < g.size → Safe g s id (Match.eval g id s) := by
  have hinput := hs.input_eq
  refine ⟨hinput, ?_, fun g hg hfit id hid => eval_safe hg hfit hid⟩
  rw [← hinput]
  exact boundary_position s

/-! ## A match of a letter -/

/-- What comes of the expression `^(?:a)`. -/
def Regex.Finder.letterA : Regex.Finder where
  findEnd? x := if x.head? = some 'a' then some 1 else none

/-- Arenas with the letter as a regular expression, and an action for it. -/
def markingA : Arena Unit where
  rules := #[.pattern "a" (some .letterA), .action ⟨0⟩ fun _ _ => ⟨⟩]
  names := []
  whitespace := ⟨0⟩
  warnings := []

theorem patternsFit_markingA : markingA.PatternsFit := by
  intro id source finder hr x count hcount
  obtain rfl : finder = .letterA := by
    obtain ⟨_ | _ | n⟩ := id <;> cases hr
    rfl
  obtain ⟨hhead, rfl⟩ : x.head? = some 'a' ∧ 1 = count := by
    simpa [Regex.Finder.letterA] using hcount
  obtain ⟨y, rfl⟩ := List.head?_eq_some_iff.1 hhead
  exact Option.isSome_iff_exists.2 ⟨y, by rw [show 1 = 'a'.utf8Size + 0 from rfl, after?_cons,
    after?_zero]⟩

theorem closed_markingA : markingA.Closed where
  child := by
    rintro ⟨_ | _ | n⟩ r b hr hb <;> cases hr
    · cases hb
    · rw [List.mem_singleton.1 hb]
      decide
  name := by
    intro n b hb
    cases hb
  whitespace := by decide

theorem a_letter_behind_another_is_safe :
    ∃ s t, Reachable ['é', 'a'] s ∧ Match.eval markingA ⟨1⟩ s = .ok true t ∧ t.position = 3 ∧
      Keeps markingA s t := by
  obtain ⟨s, hseek, hrest⟩ : ∃ s, (MatchState.ofText ['é', 'a'] false).seek 2 = .ok s ∧
      s.attempt ⟨1⟩ = ⟨⟨1⟩, none, ['a']⟩ := ⟨_, rfl, rfl⟩
  have hreach : Reachable ['é', 'a'] s := .seek (.new false) hseek
  obtain ⟨hinput, -, hsafe⟩ := matching_is_safe hreach
  have hfound : Regex.Finder.letterA.findEnd? ['a'] = some 1 := rfl
  have hletter : Answers markingA ['é', 'a'] ⟨⟨0⟩, none, ['a']⟩ true [] [] :=
    .pattern rfl hfound rfl
  have hmark : Answers markingA ['é', 'a'] ⟨⟨1⟩, none, ['a']⟩ true []
      [.between ['é', 'a'] ['a'] [] ⟨1⟩] := .action rfl hletter
  rw [← hinput, ← hrest] at hmark
  obtain ⟨t, hres, ht, -⟩ := hmark.eval_ok
  have hkeeps := hsafe markingA closed_markingA patternsFit_markingA ⟨1⟩ (by decide)
  rw [hres] at hkeeps
  refine ⟨s, t, hreach, hres, ?_, hkeeps⟩
  rw [MatchState.position, t.cursor.position_eq, ht, hkeeps.input, hinput]
  decide

end Peg
