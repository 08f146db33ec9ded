-- What a traced match writes down. The lines are the listing of the attempts that were made, each
-- set in below the one it was made inside of, and a match that stops leaves the end of it out.
import Peg.Proofs.Nesting

namespace Peg

open Text

variable {σ : Type}

/-! ## Lines -/

/-- Two blanks for each rule that a line is inside of. -/
def margin (depth : Nat) : String := String.ofList (List.replicate (2 * depth) ' ')

def openingLine (depth : Nat) (label : String) : String :=
  "DEBUG " ++ margin depth ++ "++ " ++ label

def closingLine (depth : Nat) (label : String) (matched : Bool) : String :=
  "DEBUG " ++ margin depth ++ "-- " ++ label ++ ": " ++ toString matched

def blockedLine (depth : Nat) (name : String) : String :=
  "DEBUG " ++ margin depth ++ "-- named rule " ++ name ++ ": blocked"

/-- The lines of an attempt at depth `depth`, with those from inside of it: one where it begins and
one where it has its answer. A reference to the active name has nothing inside of it but a line that
it was blocked. -/
def Arena.linesOf (g : Arena σ) (depth : Nat) (a : Attempt) (e : Ending) (inside : List String) :
    List String :=
  match g.rule? a.rule with
  | none => []
  | some r =>
    [openingLine depth r.label] ++
      (match r.refusedName a.active with
        | some name => [blockedLine depth name]
        | none => inside) ++
      match e.answer with
      | .ok matched => [closingLine depth r.label matched]
      | .error _ => []

/-- The lines of all attempts that are made at depth `depth`, with those from inside of them one
level deeper. -/
def Course.listing (g : Arena σ) : Nat → Course → List String
  | _, .none => []
  | depth, .made a inside e later =>
    g.linesOf depth a e (inside.listing g (depth + 1)) ++ later.listing g depth

/-! ## The rules that are open -/

/-- What an entry does to the rules that are open, last one first, where the trace has begun at
depth `base`. Every entry is as deep as there are open rules, and only the last one is left. -/
def LogEntry.nest? (base : Nat) (opened : List String) : LogEntry → Option (List String)
  | .entered depth label =>
    if depth = base + opened.length + 1 then some (label :: opened) else none
  | .left depth label _ =>
    if depth = base + opened.length ∧ opened.head? = some label then some opened.tail else none
  | .blocked depth name =>
    if depth = base + opened.length ∧ opened.head? = some ("named rule " ++ name) then some opened
    else none
  | _ => none

/-- The rules that a trace leaves open, last one first, if it is properly nested. -/
def stillOpen (base : Nat) (entries : List LogEntry) : Option (List String) :=
  entries.foldlM (LogEntry.nest? base) []

/-- The rules of the attempts that have stopped, last one first. -/
def Course.openRules (g : Arena σ) : Course → List String
  | .none => []
  | .made a inside e later =>
    later.openRules g ++
      match e.answer, g.rule? a.rule with
      | .error _, some r => inside.openRules g ++ [r.label]
      | _, _ => []

/-- The lines that close open rules, last one first, with an answer. -/
def closingLines (base : Nat) (answer : Bool) : List String → List String
  | [] => []
  | label :: opened =>
    closingLine (base + opened.length) label answer :: closingLines base answer opened

/-- The attempts with an answer for those that have stopped. -/
def Course.answering (answer : Bool) : Course → Course
  | .none => .none
  | .made a inside e later =>
    .made a (inside.answering answer)
      (match e.answer with
        | .ok _ => e
        | .error _ => ⟨.ok answer, e.rest⟩)
      (later.answering answer)

section

variable {g : Arena σ} {p : Plan} {c : Course} {a : Attempt} {e : Ending} {r : Rule σ}
  {name : String}

theorem closingLines_append (base : Nat) (answer : Bool) (inner outer : List String) :
    closingLines base answer (inner ++ outer) =
      closingLines (base + outer.length) answer inner ++ closingLines base answer outer := by
  induction inner with
  | nil => rfl
  | cons label inner ih =>
    simp only [List.cons_append, closingLines, ih, List.length_append]
    rw [show base + (inner.length + outer.length) = base + outer.length + inner.length by omega]

/-- A reference to the active name fails without an attempt inside of it. -/
theorem Runs.of_refused (h : Runs g (g.plan a) c e) (hr : g.rule? a.rule = some r)
    (hname : r.refusedName a.active = some name) :
    c = .none ∧ e = .failed a.rest ∧ r.label = "named rule " ++ name := by
  cases r with
  | reference name' =>
    simp only [Rule.refusedName, Option.ite_none_right_eq_some, Option.some.injEq] at hname
    obtain ⟨hactive, rfl⟩ := hname
    rw [plan_of_rule hr, Plan.ofRule, if_pos hactive] at h
    obtain ⟨rfl, rfl⟩ := h.finish_inv
    exact ⟨rfl, rfl, rfl⟩
  | _ => cases hname

theorem Course.length_openRules : (c.openRules g).length = c.unclosed g := by
  induction c with
  | none => rfl
  | made a inside e later ih₁ ih₂ =>
    simp only [Course.openRules, Course.unclosed, List.length_append, ih₂]
    cases e.answer <;> cases g.rule? a.rule <;> simp [ih₁, Nat.add_comm]

/-- Nothing is open behind an answer. -/
theorem Runs.openRules_of_ok (h : Runs g p c e) {matched : Bool} (he : e.answer = .ok matched) :
    c.openRules g = [] := by
  rw [← List.length_eq_zero_iff, Course.length_openRules, h.unclosed_eq_zero he]

/-! ## What is written down -/

theorem line_entered (depth : Nat) (label : String) :
    (LogEntry.entered (depth + 1) label).line = openingLine depth label := rfl

theorem line_left (depth : Nat) (label : String) (matched : Bool) :
    (LogEntry.left (depth + 1) label matched).line = closingLine depth label matched := rfl

theorem line_blocked (depth : Nat) (name : String) :
    (LogEntry.blocked (depth + 1) name).line = blockedLine depth name := rfl

/-- The entries of an attempt are its lines. -/
theorem Runs.line_reports (h : Runs g (g.plan a) c e) (depth : Nat) :
    (g.reports (depth + 1) a e (c.log g (depth + 1))).map LogEntry.line =
      g.linesOf depth a e ((c.log g (depth + 1)).map LogEntry.line) := by
  unfold Arena.reports Arena.linesOf
  cases hr : g.rule? a.rule with
  | none => rfl
  | some r =>
    cases hname : r.refusedName a.active with
    | some name =>
      obtain ⟨rfl, rfl, -⟩ := h.of_refused hr hname
      simp [Rule.report, hname, Course.log, Ending.failed, line_entered, line_left, line_blocked]
    | none =>
      cases e.answer with
      | ok matched => simp [Rule.report, hname, line_entered, line_left]
      | error stop => simp [hname, line_entered]

/-- The entries of the log are the lines of the listing. -/
theorem Runs.line_log (h : Runs g p c e) (depth : Nat) :
    (c.log g depth).map LogEntry.line = c.listing g depth := by
  induction h generalizing depth with
  | finish e => rfl
  | attempt h₁ _ ih₁ ih₂ =>
    rw [Course.log, Course.listing, List.map_append, h₁.line_reports, ih₁, ih₂]

theorem nest?_entered (base : Nat) (opened : List String) (label : String) :
    LogEntry.nest? base opened (.entered (base + opened.length + 1) label) =
      some (label :: opened) := if_pos rfl

theorem nest?_left (base : Nat) (opened : List String) (label : String) (matched : Bool) :
    LogEntry.nest? base (label :: opened) (.left (base + opened.length + 1) label matched) =
      some opened := if_pos ⟨rfl, rfl⟩

theorem nest?_blocked (base : Nat) (opened : List String) (name : String) :
    LogEntry.nest? base (("named rule " ++ name) :: opened)
      (.blocked (base + opened.length + 1) name) = some (("named rule " ++ name) :: opened) :=
  if_pos ⟨rfl, rfl⟩

/-- An attempt closes its rule again with its answer, or else leaves it open with those inside. -/
theorem Runs.nest_reports (h : Runs g (g.plan a) c e) (hr : g.rule? a.rule = some r) {base : Nat}
    {opened : List String}
    (hinside : (c.log g (base + opened.length + 1)).foldlM (LogEntry.nest? base)
      (r.label :: opened) = some (c.openRules g ++ r.label :: opened)) :
    (g.reports (base + opened.length + 1) a e (c.log g (base + opened.length + 1))).foldlM
        (LogEntry.nest? base) opened =
      some (match e.answer with
        | .ok _ => opened
        | .error _ => c.openRules g ++ r.label :: opened) := by
  cases hname : r.refusedName a.active with
  | some name =>
    obtain ⟨rfl, rfl, hlabel⟩ := h.of_refused hr hname
    simp [Arena.reports, hr, Rule.report, hname, Course.log, Ending.failed, hlabel, nest?_entered,
      nest?_blocked, nest?_left]
  | none =>
    cases hans : e.answer with
    | ok matched =>
      rw [h.openRules_of_ok hans, List.nil_append] at hinside
      simp [Arena.reports, hr, hans, Rule.report, hname, nest?_entered, hinside, nest?_left]
    | error stop => simp [Arena.reports, hr, hans, nest?_entered, hinside]

/-- A trace opens and closes rules in order, and leaves those open that have stopped. -/
theorem Runs.nest_log (h : Runs g p c e) (base : Nat) (opened : List String) :
    (c.log g (base + opened.length)).foldlM (LogEntry.nest? base) opened =
      some (c.openRules g ++ opened) := by
  induction h generalizing opened with
  | finish e => rfl
  | @attempt a next inside later e e' h₁ h₂ ih₁ ih₂ =>
    rw [Course.log, List.foldlM_append]
    cases hr : g.rule? a.rule with
    | none => simp [Arena.reports, hr, Course.openRules, ih₂]
    | some r =>
      rw [h₁.nest_reports hr (ih₁ (r.label :: opened)), Option.bind_eq_bind, Option.bind_some]
      cases hans : e.answer with
      | ok matched => simp [Course.openRules, hans, ih₂]
      | error stop =>
        obtain ⟨rfl, -⟩ := h₂.stopped_inv hans
        simp [Course.openRules, hans, hr, Course.log]

/-- With an answer for what has stopped, the listing goes on to close what is open. -/
theorem Runs.listing_answering (h : Runs g p c e) (answer : Bool) (depth : Nat) :
    (c.answering answer).listing g depth =
      c.listing g depth ++ closingLines depth answer (c.openRules g) := by
  induction h generalizing depth with
  | finish e => rfl
  | @attempt a next inside later e e' h₁ h₂ ih₁ ih₂ =>
    rw [Course.answering, Course.listing, Course.listing, ih₁, ih₂]
    cases hans : e.answer with
    | ok matched => simp [Course.openRules, hans, h₁.openRules_of_ok hans, closingLines]
    | error stop =>
      obtain ⟨rfl, -⟩ := h₂.stopped_inv hans
      cases hr : g.rule? a.rule with
      | none => simp [Arena.linesOf, hr, Course.openRules, hans, Course.listing, closingLines]
      | some r =>
        have hname : r.refusedName a.active = none := by
          cases hname : r.refusedName a.active with
          | none => rfl
          | some name =>
            obtain ⟨-, rfl, -⟩ := h₁.of_refused hr hname
            cases hans
        simp [Arena.linesOf, hr, hname, hans, Course.openRules, Course.listing, closingLines,
          closingLines_append]

end

/-! ## Without a trace -/

/-- The state that a step comes to, with an answer or without. -/
def reached {α : Type} : EStateM.Result Halt MatchState α → MatchState
  | .ok _ t => t
  | .error _ t => t

/-- The trace is off, and nothing has been written down between two states. -/
structure Silent (s t : MatchState) : Prop where
  trace : t.trace = false
  log : t.log = s.log

/-- A step that writes nothing down where the trace is off, whatever it comes to. -/
def Match.Quiet {α : Type} (m : Match α) : Prop := ∀ s, s.trace = false → Silent s (reached (m s))

section

variable {α β : Type} {g : Arena σ} {eval : RuleId → Match Bool} {s t u : MatchState}

theorem Silent.refl (hs : s.trace = false) : Silent s s := ⟨hs, rfl⟩

theorem Silent.trans (h : Silent s t) (h' : Silent t u) : Silent s u :=
  ⟨h'.trace, h'.log.trans h.log⟩

theorem report_of_not_trace (hs : s.trace = false) (entry : Nat → LogEntry) :
    s.report entry = s := by
  simp [MatchState.report, hs]

theorem silent_enter (hs : s.trace = false) (r : Rule σ) : Silent s (s.enter r) := by
  rw [MatchState.enter, report_of_not_trace (s := { s with depth := s.depth + 1 }) hs]
  exact ⟨hs, rfl⟩

namespace Match.Quiet

theorem pure (a : α) : Quiet (Pure.pure a) := fun _ hs => .refl hs

theorem bind {m : Match α} {k : α → Match β} (hm : m.Quiet) (hk : ∀ a, (k a).Quiet) :
    Quiet (m >>= k) := by
  intro s hs
  have hfirst := hm s hs
  rw [bind_apply]
  cases hres : m s with
  | ok a t =>
    rw [hres] at hfirst
    exact hfirst.trans (hk a t hfirst.trace)
  | error halt t =>
    rw [hres] at hfirst
    exact hfirst

theorem become {f : MatchState → Except Fault MatchState}
    (hf : ∀ s t, s.trace = false → f s = .ok t → Silent s t) :
    Quiet (do Match.become (f (← get))) := by
  intro s hs
  show Silent s (reached (Match.become (f s) s))
  cases hres : f s with
  | error fault => exact .refl hs
  | ok t => exact hf s t hs hres

theorem capture (entry : MatchState) (id : RuleId) : Quiet (Match.capture entry id) := by
  refine become fun s t hs h => ?_
  unfold MatchState.record at h
  split at h
  · cases h
  · cases h
    exact ⟨hs, rfl⟩

theorem leave (r : Rule σ) (matched : Bool) :
    Quiet (do Match.become ((← get).leave r matched)) := by
  refine become fun s t hs h => ?_
  rw [MatchState.leave, report_of_not_trace hs] at h
  split at h
  · cases h
  · cases h
    exact ⟨hs, rfl⟩

theorem settle (id : RuleId) (entry : MatchState) (matched : Bool) (r : Rule σ) :
    Quiet (r.settle id entry matched) := by
  cases r with
  | action a run =>
    cases matched with
    | true => exact capture entry id
    | false => exact fun s hs => ⟨hs, rfl⟩
  | reference name =>
    simp only [Rule.settle]
    split
    · intro s hs
      show Silent s (s.report (.blocked · name))
      rw [report_of_not_trace hs]
      exact .refl hs
    · exact pure _
  | _ => exact pure _

theorem attempt (heval : ∀ id, (eval id).Quiet) (a : Attempt) : Quiet (a.run eval) := by
  intro s hs
  unfold Attempt.run
  split
  · have h := heval a.rule (s.atRest a.rest) hs
    exact ⟨h.trace, h.log⟩
  · have h := heval a.rule ((s.atRest a.rest).setActive a.active) hs
    cases hres : eval a.rule ((s.atRest a.rest).setActive a.active) <;>
    · rw [hres] at h
      exact ⟨h.trace, h.log⟩

theorem plan (heval : ∀ id, (eval id).Quiet) (p : Plan) : Quiet (p.run eval) := by
  induction p with
  | finish e =>
    intro s hs
    simp only [Plan.run]
    cases e.answer <;> exact ⟨hs, rfl⟩
  | attempt a next ih =>
    intro s hs
    have h := attempt heval a s hs
    simp only [Plan.run]
    cases hres : a.run eval s with
    | ok matched t =>
      rw [hres] at h
      exact h.trans (ih matched t.cursor.rest t h.trace)
    | error halt t =>
      rw [hres] at h
      exact h

theorem evalWithin (g : Arena σ) (fuel : Nat) (id : RuleId) :
    Quiet (Match.evalWithin g fuel id) := by
  induction fuel generalizing id with
  | zero => exact fun s hs => .refl hs
  | succ fuel ih =>
    intro s hs
    cases hr : g.rule? id with
    | none =>
      rw [evalWithin_missing hr]
      exact .refl hs
    | some r =>
      rw [evalWithin_rule hr (evalWithin_sound g fuel).forward]
      have henter := silent_enter hs r
      have h := plan ih (g.plan (s.attempt id)) (s.enter r) henter.trace
      cases hres : (g.plan (s.attempt id)).run (Match.evalWithin g fuel) (s.enter r) with
      | ok matched t =>
        rw [hres] at h
        have hsettle := bind (settle id (s.enter r) matched r) fun _ =>
          bind (leave r matched) fun _ => pure matched
        exact (henter.trans h).trans (hsettle t h.trace)
      | error halt t =>
        rw [hres] at h
        exact henter.trans h

end Match.Quiet

end

/-! ## The tree of attempts -/

/-- Something holds of all attempts of a course with their endings, also of those inside of
others. -/
def Course.Everywhere (P : Attempt → Ending → Prop) : Course → Prop
  | .none => True
  | .made a inside e later => P a e ∧ inside.Everywhere P ∧ later.Everywhere P

/-- Wherever the attempt is made, matching its rule comes to the ending. -/
def Arena.ComesTo (g : Arena σ) (a : Attempt) (e : Ending) : Prop :=
  ∀ u : MatchState, u.attempt a.rule = a →
    match e.answer with
    | .ok matched => ∃ v, Match.eval g a.rule u = .ok matched v ∧ v.cursor.rest = e.rest
    | .error stop =>
      ∃ v, Match.eval g a.rule u = .error (stop.halt u.cursor.input e.rest) v ∧
        v.cursor.rest = e.rest

/-- The attempts that are made inside of `a` as its rule asks for them, and no others. Each of them
has the ending that matching comes to. -/
structure TreeOf (g : Arena σ) (a : Attempt) (e : Ending) (inside : Course) : Prop where
  runs : Runs g (g.plan a) inside e
  only : ∀ c e', Runs g (g.plan a) c e' → c = inside ∧ e' = e
  endings : (Course.made a inside e .none).Everywhere g.ComesTo

/-- What is written down between two states is the listing of a tree. It is properly nested but for
the rules that are `opened`, last one first. They are as many as matching has got deeper, and lines
that close them are all that the listing lacks. -/
structure Traced (g : Arena σ) (s t : MatchState) (tree : Course) (opened : List String) :
    Prop where
  lines : ∃ entries, t.log = entries.reverse ++ s.log ∧
    entries.map LogEntry.line = tree.listing g s.depth ∧ stillOpen s.depth entries = some opened
  depth : t.depth = s.depth + opened.length
  closed : ∀ answer, (tree.answering answer).listing g s.depth =
    tree.listing g s.depth ++ closingLines s.depth answer opened

section

variable {g : Arena σ} {p : Plan} {c inside : Course} {a : Attempt} {e : Ending} {s t : MatchState}
  {y : List Char} {id : RuleId}

theorem Runs.comesTo (h : Runs g (g.plan a) c e) : g.ComesTo a e := by
  intro u hu
  have hrun : Runs g (g.plan (u.attempt a.rule)) c e := by
    rw [hu]
    exact h
  have hends := hrun.eval_ends
  cases he : e.answer with
  | ok matched =>
    obtain ⟨v, hres, hreach⟩ := hends.answered he
    exact ⟨v, hres, hreach.rest⟩
  | error stop =>
    obtain ⟨v, hres, hreach⟩ := hends.halted he
    exact ⟨v, hres, hreach.rest⟩

theorem Runs.everywhere_comesTo (h : Runs g p c e) : c.Everywhere g.ComesTo := by
  induction h with
  | finish e => trivial
  | attempt h₁ _ ih₁ ih₂ => exact ⟨h₁.comesTo, ih₁, ih₂⟩

theorem Runs.treeOf (h : Runs g (g.plan a) inside e) : TreeOf g a e inside where
  runs := h
  only := fun _ _ h' => h.unique h'
  endings := h.alone.everywhere_comesTo

theorem Reaches.traced (h : Reaches g s c y t) (hrun : Runs g p c e) (hs : s.trace = true) :
    Traced g s t c (c.openRules g) where
  lines := by
    refine ⟨c.log g s.depth, ?_, hrun.line_log s.depth, ?_⟩
    · rw [h.log, hs, if_pos rfl]
    · have hnest := hrun.nest_log s.depth []
      rwa [List.append_nil] at hnest
  depth := by rw [h.depth, Course.length_openRules]
  closed := fun answer => hrun.listing_answering answer s.depth

/-- With a trace, a match writes down the listing of its tree of attempts. Where it has an answer,
each rule that was entered is left again. Where it stops, some rules are still open, and the lines
are the beginning of a listing that goes on to close them. Without a trace nothing is written down,
whatever the match comes to. -/
theorem a_trace_lists_the_attempts (g : Arena σ) (id : RuleId) (s : MatchState) :
    (∀ matched t, s.trace = true → Match.eval g id s = .ok matched t →
      ∃ inside, TreeOf g (s.attempt id) ⟨.ok matched, t.cursor.rest⟩ inside ∧
        Traced g s t (.made (s.attempt id) inside ⟨.ok matched, t.cursor.rest⟩ .none) []) ∧
    (∀ halt t, s.trace = true → Match.eval g id s = .error halt t → halt ≠ .outOfFuel →
      ∃ inside stop opened, halt = stop.halt s.cursor.input t.cursor.rest ∧
        TreeOf g (s.attempt id) ⟨.error stop, t.cursor.rest⟩ inside ∧
        Traced g s t (.made (s.attempt id) inside ⟨.error stop, t.cursor.rest⟩ .none) opened) ∧
    (s.trace = false → (reached (Match.eval g id s)).log = s.log) := by
  refine ⟨?_, ?_, ?_⟩
  · intro matched t hs hres
    obtain ⟨inside, hrun, hreach⟩ := eval_ok hres
    have htraced := hreach.traced hrun.alone hs
    rw [hrun.alone.openRules_of_ok rfl] at htraced
    exact ⟨inside, hrun.treeOf, htraced⟩
  · intro halt t hs hres hfuel
    obtain ⟨inside, stop, hhalt, hrun, hreach⟩ := eval_error hres hfuel
    exact ⟨inside, stop, _, hhalt, hrun.treeOf, hreach.traced hrun.alone hs⟩
  · intro hs
    exact (Match.Quiet.evalWithin g (Match.depthBound g s) id s hs).log

end

/-- An item that begins with itself or is a letter, and an item with a lost name behind it. -/
def itemOrLost : Arena Unit where
  rules := #[.literal "a", .reference "item", .choice ⟨1⟩ ⟨0⟩, .reference "lost", .sequence ⟨1⟩ ⟨3⟩]
  names := [("item", ⟨2⟩)]
  whitespace := ⟨0⟩
  warnings := []

example :
    (reached (Match.eval itemOrLost ⟨4⟩ (.ofText ['a'] true))).log.reverse.map LogEntry.line =
      ["DEBUG ++ ~",
        "DEBUG   ++ named rule item",
        "DEBUG     ++ |",
        "DEBUG       ++ named rule item",
        "DEBUG       -- named rule item: blocked",
        "DEBUG       -- named rule item: false",
        "DEBUG       ++ literal \"a\"",
        "DEBUG       -- literal \"a\": true",
        "DEBUG     -- |: true",
        "DEBUG   -- named rule item: true",
        "DEBUG   ++ named rule lost"] := by decide +kernel

/-- The item leaves nothing open, and the lost name leaves two rules open. -/
theorem a_lost_name_leaves_rules_open :
    (∃ inside t, Match.eval itemOrLost ⟨1⟩ (.ofText ['a'] true) = .ok true t ∧
      Traced itemOrLost (.ofText ['a'] true) t (.made ⟨⟨1⟩, none, ['a']⟩ inside (.matched []) .none)
        []) ∧
    (∃ tree t opened, Match.eval itemOrLost ⟨4⟩ (.ofText ['a'] true) =
        .error (.error (.unknownRule "lost")) t ∧
      Traced itemOrLost (.ofText ['a'] true) t tree opened ∧ opened.length = 2) ∧
    (reached (Match.eval itemOrLost ⟨1⟩ (.ofText ['a'] false))).log = [] := by
  refine ⟨?_, ?_, ?_⟩
  · obtain ⟨t, hres, hrest⟩ : ∃ t, Match.eval itemOrLost ⟨1⟩ (.ofText ['a'] true) = .ok true t ∧
        t.cursor.rest = [] := ⟨reached (Match.eval itemOrLost ⟨1⟩ (.ofText ['a'] true)), rfl, rfl⟩
    obtain ⟨inside, -, htraced⟩ :=
      (a_trace_lists_the_attempts itemOrLost ⟨1⟩ (.ofText ['a'] true)).1 true t rfl hres
    rw [hrest] at htraced
    exact ⟨inside, t, hres, htraced⟩
  · obtain ⟨t, hres, htwo⟩ : ∃ t, Match.eval itemOrLost ⟨4⟩ (.ofText ['a'] true) =
        .error (.error (.unknownRule "lost")) t ∧ t.depth = 2 :=
      ⟨reached (Match.eval itemOrLost ⟨4⟩ (.ofText ['a'] true)), rfl, rfl⟩
    obtain ⟨inside, stop, opened, -, -, htraced⟩ :=
      (a_trace_lists_the_attempts itemOrLost ⟨4⟩ (.ofText ['a'] true)).2.1 _ t rfl hres (by simp)
    have hdepth : 2 = 0 + opened.length := htwo.symm.trans htraced.depth
    exact ⟨_, t, opened, hres, htraced, by omega⟩
  · exact (a_trace_lists_the_attempts itemOrLost ⟨1⟩ (.ofText ['a'] false)).2.2 rfl

end Peg
