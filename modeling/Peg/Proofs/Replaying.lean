-- What a parse does to the output and to its parser. Actions run behind the match only, one for
-- each capture, and a parser never changes but for its definition, which is run once.
import Peg.Parser
import Peg.Proofs.Safety

namespace Peg

open Text

variable {σ : Type}

/-! ## Matching without actions -/

section

variable {τ : Type} (f : Action σ → Action τ)

/-- The rule with another action, if it has one. -/
def Rule.mapAction : Rule σ → Rule τ
  | .literal text => .literal text
  | .range lo hi => .range lo hi
  | .pattern source finder => .pattern source finder
  | .not a => .not a
  | .endOfInput a => .endOfInput a
  | .sequence a b => .sequence a b
  | .spaced a b => .spaced a b
  | .choice a b => .choice a b
  | .zeroOrMore a => .zeroOrMore a
  | .oneOrMore a => .oneOrMore a
  | .optional a => .optional a
  | .reference name => .reference name
  | .action a run => .action a (f run)

/-- The arena with other actions. -/
def Arena.mapActions (g : Arena σ) : Arena τ :=
  { g with rules := g.rules.map (·.mapAction f) }

theorem Rule.label_mapAction (r : Rule σ) : (r.mapAction f).label = r.label := by
  cases r <;> rfl

theorem rule?_mapActions (g : Arena σ) (id : RuleId) :
    (g.mapActions f).rule? id = (g.rule? id).map (·.mapAction f) :=
  Array.getElem?_map

theorem rule_mapActions (g : Arena σ) (eval : RuleId → Match Bool) (id : RuleId) (r : Rule σ) :
    Match.rule (g.mapActions f) eval id (r.mapAction f) = Match.rule g eval id r := by
  cases r <;> rfl

theorem evalWithin_mapActions (g : Arena σ) (fuel : Nat) :
    Match.evalWithin (g.mapActions f) fuel = Match.evalWithin g fuel := by
  induction fuel with
  | zero => rfl
  | succ fuel ih =>
    funext id
    unfold Match.evalWithin
    rw [rule?_mapActions, ih]
    cases g.rule? id with
    | none => rfl
    | some r =>
      simp only [Option.map_some, rule_mapActions, MatchState.enter, MatchState.leave,
        Rule.label_mapAction]

/-- No match depends on what its actions do. -/
theorem eval_mapActions (g : Arena σ) (id : RuleId) :
    Match.eval (g.mapActions f) id = Match.eval g id := by
  funext s
  have hbound : Match.depthBound (g.mapActions f) s = Match.depthBound g s := by
    simp [Match.depthBound, Arena.mapActions, Arena.size]
  rw [Match.eval, hbound, evalWithin_mapActions, Match.eval]

end

/-! ## Replaying captures -/

/-- Captures are replayed one after another: each one's rule is an action, which sees the capture
and the one before it. -/
inductive Replays (g : Arena σ) : Option Capture → List Capture → σ → σ → Prop where
  | nil {last : Option Capture} {output : σ} : Replays g last [] output output
  | cons {last : Option Capture} {c : Capture} {more : List Capture} {output output' : σ}
      {a : RuleId} {run : Action σ} :
    g.rule? c.rule = some (.action a run) →
      Replays g (some c) more (run output ⟨c, last⟩) output' →
      Replays g last (c :: more) output output'

section

variable {g : Arena σ} {s t : MatchState} {root : RuleId} {matched : Bool}

theorem Arena.replays_replayAfter {captures : List Capture}
    (h : ∀ c ∈ captures, ∃ a run, g.rule? c.rule = some (.action a run)) (last : Option Capture)
    (output : σ) : Replays g last captures output (g.replayAfter last captures output) := by
  induction captures generalizing last output with
  | nil => exact .nil
  | cons c more ih =>
    obtain ⟨⟨a, run, hrule⟩, hmore⟩ := List.forall_mem_cons.1 h
    have hone : g.replayOne ⟨c, last⟩ output = run output ⟨c, last⟩ := by
      simp [Arena.replayOne, hrule]
    rw [Arena.replayAfter, hone]
    exact .cons hrule (ih hmore _ _)

/-- A match from a new state leaves captures of actions only. -/
theorem captures_by_actions (h : Match.eval g root s = .ok matched t) (hs : s.captures = []) :
    ∀ c ∈ t.captures, ∃ a run, g.rule? c.rule = some (.action a run) := by
  obtain ⟨inside, hrun, hreach⟩ := eval_ok h
  obtain ⟨added, hcaptures, hsound⟩ := (hreach.keeps hrun).captures
  rw [hs, List.nil_append] at hcaptures
  intro c hc
  rw [hcaptures] at hc
  exact (hsound c hc).byAction

end

/-! ## The verdict -/

/-- How a match of `root` from the state `s` may go, with the output behind it. Only if there is
one does anything happen to the output. -/
inductive Verdict (g : Arena σ) (root : RuleId) (s : MatchState) (output : σ) :
    Except Halt Bool → σ → Prop where
  | halted {halt : Halt} {t : MatchState} :
    Match.eval g root s = .error halt t → Verdict g root s output (.error halt) output
  | failed {t : MatchState} :
    Match.eval g root s = .ok false t → Verdict g root s output (.ok false) output
  | matched {t : MatchState} {output' : σ} :
    Match.eval g root s = .ok true t → Replays g none t.captures output output' →
      Verdict g root s output (.ok true) output'

section

variable {g : Arena σ} {root : RuleId} {s : MatchState} {output output' : σ}
  {result : Except Halt Bool}

theorem Verdict.output_eq (h : Verdict g root s output result output')
    (hresult : result ≠ .ok true) : output' = output := by
  cases h with
  | halted _ => rfl
  | failed _ => rfl
  | matched _ _ => exact absurd rfl hresult

/-- A parse halts where its match does, and for the same reason. -/
theorem Verdict.eq_error_iff (h : Verdict g root s output result output') (halt : Halt) :
    result = .error halt ↔ ∃ t, Match.eval g root s = .error halt t := by
  cases h with
  | halted hres => simp [hres, eq_comm]
  | failed hres => simp [hres]
  | matched hres _ => simp [hres]

/-- Where the captures of a match are to be replayed, they are replayed in their order. -/
theorem Verdict.replays {t : MatchState} (h : Verdict g root s output result output')
    (ht : Match.eval g root s = .ok true t) : Replays g none t.captures output output' := by
  cases h with
  | halted hres | failed hres =>
    rw [ht] at hres
    cases hres
  | matched hres hreplays =>
    rw [ht] at hres
    cases hres
    exact hreplays

end

namespace Parser

section

variable {p : Parser σ} {root : RuleId} {input : List Char} {output : σ}

theorem verdict_parseFrom (p : Parser σ) (root : RuleId) (input : List Char) (output : σ) :
    Verdict p.arena root (.ofText input p.debug) output (p.parseFrom root input output).result
      (p.parseFrom root input output).output := by
  unfold parseFrom
  split
  · next halt t hres => exact .halted hres
  · next t hres => exact .failed hres
  · next t hres =>
    exact .matched hres (p.arena.replays_replayAfter (captures_by_actions hres rfl) none output)

/-! ## The definition -/

/-- There is a rule to begin with, or no definition that could find one. -/
def Settled (p : Parser σ) : Prop := p.root.isSome ∨ p.definition = none

/-- What a call may do to a parser: it runs the definition if it needs to, and then there is none
left. All else stays. -/
structure Keeps (p after : Parser σ) : Prop where
  debug : after.debug = p.debug
  settled : after.Settled
  unchanged (h : p.Settled) : after = p
  built {definition : Definition σ} (hroot : p.root = none) (h : p.definition = some definition) :
    after.arena = (definition.run.run p.arena).2 ∧
      after.root = (definition.run.run p.arena).1.toOption ∧ after.definition = none

theorem takeRoot_of_missing (hroot : p.root = none) (h : p.definition = none) :
    p.takeRoot = (.error (.error .missingRoot), p) := by
  simp [takeRoot, hroot, h]

theorem takeRoot_of_definition {definition : Definition σ} (hroot : p.root = none)
    (h : p.definition = some definition) :
    p.takeRoot =
      ((definition.run.run p.arena).1.mapError .fault,
        { p with
          arena := (definition.run.run p.arena).2
          root := (definition.run.run p.arena).1.toOption
          definition := none }) := by
  simp only [takeRoot, hroot, h]
  split
  · next hrun =>
    rw [hrun]
    rfl
  · next hrun =>
    rw [hrun]
    rfl

theorem takeRoot_of_settled (h : p.Settled) : p.takeRoot.2 = p := by
  cases hroot : p.root with
  | some root => rw [takeRoot_of_root hroot]
  | none =>
    rcases h with h | h
    · rw [hroot] at h
      cases h
    · rw [takeRoot_of_missing hroot h]

theorem keeps_takeRoot (p : Parser σ) : p.Keeps p.takeRoot.2 where
  unchanged := takeRoot_of_settled
  debug := by
    cases hroot : p.root with
    | some root => rw [takeRoot_of_root hroot]
    | none =>
      cases hdefinition : p.definition with
      | none => rw [takeRoot_of_missing hroot hdefinition]
      | some definition => rw [takeRoot_of_definition hroot hdefinition]
  settled := by
    cases hroot : p.root with
    | some root =>
      rw [takeRoot_of_root hroot]
      exact .inl (by rw [hroot]; rfl)
    | none => exact .inr (definition_takeRoot hroot)
  built hroot h := by
    rw [takeRoot_of_definition hroot h]
    exact ⟨rfl, rfl, rfl⟩

/-- Whichever rule is taken is the rule to begin with from then on. -/
theorem takeRoot_cases (p : Parser σ) :
    (∃ root after, p.takeRoot = (.ok root, after) ∧ after.root = some root) ∨
      ∃ halt after, p.takeRoot = (.error halt, after) ∧ after.root = none := by
  cases hroot : p.root with
  | some root => exact .inl ⟨root, p, takeRoot_of_root hroot, hroot⟩
  | none =>
    cases hdefinition : p.definition with
    | none => exact .inr ⟨_, p, takeRoot_of_missing hroot hdefinition, hroot⟩
    | some definition =>
      rw [takeRoot_of_definition hroot hdefinition]
      cases (definition.run.run p.arena).1 with
      | error fault => exact .inr ⟨.fault fault, _, rfl, rfl⟩
      | ok root => exact .inl ⟨root, _, rfl, rfl⟩

/-- A definition that has not failed makes no difference once it has run. -/
theorem takeRoot_takeRoot (h : ∀ fault, p.takeRoot.1 ≠ .error (.fault fault)) :
    p.takeRoot.2.takeRoot = p.takeRoot := by
  rcases p.takeRoot_cases with ⟨root, after, hok, hroot⟩ | ⟨halt, after, herror, -⟩
  · rw [hok, takeRoot_of_root hroot]
  · -- with a rule to begin with, or a definition that has not failed, there would be no halt
    have hsettled : p.Settled := by
      cases hroot : p.root with
      | some root => exact .inl (by rw [hroot]; rfl)
      | none =>
        cases hdefinition : p.definition with
        | none => exact .inr hdefinition
        | some definition =>
          rw [takeRoot_of_definition hroot hdefinition] at h herror
          cases hrun : (definition.run.run p.arena).1 with
          | error fault =>
            rw [hrun] at h
            exact absurd rfl (h fault)
          | ok root =>
            rw [hrun] at herror
            cases herror
    rw [takeRoot_of_settled hsettled]

/-! ## Parsing -/

theorem parse_snd (p : Parser σ) (input : List Char) (output : σ) :
    (p.parse input output).2 = p.takeRoot.2 := by
  unfold parse
  split
  · next hroot => rw [hroot]
  · next hroot => rw [hroot]

theorem verdict_parse (h : p.takeRoot.2.root = some root) :
    Verdict p.takeRoot.2.arena root (.ofText input p.takeRoot.2.debug) output
      (p.parse input output).1.result (p.parse input output).1.output := by
  rcases p.takeRoot_cases with ⟨root', after, hok, hroot⟩ | ⟨halt, after, herror, hroot⟩
  · rw [hok, hroot] at h
    cases h
    rw [parse, hok]
    exact after.verdict_parseFrom root input output
  · rw [herror, hroot] at h
    cases h

theorem parse_of_no_root (input : List Char) (output : σ) (h : p.takeRoot.2.root = none) :
    ∃ halt, p.takeRoot.1 = .error halt ∧ (p.parse input output).1 = ⟨.error halt, output, []⟩ := by
  rcases p.takeRoot_cases with ⟨root, after, hok, hroot⟩ | ⟨halt, after, herror, hroot⟩
  · rw [hok, hroot] at h
    cases h
  · rw [parse, herror]
    exact ⟨halt, rfl, rfl⟩

/-- Without a match nothing happens to the output. -/
theorem output_parse (h : (p.parse input output).1.result ≠ .ok true) :
    (p.parse input output).1.output = output := by
  cases hroot : p.takeRoot.2.root with
  | some root => exact (verdict_parse hroot).output_eq h
  | none =>
    obtain ⟨halt, -, hparse⟩ := parse_of_no_root input output hroot
    rw [hparse]

/-! ## Calls one after another -/

/-- The parser behind calls with these texts and outputs. -/
def afterCalls (p : Parser σ) : List (List Char × σ) → Parser σ
  | [] => p
  | (input, output) :: more => (p.parse input output).2.afterCalls more

theorem takeRoot_afterCalls (h : ∀ fault, p.takeRoot.1 ≠ .error (.fault fault))
    (calls : List (List Char × σ)) : (p.afterCalls calls).takeRoot = p.takeRoot := by
  induction calls generalizing p with
  | nil => rfl
  | cons call more ih =>
    have hsame := takeRoot_takeRoot h
    have hmore := ih (p := p.takeRoot.2) (by rw [hsame]; exact h)
    rw [afterCalls, parse_snd, hmore, hsame]

/-- A definition that has failed is gone, and there is no rule to begin with any more. -/
theorem takeRoot_afterCalls_of_fault {fault : Fault} (h : p.takeRoot.1 = .error (.fault fault))
    (call : List Char × σ) (more : List (List Char × σ)) :
    (p.afterCalls (call :: more)).takeRoot = (.error (.error .missingRoot), p.takeRoot.2) := by
  have hroot : p.takeRoot.2.root = none := by
    rcases p.takeRoot_cases with ⟨root, after, hok, -⟩ | ⟨halt, after, herror, hroot⟩
    · rw [hok] at h
      cases h
    · rw [herror]
      exact hroot
  have hdefinition : p.takeRoot.2.definition = none := by
    rcases p.keeps_takeRoot.settled with hsome | hnone
    · rw [hroot] at hsome
      cases hsome
    · exact hnone
  have hmissing := takeRoot_of_missing hroot hdefinition
  rw [afterCalls, parse_snd, takeRoot_afterCalls ?_ more, hmissing]
  intro fault'
  rw [hmissing]
  simp

/-- A parse leaves the output alone unless there is a match, and then it replays all captures of the
match; the match would be the same with other actions, so none of them runs before. Nothing of this
changes the parser but for its definition, and calls before it make no difference: a definition that
fails is the only one that does not find the same rule again. -/
theorem a_parse_replays_its_match_only (p : Parser σ) (input : List Char) (output : σ) :
    ∃ outcome after, p.parse input output = (outcome, after) ∧
      (outcome.result ≠ .ok true → outcome.output = output) ∧
      (∀ root, after.root = some root →
        Verdict after.arena root (.ofText input after.debug) output outcome.result
          outcome.output ∧
        ∀ (τ : Type) (f : Action σ → Action τ),
          Match.eval (after.arena.mapActions f) root = Match.eval after.arena root) ∧
      (after.root = none → ∃ halt, p.takeRoot.1 = .error halt ∧ outcome.result = .error halt) ∧
      p.Keeps after ∧
      ((∀ fault, p.takeRoot.1 ≠ .error (.fault fault)) → ∀ calls,
        (p.afterCalls calls).parse input output = (outcome, after)) ∧
      ∀ fault, p.takeRoot.1 = .error (.fault fault) → ∀ call more,
        (p.afterCalls (call :: more)).parse input output =
          (⟨.error (.error .missingRoot), output, []⟩, after) := by
  have hparse : p.parse input output = ((p.parse input output).1, p.takeRoot.2) :=
    Prod.ext rfl (p.parse_snd input output)
  refine ⟨_, _, hparse, output_parse, ?_, ?_, p.keeps_takeRoot, ?_, ?_⟩
  · intro root hroot
    exact ⟨verdict_parse hroot, fun τ f => eval_mapActions f _ root⟩
  · intro hroot
    obtain ⟨halt, herror, hresult⟩ := parse_of_no_root input output hroot
    exact ⟨halt, herror, by rw [hresult]⟩
  · intro h calls
    rw [← hparse, parse, takeRoot_afterCalls h, parse]
  · intro fault h call more
    rw [parse, takeRoot_afterCalls_of_fault h]

end

end Parser

end Peg
