-- Matching a rule is doing what its plan says. The captures that an action keeps or drops and the
-- report of a refused name come on top of it, when the plan is done.
import Peg.Proofs.Plans

namespace Peg

open Text

variable {σ : Type}

/-! ## Positions by what is left -/

/-- How many bytes of a text come before an end of it. -/
def offset (input rest : List Char) : Nat := byteLength input - byteLength rest

theorem Text.Cursor.position_eq (c : Cursor) : c.position = offset c.input c.rest := by
  obtain ⟨u, hu, hp⟩ := c.exists_read
  rw [← hp, hu]
  simp [offset]

theorem Text.Cursor.rest_suffix (c : Cursor) : c.rest <:+ c.input := by
  obtain ⟨u, hu, _⟩ := c.exists_read
  exact ⟨u, hu.symm⟩

/-- A cursor is known by its text and what is left of it. -/
theorem Text.Cursor.ext_rest {c d : Cursor} (hi : c.input = d.input) (hr : c.rest = d.rest) :
    c = d := by
  apply ext_position hi
  rw [c.position_eq, d.position_eq, hi, hr]

/-- The cursor where `rest` is left, if the text ends so. -/
def Text.Cursor.toRest (c : Cursor) (rest : List Char) : Cursor :=
  (c.seek? (offset c.input rest)).getD c

theorem Text.Cursor.seek?_eq {c d : Cursor} (h : d.input = c.input) :
    c.seek? d.position = some d := by
  unfold seek?
  have hd := d.onBoundary
  rw [h] at hd
  split
  · next hnone => rw [hd] at hnone; cases hnone
  · next rest hsome =>
    rw [hd] at hsome
    cases hsome
    exact congrArg some (ext_position h.symm rfl)

theorem Text.Cursor.toRest_eq {c d : Cursor} (h : d.input = c.input) : c.toRest d.rest = d := by
  have hp : offset c.input d.rest = d.position := by rw [d.position_eq, h]
  rw [toRest, hp, seek?_eq h]
  rfl

/-- A cursor that has not gone back has stood still exactly when nothing was read. -/
theorem Text.Cursor.position_eq_iff {c d : Cursor} (hi : d.input = c.input)
    (hr : d.rest <:+ c.rest) :
    d.position = c.position ↔ ¬ d.rest.length < c.rest.length := by
  constructor
  · intro hp
    rw [ext_position hi hp]
    exact Nat.lt_irrefl _
  · intro hlt
    have hrest : d.rest = c.rest := hr.eq_of_length_le (Nat.le_of_not_lt hlt)
    rw [d.position_eq, c.position_eq, hi, hrest]

/-- Every end of the text is what is left at some cursor. -/
theorem Text.Cursor.exists_of_suffix {c : Cursor} {rest : List Char} (h : rest <:+ c.input) :
    ∃ d : Cursor, d.input = c.input ∧ d.rest = rest := by
  obtain ⟨u, hu⟩ := h
  exact ⟨⟨c.input, byteLength u, rest, by rw [← hu, after?_append]⟩, rfl, rfl⟩

namespace MatchState

/-- The state where `rest` is left of the text. -/
def atRest (s : MatchState) (rest : List Char) : MatchState :=
  { s with cursor := s.cursor.toRest rest }

theorem atRest_eq {s : MatchState} {d : Cursor} (h : d.input = s.cursor.input) :
    s.atRest d.rest = { s with cursor := d } := by
  rw [atRest, Cursor.toRest_eq h]

@[simp] theorem atRest_self (s : MatchState) : s.atRest s.cursor.rest = s := atRest_eq rfl

theorem input_atRest {s : MatchState} {rest : List Char} (h : rest <:+ s.cursor.input) :
    (s.atRest rest).cursor.input = s.cursor.input := by
  obtain ⟨d, hd, rfl⟩ := Cursor.exists_of_suffix h
  rw [atRest_eq hd, hd]

theorem rest_atRest {s : MatchState} {rest : List Char} (h : rest <:+ s.cursor.input) :
    (s.atRest rest).cursor.rest = rest := by
  obtain ⟨d, hd, rfl⟩ := Cursor.exists_of_suffix h
  rw [atRest_eq hd]

/-- Seeking the position of a state with the same text gives its cursor. -/
theorem seek_position {s t : MatchState} (h : t.cursor.input = s.cursor.input) :
    t.seek s.position = .ok (t.atRest s.cursor.rest) := by
  rw [atRest_eq h.symm]
  simp [seek, position, Cursor.seek?_eq h.symm]

theorem atRest_atRest {s : MatchState} {x y : List Char} (hx : x <:+ s.cursor.input)
    (hy : y <:+ s.cursor.input) : (s.atRest x).atRest y = s.atRest y := by
  obtain ⟨d, hd, rfl⟩ := Cursor.exists_of_suffix hy
  rw [atRest_eq hd, atRest_eq (by rw [input_atRest hx, hd]), atRest]

@[simp] theorem active_atRest (s : MatchState) (x : List Char) :
    (s.atRest x).active = s.active := rfl

end MatchState

/-! ## The steps of a match -/

namespace Match

variable {α β : Type} (s : MatchState)

theorem bind_apply (m : Match α) (k : α → Match β) :
    (m >>= k) s = match m s with
      | .ok a t => k a t
      | .error halt t => .error halt t := by
  simp only [Bind.bind, EStateM.bind]
  cases m s <;> rfl

theorem get_bind_apply (k : MatchState → Match β) : (get >>= k) s = k s s := rfl

@[simp] theorem pure_apply (a : α) : (pure a : Match α) s = .ok a s := rfl

@[simp] theorem get_apply : (get : Match MatchState) s = .ok s s := rfl

@[simp] theorem modify_apply (f : MatchState → MatchState) :
    (modify f : Match Unit) s = .ok ⟨⟩ (f s) := rfl

@[simp] theorem throw_apply (halt : Halt) : (throw halt : Match α) s = .error halt s := rfl

@[simp] theorem become_ok (t : MatchState) : become (.ok t) s = .ok ⟨⟩ t := rfl

theorem backTo_apply {s t : MatchState} (h : t.cursor.input = s.cursor.input) :
    backTo s t = .ok ⟨⟩ (t.atRest s.cursor.rest) := by
  simp only [backTo, bind_apply, get_apply, MatchState.seek_position h, become_ok]

theorem keepIf_apply {s t : MatchState} (h : t.cursor.input = s.cursor.input) (matched : Bool) :
    keepIf s matched t =
      .ok matched (t.atRest (if matched then t.cursor.rest else s.cursor.rest)) := by
  cases matched with
  | false =>
    simp only [keepIf, bind_apply, Bool.not_false, if_true, backTo_apply h, pure_apply,
      Bool.false_eq_true, if_false]
  | true =>
    simp only [keepIf, Bool.not_true, Bool.false_eq_true, if_false, pure_apply, if_true,
      MatchState.atRest_self]

end Match

/-! ## Doing a plan -/

/-- The halt at which a stop ends a match. -/
def Stop.halt (input rest : List Char) : Stop → Halt
  | unknownRule name => .error (.unknownRule name)
  | noSuchRule => .fault .noSuchRule
  | insideCharacter count =>
    .fault (.seekOutOfRange (offset input rest + count) (byteLength input))

/-- Makes an attempt by means of `eval`: where it asks for, and under its name. -/
def Attempt.run (eval : RuleId → Match Bool) (a : Attempt) : Match Bool := fun s =>
  if a.active = s.active then eval a.rule (s.atRest a.rest)
  else
    match eval a.rule ((s.atRest a.rest).setActive a.active) with
    | .ok matched t => .ok matched (t.setActive s.active)
    | .error halt t => .error halt (t.setActive s.active)

/-- Does what a plan says, with attempts made by means of `eval`. -/
def Plan.run (eval : RuleId → Match Bool) : Plan → Match Bool
  | .finish e => fun s =>
    match e.answer with
    | .ok matched => .ok matched (s.atRest e.rest)
    | .error stop => .error (stop.halt s.cursor.input e.rest) (s.atRest e.rest)
  | .attempt a next => fun s =>
    match a.run eval s with
    | .ok matched t => (next matched t.cursor.rest).run eval t
    | .error halt t => .error halt t

/-- What comes on top when a rule has an answer: `s` is the state where it was tried. -/
def Rule.settle (id : RuleId) (s : MatchState) (matched : Bool) : Rule σ → Match Unit
  | .action _ _ =>
    if matched then Match.capture s id else modify (·.keepCaptures s.captureCount)
  | .reference name =>
    if s.active = some name then modify (·.report (.blocked · name)) else pure ()
  | _ => pure ()

/-- An answer leaves the text and the active name as they were, and never goes back. -/
def Forward (eval : RuleId → Match Bool) : Prop :=
  ∀ id s matched t, eval id s = .ok matched t →
    t.cursor.input = s.cursor.input ∧ t.cursor.rest <:+ s.cursor.rest ∧ t.active = s.active

section Steps

variable {g : Arena σ} {eval : RuleId → Match Bool} {s t : MatchState}

/-- An attempt that is made where a state is, and under its name. -/
theorem Plan.run_attempt_here (b : RuleId) {active : Option String} {x : List Char}
    (next : Bool → List Char → Plan) (hx : x = s.cursor.rest) (ha : active = s.active) :
    (Plan.attempt ⟨b, active, x⟩ next).run eval s =
      match eval b s with
      | .ok matched t => (next matched t.cursor.rest).run eval t
      | .error halt t => .error halt t := by
  subst hx ha
  simp only [Plan.run, Attempt.run, if_true, MatchState.atRest_self]

/-- It does not matter where a state is, if the plan begins with an attempt. -/
theorem Plan.run_attempt_atRest (a : Attempt) (next : Bool → List Char → Plan) {y : List Char}
    (hx : a.rest <:+ s.cursor.input) (hy : y <:+ s.cursor.input) :
    (Plan.attempt a next).run eval (s.atRest y) = (Plan.attempt a next).run eval s := by
  simp only [Plan.run, Attempt.run, MatchState.active_atRest, MatchState.atRest_atRest hy hx]

theorem Plan.run_finish_here (matched : Bool) (y : List Char) :
    (Plan.finish ⟨.ok matched, y⟩).run eval s = .ok matched (s.atRest y) := rfl

/-- Failing where a state is, is doing a plan that fails there. -/
theorem failed_run : (pure false : Match Bool) s =
    (Plan.finish (.failed s.cursor.rest)).run eval s := by
  rw [Ending.failed, Plan.run_finish_here, MatchState.atRest_self, Match.pure_apply]

/-- Matching a part and going on with `k` is doing a plan that attempts the part, if going on is
doing what comes next in the plan. -/
theorem bind_run (hf : Forward eval) (b : RuleId) {k : Bool → Match Bool}
    {next : Bool → List Char → Plan} {active : Option String} {x : List Char}
    (hx : x = s.cursor.rest) (ha : active = s.active)
    (hk : ∀ matched t, t.cursor.input = s.cursor.input → t.cursor.rest <:+ s.cursor.rest →
      t.active = s.active → k matched t = (next matched t.cursor.rest).run eval t) :
    (eval b >>= k) s = (Plan.attempt ⟨b, active, x⟩ next).run eval s := by
  rw [Match.bind_apply, Plan.run_attempt_here b next hx ha]
  cases h : eval b s with
  | error halt t => rfl
  | ok matched t =>
    obtain ⟨hinput, hrest, hactive⟩ := hf b s matched t h
    exact hk matched t hinput hrest hactive

/-- A part that comes last in a plan gives the answer of the plan. -/
theorem last_run (hf : Forward eval) (b : RuleId) {active : Option String} {x : List Char}
    (hx : x = s.cursor.rest) (ha : active = s.active) :
    eval b s =
      (Plan.attempt ⟨b, active, x⟩ fun matched y => .finish ⟨.ok matched, y⟩).run eval s := by
  rw [← bind_pure (eval b)]
  refine bind_run hf b hx ha fun matched t _ _ _ => ?_
  rw [Plan.run_finish_here, MatchState.atRest_self, Match.pure_apply]

/-- Repeating what matches, and then going on with `k`, is doing a plan that repeats. -/
theorem repeatWithin_run (hf : Forward eval) (b : RuleId) (k : Nat → Match Bool)
    (done : Nat → List Char → Plan)
    (hk : ∀ count y t, t.cursor.input = s.cursor.input → y <:+ s.cursor.rest →
      k count (t.atRest y) = (done count y).run eval t)
    (rounds count : Nat) (hinput : t.cursor.input = s.cursor.input)
    (hrest : t.cursor.rest <:+ s.cursor.rest) (hactive : t.active = s.active)
    (hrounds : t.cursor.rest.length < rounds) :
    (Match.repeatWithin (eval b) rounds count >>= k) t =
      (Plan.repeating ⟨b, s.active, t.cursor.rest⟩ done count).run eval t := by
  induction rounds generalizing count t with
  | zero => omega
  | succ rounds ih =>
    rw [Plan.repeating, Match.repeatWithin, bind_assoc, Match.get_bind_apply, bind_assoc]
    refine bind_run hf b rfl hactive.symm fun matched u hinput' hrest' hactive' => ?_
    have hu : u.cursor.input = s.cursor.input := hinput'.trans hinput
    cases matched with
    | false =>
      simp only [Bool.false_eq_true, if_false, Match.bind_apply, Match.backTo_apply hinput',
        Match.pure_apply]
      exact hk count _ u hu hrest
    | true =>
      have hpos : u.position = t.position ↔ ¬ u.cursor.rest.length < t.cursor.rest.length :=
        Cursor.position_eq_iff hinput' hrest'
      simp only [if_true, bind_assoc, Match.get_bind_apply]
      by_cases hlt : u.cursor.rest.length < t.cursor.rest.length
      · rw [if_neg (fun hp => hpos.1 hp hlt), if_pos hlt]
        exact ih (count + 1) hu (hrest'.trans hrest) (hactive'.trans hactive) (by omega)
      · rw [if_pos (hpos.2 hlt), if_neg hlt, pure_bind]
        have := hk (count + 1) u.cursor.rest u hu (hrest'.trans hrest)
        rwa [MatchState.atRest_self] at this

/-! ## Rules without parts -/

theorem moveTo_some {s : MatchState} {d : Cursor} (h : d.input = s.cursor.input) :
    Match.moveTo (some d) s = .ok true (s.atRest d.rest) := by
  rw [MatchState.atRest_eq h]
  rfl

theorem moveTo_none (s : MatchState) : Match.moveTo none s = .ok false s := rfl

/-- Reading a text character by character takes it off what is left, or nothing. -/
theorem readText?_spec (l : List Char) (c : Cursor) :
    match Cursor.readText? l c with
    | some d => d.input = c.input ∧ l.isPrefixOf? c.rest = some d.rest
    | none => l.isPrefixOf? c.rest = none := by
  induction l generalizing c with
  | nil => exact ⟨rfl, rfl⟩
  | cons x l ih =>
    unfold Cursor.readText?
    cases hrest : c.rest with
    | nil =>
      rw [Cursor.read?_eq_none_iff.2 hrest]
      rfl
    | cons y rest =>
      obtain ⟨d, hd, hinput, rfl, -⟩ := Cursor.read?_of_rest hrest
      simp only [hd, List.isPrefixOf?, beq_iff_eq]
      by_cases hxy : y = x
      · have := ih d
        rw [hinput] at this
        simpa only [hxy, if_true] using this
      · simp only [hxy, Ne.symm hxy, if_false]

theorem literal_run (text : String) :
    Match.literal text s = (Plan.ofRule g s.active s.cursor.rest (.literal text)).run eval s := by
  have h := readText?_spec text.toList s.cursor
  simp only [Match.literal, Match.bind_apply, Match.get_apply, Plan.ofRule]
  cases hread : Cursor.readText? text.toList s.cursor with
  | none =>
    simp only [hread] at h
    rw [moveTo_none, h]
    simp only [Ending.failed, Plan.run_finish_here, MatchState.atRest_self]
  | some d =>
    simp only [hread] at h
    rw [moveTo_some h.1, h.2]
    rfl

theorem range_run (lo hi : Char) :
    Match.range lo hi s = (Plan.ofRule g s.active s.cursor.rest (.range lo hi)).run eval s := by
  simp only [Match.range, Match.bind_apply, Match.get_apply, Plan.ofRule]
  cases hrest : s.cursor.rest with
  | nil =>
    rw [Cursor.read?_eq_none_iff.2 hrest, moveTo_none, ← hrest]
    simp only [hrest, Ending.failed, Plan.run_finish_here]
    rw [← hrest, MatchState.atRest_self]
  | cons c y =>
    obtain ⟨d, hd, hinput, rfl, -⟩ := Cursor.read?_of_rest hrest
    simp only [hd]
    cases hc : Match.inRange lo hi c with
    | false =>
      simp only [Bool.false_eq_true, if_false, moveTo_none, Ending.failed, Plan.run_finish_here]
      rw [← hrest, MatchState.atRest_self]
    | true =>
      simp only [if_true, moveTo_some hinput]
      rfl

theorem advance?_of_none {c : Cursor} {count : Nat} (h : after? count c.rest = none) :
    c.advance? count = none := by
  unfold Cursor.advance?
  split
  · rfl
  · next hsome => rw [h] at hsome; cases hsome

theorem advance?_of_some {c : Cursor} {count : Nat} {y : List Char}
    (h : after? count c.rest = some y) :
    ∃ d, c.advance? count = some d ∧ d.input = c.input ∧ d.rest = y := by
  unfold Cursor.advance?
  split
  · next hnone => rw [h] at hnone; cases hnone
  · next hsome =>
    rw [h] at hsome
    cases hsome
    exact ⟨_, rfl, rfl, rfl⟩

theorem pattern_run (source : String) (finder : Option Regex.Finder) :
    Match.pattern finder s =
      (Plan.ofRule g s.active s.cursor.rest (.pattern source finder)).run eval s := by
  simp only [Match.pattern, Match.bind_apply, Match.get_apply, Plan.ofRule]
  cases hfind : finder.bind (·.findEnd? s.cursor.rest) with
  | none =>
    simp only [Ending.failed, Plan.run_finish_here, MatchState.atRest_self, Match.pure_apply]
  | some count =>
    cases hafter : after? count s.cursor.rest with
    | none =>
      simp only [advance?_of_none hafter, hafter, Match.throw_apply, Ending.stopped, Plan.run,
        Stop.halt, MatchState.atRest_self, Cursor.position_eq]
    | some y =>
      obtain ⟨d, hd, hinput, rfl⟩ := advance?_of_some hafter
      simp only [hd, hafter, moveTo_some hinput]
      rfl

/-! ## Rules with parts -/

theorem not_run (hf : Forward eval) (id a : RuleId) :
    Match.rule g eval id (.not a) s =
      (Plan.ofRule g s.active s.cursor.rest (.not a)).run eval s := by
  simp only [Match.rule, Plan.ofRule, Match.get_bind_apply]
  refine bind_run hf a rfl rfl fun matched t hinput _ _ => ?_
  simp only [Match.bind_apply, Match.backTo_apply hinput, Match.pure_apply, Plan.run_finish_here]

theorem endOfInput_run (hf : Forward eval) (id a : RuleId) :
    Match.rule g eval id (.endOfInput a) s =
      (Plan.ofRule g s.active s.cursor.rest (.endOfInput a)).run eval s := by
  simp only [Match.rule, Plan.ofRule, Match.get_bind_apply]
  refine bind_run hf a rfl rfl fun matched t hinput _ _ => ?_
  simp only [Match.get_bind_apply, Match.keepIf_apply hinput, Ending.back, Plan.run_finish_here,
    Cursor.atEnd]

theorem sequence_run (hf : Forward eval) (id a b : RuleId) :
    Match.rule g eval id (.sequence a b) s =
      (Plan.ofRule g s.active s.cursor.rest (.sequence a b)).run eval s := by
  simp only [Match.rule, Plan.ofRule]
  refine bind_run hf a rfl rfl fun matched t _ _ hactive => ?_
  cases matched with
  | false => exact failed_run
  | true => exact last_run hf b rfl hactive.symm

theorem spaced_run (hf : Forward eval) (id a b : RuleId) :
    Match.rule g eval id (.spaced a b) s =
      (Plan.ofRule g s.active s.cursor.rest (.spaced a b)).run eval s := by
  simp only [Match.rule, Plan.ofRule]
  refine bind_run hf a rfl rfl fun matched t _ _ hactive => ?_
  cases matched with
  | false => exact failed_run
  | true =>
    refine bind_run hf g.whitespace rfl hactive.symm fun matched u _ _ hactive' => ?_
    cases matched with
    | false => exact failed_run
    | true => exact last_run hf b rfl (hactive'.trans hactive).symm

theorem choice_run (hf : Forward eval) (id a b : RuleId) :
    Match.rule g eval id (.choice a b) s =
      (Plan.ofRule g s.active s.cursor.rest (.choice a b)).run eval s := by
  simp only [Match.rule, Plan.ofRule, Match.get_bind_apply]
  refine bind_run hf a rfl rfl fun matched t hinput _ hactive => ?_
  cases matched with
  | true =>
    simp only [if_true, Match.pure_apply, Ending.matched, Plan.run_finish_here,
      MatchState.atRest_self]
  | false =>
    have hx : s.cursor.rest <:+ t.cursor.input := by
      rw [hinput]
      exact s.cursor.rest_suffix
    have hback : (t.atRest s.cursor.rest).cursor.input = s.cursor.input :=
      (MatchState.input_atRest hx).trans hinput
    simp only [Bool.false_eq_true, if_false]
    rw [Match.bind_apply, Match.backTo_apply hinput, ← Plan.run_attempt_atRest _ _ hx hx]
    refine bind_run hf b (MatchState.rest_atRest hx).symm hactive.symm
      fun matched u hinput' _ _ => ?_
    simp only [Match.keepIf_apply (hinput'.trans hback), Ending.back, Plan.run_finish_here]

theorem zeroOrMore_run (hf : Forward eval) (id a : RuleId) :
    Match.rule g eval id (.zeroOrMore a) s =
      (Plan.ofRule g s.active s.cursor.rest (.zeroOrMore a)).run eval s := by
  have h := repeatWithin_run (s := s) (t := s) hf a (fun _ => pure true)
    (fun _ y => .finish (.matched y)) (fun _ _ _ _ _ => rfl) (s.cursor.rest.length + 2) 0
    rfl List.suffix_rfl rfl (by omega)
  simpa only [Match.rule, Match.repeatAll, Plan.ofRule, Match.bind_apply, Match.get_apply] using h

theorem oneOrMore_run (hf : Forward eval) (id a : RuleId) :
    Match.rule g eval id (.oneOrMore a) s =
      (Plan.ofRule g s.active s.cursor.rest (.oneOrMore a)).run eval s := by
  have h := repeatWithin_run (s := s) (t := s) hf a (fun count => Match.keepIf s (count > 0))
    (fun count y => .finish (.back s.cursor.rest (count > 0) y)) ?_
    (s.cursor.rest.length + 2) 0 rfl List.suffix_rfl rfl (by omega)
  · simpa only [Match.rule, Match.repeatAll, Plan.ofRule, Match.bind_apply, Match.get_apply] using h
  · intro count y t hinput hy
    have hyt : y <:+ t.cursor.input := by
      rw [hinput]
      exact hy.trans s.cursor.rest_suffix
    have hxt : s.cursor.rest <:+ t.cursor.input := by
      rw [hinput]
      exact s.cursor.rest_suffix
    rw [Match.keepIf_apply ((MatchState.input_atRest hyt).trans hinput), MatchState.rest_atRest hyt]
    simp only [Ending.back, Plan.run_finish_here]
    split
    · rw [MatchState.atRest_atRest hyt hyt]
    · rw [MatchState.atRest_atRest hyt hxt]

theorem optional_run (hf : Forward eval) (id a : RuleId) :
    Match.rule g eval id (.optional a) s =
      (Plan.ofRule g s.active s.cursor.rest (.optional a)).run eval s := by
  simp only [Match.rule, Plan.ofRule, Match.get_bind_apply]
  refine bind_run hf a rfl rfl fun matched t hinput _ _ => ?_
  simp only [Match.bind_apply, Match.keepIf_apply hinput, Match.pure_apply, Ending.matched,
    Plan.run_finish_here]

theorem reference_run (hf : Forward eval) (id : RuleId) (name : String) :
    Match.rule g eval id (.reference name) s =
      (do
        let matched ← (Plan.ofRule g s.active s.cursor.rest (.reference name)).run eval
        (Rule.reference name : Rule σ).settle id s matched
        return matched) s := by
  simp only [Rule.settle, Match.rule, Plan.ofRule, Match.bind_apply, Match.get_apply]
  by_cases hactive : s.active = some name
  · simp only [hactive, if_true, Ending.failed, Plan.run_finish_here, MatchState.atRest_self,
      Match.bind_apply]
  · simp only [hactive, if_false]
    cases hname : g.named? name with
    | none =>
      simp only [Plan.run, Ending.stopped, Stop.halt, MatchState.atRest_self]
      rfl
    | some a =>
      simp only [Plan.run, Attempt.run, Ne.symm hactive, if_false, MatchState.atRest_self,
        Match.underName, Match.bind_apply]
      cases h : eval a (s.setActive (some name)) with
      | error halt t => rfl
      | ok matched t =>
        obtain ⟨hinput, -, -⟩ := hf a _ matched t h
        have hback : (t.setActive s.active).cursor.input = s.cursor.input := hinput
        simp only [Match.keepIf_apply hback, Ending.back]
        rfl

theorem action_run (hf : Forward eval) (id a : RuleId) (run : Action σ) :
    Match.rule g eval id (.action a run) s =
      (do
        let matched ← (Plan.ofRule g s.active s.cursor.rest (.action a run)).run eval
        (Rule.action a run).settle id s matched
        return matched) s := by
  simp only [Rule.settle, Match.rule, Plan.ofRule, Match.bind_apply, Match.get_apply,
    Match.pure_apply]
  rw [Plan.run_attempt_here a _ rfl rfl]
  cases h : eval a s with
  | error halt t => rfl
  | ok matched t =>
    obtain ⟨hinput, -, -⟩ := hf a s matched t h
    cases matched with
    | true =>
      simp only [if_true, Ending.back, Plan.run_finish_here, MatchState.atRest_self, Match.bind_apply,
        Match.pure_apply]
    | false =>
      have hback : (t.keepCaptures s.captureCount).cursor.input = s.cursor.input := hinput
      simp only [Bool.false_eq_true, if_false, Ending.back, Plan.run_finish_here, Match.bind_apply,
        Match.modify_apply, Match.keepIf_apply hback]
      rfl

/-- Matching a rule is doing what its plan says, and then what comes on top. -/
theorem rule_eq_run (hf : Forward eval) (id : RuleId) (r : Rule σ) :
    Match.rule g eval id r s =
      (do
        let matched ← (Plan.ofRule g s.active s.cursor.rest r).run eval
        r.settle id s matched
        return matched) s := by
  cases r with
  | reference name => exact reference_run hf id name
  | action a run => exact action_run hf id a run
  | literal text =>
    simp only [Rule.settle, pure_bind, bind_pure]
    exact literal_run text
  | range lo hi =>
    simp only [Rule.settle, pure_bind, bind_pure]
    exact range_run lo hi
  | pattern source finder =>
    simp only [Rule.settle, pure_bind, bind_pure]
    exact pattern_run source finder
  | not a =>
    simp only [Rule.settle, pure_bind, bind_pure]
    exact not_run hf id a
  | endOfInput a =>
    simp only [Rule.settle, pure_bind, bind_pure]
    exact endOfInput_run hf id a
  | sequence a b =>
    simp only [Rule.settle, pure_bind, bind_pure]
    exact sequence_run hf id a b
  | spaced a b =>
    simp only [Rule.settle, pure_bind, bind_pure]
    exact spaced_run hf id a b
  | choice a b =>
    simp only [Rule.settle, pure_bind, bind_pure]
    exact choice_run hf id a b
  | zeroOrMore a =>
    simp only [Rule.settle, pure_bind, bind_pure]
    exact zeroOrMore_run hf id a
  | oneOrMore a =>
    simp only [Rule.settle, pure_bind, bind_pure]
    exact oneOrMore_run hf id a
  | optional a =>
    simp only [Rule.settle, pure_bind, bind_pure]
    exact optional_run hf id a

end Steps

end Peg
