-- How far a repetition goes. It makes one match behind another, each of which reads something, up
-- to where the rule fails, matches without reading anything, or halts. So there are no more matches
-- than bytes to read, and one, and whoever repeats the rule there again gets no further.
import Peg.Proofs.Termination

namespace Peg

open Text

variable {σ : Type}

/-! ## Rounds -/

/-- From where `x` is left of the text, the rule matches `n` times, and each match reads something.
Where `y` is left then, it is tried for the last time, and this ends without reading anything. -/
inductive Rounds (g : Arena σ) (active : Option String) (a : RuleId) :
    List Char → Nat → List Char → Ending → Prop where
  | last {x : List Char} {c : Course} {e : Ending} :
    Runs g (g.plan ⟨a, active, x⟩) c e → (e.answer = .ok true → e.rest = x) →
      Rounds g active a x 0 x e
  | more {x y z : List Char} {c : Course} {e : Ending} {n : Nat} :
    Runs g (g.plan ⟨a, active, x⟩) c (.matched y) → y.length < x.length →
      Rounds g active a y n z e → Rounds g active a x (n + 1) z e

/-- How a repetition ends behind its last attempt. `done` tells it by the number of matches. -/
def Ending.closing (done : Nat → List Char → Ending) (n : Nat) (y : List Char) (e : Ending) :
    Ending :=
  match e.answer with
  | .ok true => done (n + 1) y
  | .ok false => done n y
  | .error _ => e

/-- Whether this is the answer. -/
def Ending.isAnswer (matched : Bool) (e : Ending) : Bool :=
  match e.answer with
  | .ok answer => answer == matched
  | .error _ => false

/-- The attempts that are made one after another, without those inside of them. -/
def Course.tries : Course → List (Attempt × Ending)
  | .none => []
  | .made a _ e later => (a, e) :: later.tries

/-- How many of these attempts have the answer. -/
def Course.answered (matched : Bool) (c : Course) : Nat := c.tries.countP (·.2.isAnswer matched)

section

variable {g : Arena σ} {active : Option String} {a z o : RuleId} {x y : List Char} {n : Nat}
variable {e : Ending}

/-- If all attempts end, there is a last one. -/
theorem exists_rounds (h : ∀ y, y <:+ x → (g.plan ⟨a, active, y⟩).Halts g) :
    ∃ n y e, Rounds g active a x n y e := by
  induction hlen : x.length using Nat.strong_induction_on generalizing x with
  | _ length ih =>
    obtain ⟨c, ⟨answer, y⟩, hrun⟩ := h x List.suffix_rfl
    have hy : y <:+ x := hrun.rest_suffix
    by_cases hread : answer = .ok true ∧ y.length < x.length
    · obtain ⟨rfl, hlt⟩ := hread
      obtain ⟨n, z, e, hmore⟩ := ih y.length (by omega) (fun z hz => h z (hz.trans hy)) rfl
      exact ⟨n + 1, z, e, .more hrun hlt hmore⟩
    · refine ⟨0, x, _, .last hrun fun hanswer => ?_⟩
      exact hy.eq_of_length_le (Nat.le_of_not_lt fun hlt => hread ⟨hanswer, hlt⟩)

theorem Rounds.last_attempt (h : Rounds g active a x n y e) :
    ∃ c, Runs g (g.plan ⟨a, active, y⟩) c e ∧ (e.answer = .ok true → e.rest = y) := by
  induction h with
  | last hrun hrest => exact ⟨_, hrun, hrest⟩
  | more _ _ _ ih => exact ih

theorem byteLength_lt (hy : y <:+ x) (hlt : y.length < x.length) : byteLength y < byteLength x := by
  obtain ⟨u, rfl⟩ := hy
  have hle := length_le_byteLength u
  rw [List.length_append] at hlt
  rw [byteLength_append]
  omega

/-- The first attempt matches if the last one is behind it, or matches itself. -/
theorem Rounds.first_attempt (h : Rounds g active a x n y e) {matched : Bool}
    (he : e.answer = .ok matched) :
    ∃ c z, Runs g (g.plan ⟨a, active, x⟩) c ⟨.ok (n > 0 || matched), z⟩ := by
  cases h with
  | last hrun hrest =>
    obtain ⟨answer, z⟩ := e
    cases he
    exact ⟨_, z, hrun⟩
  | more hrun _ _ => exact ⟨_, _, hrun⟩

/-- Each match takes a byte at least. -/
theorem Rounds.le_byteLength (h : Rounds g active a x n y e) : n + byteLength y ≤ byteLength x := by
  induction h with
  | last => omega
  | @more x y z c e n hrun hlt _ ih =>
    have hy : y <:+ x := hrun.rest_suffix
    have hbytes := byteLength_lt hy hlt
    omega

/-- Behind the last attempt, a plan that repeats ends as `done` says. -/
theorem Ending.runs_closing {done : Nat → List Char → Ending} {count : Nat}
    (he : e.answer = .ok true → e.rest = x) :
    Runs g (e.follow fun matched rest =>
        if matched then
          if rest.length < x.length then
            .repeating ⟨a, active, rest⟩ (fun n y => .finish (done n y)) (count + 1)
          else .finish (done (count + 1) rest)
        else .finish (done count x))
      .none (e.closing done count x) := by
  obtain ⟨answer, y⟩ := e
  cases answer with
  | error stop => exact .finish _
  | ok matched =>
    cases matched with
    | false => exact .finish _
    | true =>
      obtain rfl : y = x := he rfl
      show Runs g (if y.length < y.length then _ else _) _ _
      rw [if_neg (Nat.lt_irrefl _)]
      exact .finish _

/-- A plan that repeats makes the rounds, and ends as `done` says. -/
theorem Rounds.runs (h : Rounds g active a x n y e) (done : Nat → List Char → Ending)
    (count : Nat) :
    ∃ c, Runs g (.repeating ⟨a, active, x⟩ (fun n y => .finish (done n y)) count) c
        (e.closing done (count + n) y) ∧
      (∀ t ∈ c.tries, t.1.rule = a) ∧ c.answered true ≤ n + 1 ∧ c.answered false ≤ 1 := by
  induction h generalizing count with
  | @last x c e hrun hrest =>
    refine ⟨.made ⟨a, active, x⟩ c e .none, ?_, by simp [Course.tries], ?_, ?_⟩
    · rw [Plan.repeating]
      exact .attempt hrun (Ending.runs_closing hrest)
    · exact List.countP_le_length
    · exact List.countP_le_length
  | @more x y z c e n hrun hlt _ ih =>
    obtain ⟨later, hlater, hrules, htrue, hfalse⟩ := ih (count + 1)
    refine ⟨.made ⟨a, active, x⟩ c (.matched y) later, ?_, ?_, ?_, ?_⟩
    · rw [Plan.repeating]
      refine .attempt hrun ?_
      show Runs g (if y.length < x.length then _ else _) _ _
      rw [if_pos hlt, ← Nat.add_assoc, Nat.add_right_comm]
      exact hlater
    · exact List.forall_mem_cons.2 ⟨rfl, hrules⟩
    · rw [Course.answered, Course.tries, List.countP_cons_of_pos rfl]
      exact Nat.succ_le_succ htrue
    · rw [Course.answered, Course.tries, List.countP_cons_of_neg (by exact Bool.false_ne_true)]
      exact hfalse

/-! ## Repetitions -/

theorem Rounds.zeroOrMore (hz : g.rule? z = some (.zeroOrMore a))
    (h : Rounds g active a x n y e) :
    ∃ c, Runs g (g.plan ⟨z, active, x⟩) c (e.closing (fun _ y => .matched y) n y) ∧
      (∀ t ∈ c.tries, t.1.rule = a) ∧ c.answered true ≤ n + 1 ∧ c.answered false ≤ 1 := by
  rw [plan_of_rule (a := ⟨z, active, x⟩) hz]
  have hruns := h.runs (fun _ y => .matched y) 0
  rwa [Nat.zero_add] at hruns

theorem Rounds.oneOrMore (ho : g.rule? o = some (.oneOrMore a))
    (h : Rounds g active a x n y e) :
    ∃ c, Runs g (g.plan ⟨o, active, x⟩) c
      (e.closing (fun count y => .back x (count > 0) y) n y) := by
  rw [plan_of_rule (a := ⟨o, active, x⟩) ho]
  obtain ⟨c, hrun, -⟩ := h.runs (fun count y => .back x (count > 0) y) 0
  rw [Nat.zero_add] at hrun
  exact ⟨c, hrun⟩

end

/-! ## Matches behind each other -/

/-- So many matches of the rule, each of which begins where the one before has ended and reads at
least one byte. -/
inductive Chain (g : Arena σ) (a : RuleId) : MatchState → Nat → MatchState → Prop where
  | nil {s : MatchState} : Chain g a s 0 s
  | cons {s t u : MatchState} {n : Nat} :
    Match.eval g a s = .ok true t → s.position < t.position → Chain g a t n u →
      Chain g a s (n + 1) u

/-- The rule comes to an end from this place on, wherever it is tried under the active name. -/
def Arena.EndsOnward (g : Arena σ) (a : RuleId) (s : MatchState) : Prop :=
  ∀ cursor : Cursor, cursor.input = s.cursor.input → s.position ≤ cursor.position →
    ¬ Exhausted (Match.eval g a { s with cursor })

instance : DecidablePred Exhausted := fun result =>
  match result with
  | .ok _ _ => isFalse fun h => by simp [Exhausted] at h
  | .error .outOfFuel t => isTrue ⟨t, rfl⟩
  | .error (.error _) _ => isFalse fun h => by simp [Exhausted] at h
  | .error (.fault _) _ => isFalse fun h => by simp [Exhausted] at h

/-- The rule fails here, or matches without reading anything. -/
def StandsStill (g : Arena σ) (a : RuleId) (s : MatchState) : Prop :=
  (∃ t, Match.eval g a s = .ok false t) ∨ ∃ t, Match.eval g a s = .ok true t ∧ t.cursor = s.cursor

/-- Matches of the rule lead from `s` to where `t` is, and no further. -/
def Leads (g : Arena σ) (a : RuleId) (s t : MatchState) : Prop :=
  ∃ n u, Chain g a s n u ∧ u.cursor = t.cursor ∧ StandsStill g a u

/-- Any number of matches of the rule `a`, which the rule `z` looks for, are found up to `t`. -/
structure Settles (g : Arena σ) (a z : RuleId) (s t : MatchState) : Prop where
  answer : Match.eval g z s = .ok true t
  leads : Leads g a s t
  /-- From there, the repetition gets no further. -/
  again : ∃ u, Match.eval g z t = .ok true u ∧ u.cursor = t.cursor

/-- One match of the rule `a` or more, which the rule `o` looks for, are found if the first one is,
or else nothing is read. -/
structure SettlesOnce (g : Arena σ) (a o : RuleId) (s : MatchState) : Prop where
  iff_first : (∃ u, Match.eval g o s = .ok true u) ↔ ∃ u, Match.eval g a s = .ok true u
  leads : ∀ u, Match.eval g o s = .ok true u → Leads g a s u
  fails : (¬ ∃ u, Match.eval g o s = .ok true u) →
    ∃ u, Match.eval g o s = .ok false u ∧ u.cursor = s.cursor

/-- Matches lead up to where the rule `a` halts, and its repetition `r` halts with it. -/
structure Breaks (g : Arena σ) (a r : RuleId) (s : MatchState) (halt : Halt) : Prop where
  not_fuel : halt ≠ .outOfFuel
  chain : ∃ n u t t', Chain g a s n u ∧ Match.eval g a u = .error halt t ∧
    Match.eval g r s = .error halt t' ∧ t'.cursor = t.cursor

section

variable {g : Arena σ} {a z o r id : RuleId} {s t u : MatchState} {x y : List Char} {n : Nat}
variable {e : Ending} {active : Option String} {c c' : Course}

theorem attempt_eq (hrest : s.cursor.rest = x) (hactive : s.active = active) :
    s.attempt id = ⟨id, active, x⟩ := by rw [MatchState.attempt, hrest, hactive]

theorem position_lt (hinput : t.cursor.input = s.cursor.input)
    (hrest : t.cursor.rest <:+ s.cursor.rest)
    (hlt : t.cursor.rest.length < s.cursor.rest.length) : s.position < t.position := by
  have hs : s.position = offset s.cursor.input s.cursor.rest := s.cursor.position_eq
  have ht : t.position = offset t.cursor.input t.cursor.rest := t.cursor.position_eq
  have hbytes := byteLength_lt hrest hlt
  obtain ⟨u, hu⟩ := s.cursor.rest_suffix
  have hwhole := congrArg byteLength hu
  rw [byteLength_append] at hwhole
  rw [hs, ht, hinput, offset, offset]
  omega

/-- The rounds of a repetition are matches behind each other. -/
theorem Rounds.chain (h : Rounds g active a x n y e) (hrest : s.cursor.rest = x)
    (hactive : s.active = active) :
    ∃ u, Chain g a s n u ∧ u.cursor.input = s.cursor.input ∧ u.cursor.rest = y ∧
      u.active = active := by
  induction h generalizing s with
  | last _ _ => exact ⟨s, .nil, rfl, hrest, hactive⟩
  | @more x y z c e n hrun hlt _ ih =>
    have hy : y <:+ x := hrun.rest_suffix
    rw [← attempt_eq hrest hactive] at hrun
    obtain ⟨t, ht, hreach⟩ := hrun.eval_ok
    obtain ⟨u, hchain, hinput, hrest', hactive'⟩ := ih hreach.rest (hreach.active.trans hactive)
    have hlt' : s.position < t.position := by
      refine position_lt hreach.input ?_ ?_
      · rwa [hreach.rest, hrest]
      · rwa [hreach.rest, hrest]
    exact ⟨u, .cons ht hlt' hchain, hinput.trans hreach.input, hrest', hactive'⟩

/-- Where the last attempt has an answer, matches have led to its place. -/
theorem Rounds.leads (h : Rounds g s.active a s.cursor.rest n y e) {matched : Bool}
    (he : e.answer = .ok matched) (hinput : t.cursor.input = s.cursor.input)
    (hrest : t.cursor.rest = y) : Leads g a s t := by
  obtain ⟨u, hchain, hinput', hrest', hactive⟩ := h.chain rfl rfl
  obtain ⟨c, hlast, hidle⟩ := h.last_attempt
  refine ⟨n, u, hchain, Cursor.ext_rest (hinput'.trans hinput.symm) (hrest'.trans hrest.symm), ?_⟩
  rw [← attempt_eq hrest' hactive] at hlast
  obtain ⟨v, hv, hreach⟩ := hlast.eval_ends.answered he
  cases matched with
  | false => exact .inl ⟨v, hv⟩
  | true =>
    have hplace : v.cursor.rest = u.cursor.rest := by rw [hreach.rest, hidle he, hrest']
    exact .inr ⟨v, hv, Cursor.ext_rest hreach.input hplace⟩

/-- And the repetition ends there. -/
theorem Rounds.zeroOrMore_ok (hz : g.rule? z = some (.zeroOrMore a))
    (h : Rounds g s.active a s.cursor.rest n y e) {matched : Bool} (he : e.answer = .ok matched) :
    ∃ t, Match.eval g z s = .ok true t ∧ t.cursor.input = s.cursor.input ∧ t.cursor.rest = y ∧
      t.active = s.active := by
  obtain ⟨c, hrun, -⟩ := h.zeroOrMore hz
  have hclosing : e.closing (fun _ y => .matched y) n y = .matched y := by
    cases matched <;> rw [Ending.closing, he]
  rw [hclosing] at hrun
  obtain ⟨t, ht, hreach⟩ := Runs.eval_ok (s := s) hrun
  exact ⟨t, ht, hreach.input, hreach.rest, hreach.active⟩

/-- One or more matches end there if the first attempt is one, and else where they began. -/
theorem Rounds.oneOrMore_ok (ho : g.rule? o = some (.oneOrMore a))
    (h : Rounds g s.active a s.cursor.rest n y e) {matched : Bool} (he : e.answer = .ok matched) :
    ∃ first t u, Match.eval g a s = .ok first t ∧ Match.eval g o s = .ok first u ∧
      u.cursor.input = s.cursor.input ∧ u.cursor.rest = if first then y else s.cursor.rest := by
  obtain ⟨c, x, hfirst⟩ := h.first_attempt he
  obtain ⟨c', hrun⟩ := h.oneOrMore ho
  have hclosing : e.closing (fun count y => .back s.cursor.rest (count > 0) y) n y =
      .back s.cursor.rest (n > 0 || matched) y := by
    cases matched <;> simp [Ending.closing, he]
  rw [hclosing] at hrun
  obtain ⟨t, ht, -⟩ := Runs.eval_ok (s := s) hfirst
  obtain ⟨u, hu, hreach⟩ := Runs.eval_ok (s := s) hrun
  exact ⟨_, t, u, ht, hu, hreach.input, hreach.rest⟩

theorem Rounds.settles (hz : g.rule? z = some (.zeroOrMore a))
    (h : Rounds g s.active a s.cursor.rest n y e) {matched : Bool} (he : e.answer = .ok matched) :
    ∃ t, Settles g a z s t := by
  obtain ⟨t, ht, hinput, hrest, hactive⟩ := h.zeroOrMore_ok hz he
  -- the last attempt is the first one behind it
  obtain ⟨c, hlast, hidle⟩ := h.last_attempt
  have hstay : Rounds g t.active a t.cursor.rest 0 y e := by
    rw [hactive, hrest]
    exact .last hlast hidle
  obtain ⟨u, hu, hinput', hrest', -⟩ := hstay.zeroOrMore_ok hz he
  exact ⟨t, ht, h.leads he hinput hrest, u, hu,
    Cursor.ext_rest hinput' (hrest'.trans hrest.symm)⟩

theorem Rounds.settlesOnce (ho : g.rule? o = some (.oneOrMore a))
    (h : Rounds g s.active a s.cursor.rest n y e) {matched : Bool} (he : e.answer = .ok matched) :
    SettlesOnce g a o s := by
  obtain ⟨first, t, u, ht, hu, hinput, hrest⟩ := h.oneOrMore_ok ho he
  refine ⟨?_, ?_, ?_⟩
  · rw [ht, hu]
    constructor
    · rintro ⟨_, heq⟩
      cases heq
      exact ⟨t, rfl⟩
    · rintro ⟨_, heq⟩
      cases heq
      exact ⟨u, rfl⟩
  · intro u' hu'
    rw [hu] at hu'
    cases hu'
    exact h.leads he hinput hrest
  · intro hno
    cases first with
    | true => exact absurd ⟨u, hu⟩ hno
    | false => exact ⟨u, hu, Cursor.ext_rest hinput hrest⟩

/-- Where the last attempt stops, a repetition does that ends as it. -/
theorem Rounds.halts (h : Rounds g s.active a s.cursor.rest n y e)
    (hrun : Runs g (g.plan (s.attempt r)) c e) {stop : Stop} (he : e.answer = .error stop) :
    ∃ t, Match.eval g r s = .error (stop.halt s.cursor.input e.rest) t ∧
      t.cursor.input = s.cursor.input ∧ t.cursor.rest = e.rest ∧
        Breaks g a r s (stop.halt s.cursor.input e.rest) := by
  obtain ⟨u, hchain, hinput, hrest, hactive⟩ := h.chain rfl rfl
  obtain ⟨c, hlast, -⟩ := h.last_attempt
  rw [← attempt_eq hrest hactive] at hlast
  obtain ⟨t, ht, hreach⟩ := hlast.eval_ends.halted he
  obtain ⟨t', ht', hreach'⟩ := (Runs.eval_ends (s := s) hrun).halted he
  rw [hinput] at ht
  refine ⟨t', ht', hreach'.input, hreach'.rest, ?_, n, u, t, t', hchain, ht, ht', ?_⟩
  · cases stop <;> simp [Stop.halt]
  · exact Cursor.ext_rest (hreach'.input.trans (hreach.input.trans hinput).symm)
      (hreach'.rest.trans hreach.rest.symm)

theorem Rounds.zeroOrMore_error (hz : g.rule? z = some (.zeroOrMore a))
    (h : Rounds g active a x n y e) {stop : Stop} (he : e.answer = .error stop) :
    ∃ c, Runs g (g.plan ⟨z, active, x⟩) c e := by
  obtain ⟨c, hrun, -⟩ := h.zeroOrMore hz
  rw [Ending.closing, he] at hrun
  exact ⟨c, hrun⟩

theorem Rounds.oneOrMore_error (ho : g.rule? o = some (.oneOrMore a))
    (h : Rounds g active a x n y e) {stop : Stop} (he : e.answer = .error stop) :
    ∃ c, Runs g (g.plan ⟨o, active, x⟩) c e := by
  obtain ⟨c, hrun⟩ := h.oneOrMore ho
  rw [Ending.closing, he] at hrun
  exact ⟨c, hrun⟩

/-- Both repetitions of a rule end at one place, or halt there. -/
theorem Rounds.same_end (hz : g.rule? z = some (.zeroOrMore a))
    (ho : g.rule? o = some (.oneOrMore a)) (h : Rounds g s.active a s.cursor.rest n y e) :
    (∀ t, Match.eval g z s = .ok true t →
      SettlesOnce g a o s ∧ ∀ u, Match.eval g o s = .ok true u → u.cursor = t.cursor) ∧
    ∀ halt t, Match.eval g z s = .error halt t →
      ∃ u, Match.eval g o s = .error halt u ∧ u.cursor = t.cursor := by
  cases he : e.answer with
  | ok matched =>
    obtain ⟨t, ht, hinput, hrest, -⟩ := h.zeroOrMore_ok hz he
    obtain ⟨first, _, u, -, hu, hinput', hrest'⟩ := h.oneOrMore_ok ho he
    rw [ht, hu]
    refine ⟨?_, nofun⟩
    rintro _ ⟨⟩
    refine ⟨h.settlesOnce ho he, ?_⟩
    rintro _ ⟨⟩
    exact Cursor.ext_rest (hinput'.trans hinput.symm) (hrest'.trans hrest.symm)
  | error stop =>
    obtain ⟨cz, hzero⟩ := h.zeroOrMore_error hz he
    obtain ⟨co, hone⟩ := h.oneOrMore_error ho he
    obtain ⟨t, ht, hinput, hrest, -⟩ := h.halts hzero he
    obtain ⟨u, hu, hinput', hrest', -⟩ := h.halts hone he
    rw [ht, hu]
    refine ⟨nofun, ?_⟩
    rintro _ _ ⟨⟩
    exact ⟨u, rfl, Cursor.ext_rest (hinput'.trans hinput.symm) (hrest'.trans hrest.symm)⟩

theorem Settles.eq_of_ok (h : Settles g a z s u) (ht : Match.eval g z s = .ok true t) : u = t := by
  have hu := h.answer
  rw [ht] at hu
  cases hu
  rfl

theorem Breaks.ne_ok {halt : Halt} {matched : Bool} (h : Breaks g a r s halt) :
    Match.eval g r s ≠ .ok matched t := by
  obtain ⟨-, -, -, -, t', -, -, ht', -⟩ := h
  rw [ht']
  nofun

/-- It is enough to look at all ends of the text. -/
theorem endsOnward_of_tails
    (h : ∀ y ∈ s.cursor.input.tails, ¬ Exhausted (Match.eval g a (s.atRest y))) :
    g.EndsOnward a s := by
  intro cursor hinput _
  rw [← MatchState.atRest_eq hinput]
  refine h _ ((List.mem_tails _ _).2 ?_)
  rw [← hinput]
  exact cursor.rest_suffix

theorem Arena.EndsOnward.halts (h : g.EndsOnward a s) (hx : x <:+ s.cursor.rest) :
    (g.plan ⟨a, s.active, x⟩).Halts g := by
  obtain ⟨cursor, hinput, rfl⟩ := Cursor.exists_of_suffix (hx.trans s.cursor.rest_suffix)
  have hposition : s.position ≤ cursor.position := by
    have hs : s.position = offset s.cursor.input s.cursor.rest := s.cursor.position_eq
    obtain ⟨u, hu⟩ := hx
    have hbytes := congrArg byteLength hu
    rw [byteLength_append] at hbytes
    rw [hs, cursor.position_eq, hinput, offset, offset]
    omega
  rcases eval_sound g a { s with cursor } with hexhausted | ⟨c, e, hrun, -⟩
  · exact absurd hexhausted (h cursor hinput hposition)
  · exact ⟨c, e, hrun⟩

end

/-- Where a rule comes to an end, its repetitions do. Any number of matches are found with no more
matches of the rule than bytes to read, and one, and with one failure at most. They go as far as
matches lead that read something; the rule then fails, or matches without reading anything, and the
repetition gets no further from there. One or more matches are found if the first one is, and go as
far, or else nothing is read. If the rule halts before that, its repetition halts with it and for
the same reason. And where both repetitions of the rule are tried, they end at the same place, or
halt there. -/
theorem repetitions_go_as_far_as_matches_lead {g : Arena σ} {a : RuleId} {s : MatchState}
    (hends : g.EndsOnward a s) :
    (∀ z, g.rule? z = some (.zeroOrMore a) →
      (∃ inside e, Runs g (g.plan (s.attempt z)) inside e ∧
        Ends g s (.made (s.attempt z) inside e .none) e (Match.eval g z s) ∧
        (∀ t ∈ inside.tries, t.1.rule = a) ∧
        inside.answered true ≤ byteLength s.cursor.rest + 1 ∧ inside.answered false ≤ 1) ∧
      ((∃ t, Settles g a z s t) ∨ ∃ halt, Breaks g a z s halt)) ∧
    (∀ o, g.rule? o = some (.oneOrMore a) →
      SettlesOnce g a o s ∨ ∃ halt, Breaks g a o s halt) ∧
    ∀ z o, g.rule? z = some (.zeroOrMore a) → g.rule? o = some (.oneOrMore a) →
      (∀ t, Match.eval g z s = .ok true t →
        SettlesOnce g a o s ∧ ∀ u, Match.eval g o s = .ok true u → u.cursor = t.cursor) ∧
      ∀ halt t, Match.eval g z s = .error halt t →
        ∃ u, Match.eval g o s = .error halt u ∧ u.cursor = t.cursor := by
  obtain ⟨n, y, e, hrounds⟩ := exists_rounds fun y hy => hends.halts hy
  refine ⟨fun z hz => ⟨?_, ?_⟩, fun o ho => ?_, fun z o hz ho => hrounds.same_end hz ho⟩
  · obtain ⟨c, hrun, hrules, htrue, hfalse⟩ := hrounds.zeroOrMore hz
    have hle := hrounds.le_byteLength
    exact ⟨c, _, hrun, Runs.eval_ends (s := s) hrun, hrules, by omega, hfalse⟩
  · cases he : e.answer with
    | ok matched => exact .inl (hrounds.settles hz he)
    | error stop =>
      obtain ⟨c, hrun⟩ := hrounds.zeroOrMore_error hz he
      obtain ⟨t, -, -, -, hbreaks⟩ := hrounds.halts hrun he
      exact .inr ⟨_, hbreaks⟩
  · cases he : e.answer with
    | ok matched => exact .inl (hrounds.settlesOnce ho he)
    | error stop =>
      obtain ⟨c, hrun⟩ := hrounds.oneOrMore_error ho he
      obtain ⟨t, -, -, -, hbreaks⟩ := hrounds.halts hrun he
      exact .inr ⟨_, hbreaks⟩

/-- A letter, and its repetitions. -/
def letters : Arena Unit where
  rules := #[.literal "a", .zeroOrMore ⟨0⟩, .oneOrMore ⟨0⟩]
  names := []
  whitespace := ⟨0⟩
  warnings := []

/-- Two letters are found in front of another one, and two blanks, where nothing but the white space
of a new arena looks for them. -/
theorem two_letters_are_found_in_front :
    letters.EndsOnward ⟨0⟩ (.ofText ['a', 'a', 'b'] false) ∧
      (∃ t, Settles letters ⟨0⟩ ⟨1⟩ (.ofText ['a', 'a', 'b'] false) t ∧ t.position = 2 ∧
        SettlesOnce letters ⟨0⟩ ⟨2⟩ (.ofText ['a', 'a', 'b'] false) ∧
        ∃ u, Match.eval letters ⟨2⟩ (.ofText ['a', 'a', 'b'] false) = .ok true u ∧
          u.position = 2) ∧
      (Arena.fresh : Arena Unit).EndsOnward ⟨8⟩ (.ofText [' ', '\t', 'b'] false) ∧
      ∃ t, Settles (.fresh : Arena Unit) ⟨8⟩ ⟨9⟩ (.ofText [' ', '\t', 'b'] false) t ∧
        t.cursor.rest = ['b'] := by
  have hletter : letters.EndsOnward ⟨0⟩ (.ofText ['a', 'a', 'b'] false) :=
    endsOnward_of_tails (by decide +kernel)
  have hblank : (Arena.fresh : Arena Unit).EndsOnward ⟨8⟩ (.ofText [' ', '\t', 'b'] false) :=
    endsOnward_of_tails (by decide +kernel)
  refine ⟨hletter, ?_, hblank, ?_⟩
  · obtain ⟨t, ht, hposition⟩ : ∃ t, Match.eval letters ⟨1⟩ (.ofText ['a', 'a', 'b'] false) =
      .ok true t ∧ t.position = 2 := ⟨_, rfl, rfl⟩
    obtain ⟨hzero, -, hboth⟩ := repetitions_go_as_far_as_matches_lead hletter
    obtain ⟨honce, hsame⟩ := (hboth ⟨1⟩ ⟨2⟩ rfl rfl).1 t ht
    obtain ⟨u, hu⟩ := honce.iff_first.2 ⟨_, rfl⟩
    rcases (hzero ⟨1⟩ rfl).2 with ⟨t', hsettles⟩ | ⟨halt, hbreaks⟩
    · cases hsettles.eq_of_ok ht
      exact ⟨t, hsettles, hposition, honce, u, hu,
        (congrArg Cursor.position (hsame u hu)).trans hposition⟩
    · exact absurd ht hbreaks.ne_ok
  · have hspace : (Arena.fresh : Arena Unit).HasDefaultSpace :=
      (Arena.Grown.refl ordered_fresh).hasDefaultSpace
    have hrule : (Arena.fresh : Arena Unit).rule? ⟨9⟩ = some (.zeroOrMore ⟨8⟩) :=
      hspace 9 (by decide)
    have hanswer : Answers (Arena.fresh : Arena Unit) [' ', '\t', 'b']
        ((MatchState.ofText [' ', '\t', 'b'] false).attempt ⟨9⟩) true ['b'] [] :=
      hspace.answers [' ', '\t', 'b']
    obtain ⟨t, ht, hrest, -⟩ := hanswer.eval_ok
    obtain ⟨hzero, -, -⟩ := repetitions_go_as_far_as_matches_lead hblank
    rcases (hzero ⟨9⟩ hrule).2 with ⟨t', hsettles⟩ | ⟨halt, hbreaks⟩
    · cases hsettles.eq_of_ok ht
      exact ⟨t, hsettles, hrest⟩
    · exact absurd ht hbreaks.ne_ok

/-- A letter, or else a name that stands for nothing, and one or more of these. Then the name behind
the letter, and one or more of these. -/
def Build.lettersOrLost : Build Unit RuleId := do
  let lost ← Build.reference "lost"
  let either ← Build.choice "a" lost
  let _ ← Build.oneOrMore either
  let both ← Build.sequence "a" lost
  Build.oneOrMore both

def lettersOrLost : Arena Unit := (Build.lettersOrLost.run .fresh).2

/-- A letter is found where one or more are looked for, and yet they do not match, since the next
attempt halts. And where the first attempt halts behind a letter, they are left behind it. -/
theorem a_match_is_undone_by_a_later_halt :
    (lettersOrLost.rule? ⟨13⟩ = some (.oneOrMore ⟨12⟩) ∧
      lettersOrLost.EndsOnward ⟨12⟩ (.ofText ['a', 'b'] false) ∧
      ¬ ((∃ t, Match.eval lettersOrLost ⟨13⟩ (.ofText ['a', 'b'] false) = .ok true t) ↔
        ∃ t, Match.eval lettersOrLost ⟨12⟩ (.ofText ['a', 'b'] false) = .ok true t)) ∧
    lettersOrLost.rule? ⟨16⟩ = some (.oneOrMore ⟨15⟩) ∧
      lettersOrLost.EndsOnward ⟨15⟩ (.ofText ['a', 'b'] false) ∧
      (¬ ∃ t, Match.eval lettersOrLost ⟨15⟩ (.ofText ['a', 'b'] false) = .ok true t) ∧
      ∃ t, Match.eval lettersOrLost ⟨16⟩ (.ofText ['a', 'b'] false) =
        .error (.error (.unknownRule "lost")) t ∧ t.position = 1 := by
  have hends : ∀ id ∈ [(⟨12⟩ : RuleId), ⟨15⟩],
      lettersOrLost.EndsOnward id (.ofText ['a', 'b'] false) := by
    intro id hid
    apply endsOnward_of_tails
    revert id
    decide +kernel
  have hhalts : ∀ id ∈ [(⟨13⟩ : RuleId), ⟨15⟩], ∃ halt u,
      Match.eval lettersOrLost id (.ofText ['a', 'b'] false) = .error halt u :=
    List.forall_mem_cons.2 ⟨⟨_, _, rfl⟩, List.forall_mem_singleton.2 ⟨_, _, rfl⟩⟩
  have hnone : ∀ id ∈ [(⟨13⟩ : RuleId), ⟨15⟩],
      ¬ ∃ t, Match.eval lettersOrLost id (.ofText ['a', 'b'] false) = .ok true t := by
    rintro id hid ⟨t, ht⟩
    obtain ⟨halt, u, hu⟩ := hhalts id hid
    rw [hu] at ht
    cases ht
  exact ⟨⟨rfl, hends _ (by simp), fun h => hnone _ (by simp) (h.2 ⟨_, rfl⟩)⟩, rfl,
    hends _ (by simp), hnone _ (by simp), _, rfl, rfl⟩

end Peg
