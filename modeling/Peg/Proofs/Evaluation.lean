-- Matching takes the course that the plans lay down. With enough fuel it comes to the ending of
-- that course and leaves behind what is read off it, and whatever it comes to comes about so.
import Peg.Proofs.Readings

namespace Peg

open Text

variable {σ : Type}

/-- The attempt at a rule where a state is. -/
def MatchState.attempt (s : MatchState) (id : RuleId) : Attempt := ⟨id, s.active, s.cursor.rest⟩

/-! ## Entering, settling and leaving -/

namespace MatchState

theorem report_eq (s : MatchState) (entry : Nat → LogEntry) :
    s.report entry = { s with log := (if s.trace then [entry s.depth] else []) ++ s.log } := by
  unfold report
  split <;> rfl

theorem enter_eq (s : MatchState) (r : Rule σ) :
    s.enter r =
      { s with
        depth := s.depth + 1
        log := (if s.trace then [.entered (s.depth + 1) r.label] else []) ++ s.log } := by
  rw [enter, report_eq]

section Enter

variable (s : MatchState) (r : Rule σ)

@[simp] theorem cursor_enter : (s.enter r).cursor = s.cursor := by rw [enter_eq]

@[simp] theorem captures_enter : (s.enter r).captures = s.captures := by rw [enter_eq]; rfl

@[simp] theorem active_enter : (s.enter r).active = s.active := by rw [enter_eq]

@[simp] theorem depth_enter : (s.enter r).depth = s.depth + 1 := by rw [enter_eq]

@[simp] theorem trace_enter : (s.enter r).trace = s.trace := by rw [enter_eq]

@[simp] theorem log_enter : (s.enter r).log =
    (if s.trace then [.entered (s.depth + 1) r.label] else []) ++ s.log := by rw [enter_eq]

end Enter

/-- The state behind a rule that is left at depth `depth`. -/
def leftAt (s : MatchState) (depth : Nat) (label : String) (matched : Bool) : MatchState :=
  { s with
    depth
    log := (if s.trace then [.left (depth + 1) label matched] else []) ++ s.log }

theorem leave_eq {s : MatchState} {depth : Nat} (h : s.depth = depth + 1) (r : Rule σ)
    (matched : Bool) : s.leave r matched = .ok (s.leftAt depth r.label matched) := by
  unfold leave leftAt
  rw [report_eq]
  simp only [h]

/-- The state with one more capture. -/
def push (s : MatchState) (c : Capture) : MatchState := { s with recorded := c :: s.recorded }

@[simp] theorem captures_push (s : MatchState) (c : Capture) :
    (s.push c).captures = s.captures ++ [c] := by
  simp [push, captures]

/-- From where a state was, a capture up to a later state is always in order. -/
theorem record_eq {s t : MatchState} (hinput : t.cursor.input = s.cursor.input)
    (hrest : t.cursor.rest <:+ s.cursor.rest) (id : RuleId) :
    t.record s.position id =
      .ok (t.push (.between s.cursor.input s.cursor.rest t.cursor.rest id)) := by
  obtain ⟨u, hu⟩ := hrest
  obtain ⟨v, hv⟩ := s.cursor.rest_suffix
  have hread : byteLength u + byteLength t.cursor.rest = byteLength s.cursor.rest := by
    rw [← hu, byteLength_append]
  have hbefore : byteLength v + byteLength s.cursor.rest = byteLength s.cursor.input := by
    rw [← hv, byteLength_append]
  have hs : s.position = offset s.cursor.input s.cursor.rest := s.cursor.position_eq
  have ht : t.position = s.position + (byteLength s.cursor.rest - byteLength t.cursor.rest) := by
    have h : t.position = offset t.cursor.input t.cursor.rest := t.cursor.position_eq
    rw [h, hs, hinput]
    unfold offset
    omega
  simp only [record, Span.between?, hinput, Capture.between, ht, hs]
  rw [dif_pos (Nat.le_add_right _ _)]
  rfl

end MatchState

section

variable {g : Arena σ} {s t : MatchState} {a : Attempt} {id : RuleId} {r : Rule σ} {inside : Course}
  {e : Ending} {eval : RuleId → Match Bool}

/-- What comes on top of a plan, with the captures and the log that it leaves. -/
theorem settle_spec (hr : g.rule? a.rule = some r) {matched : Bool} (he : e.answer = .ok matched)
    (ha : a = s.attempt a.rule) (h : Reaches g s inside e.rest t)
    (hrest : e.rest <:+ s.cursor.rest) :
    ∃ u, r.settle a.rule s matched t = .ok ⟨⟩ u ∧ u.cursor = t.cursor ∧ u.active = t.active ∧
      u.depth = t.depth ∧ u.trace = t.trace ∧
      u.captures =
        s.captures ++ g.recorded s.cursor.input a e (inside.captures g s.cursor.input) ∧
      u.log = (if t.trace then ((r.refusedName a.active).toList.map (.blocked t.depth)).reverse
        else []) ++ t.log := by
  have hcaptures := h.captures
  have hrest' : t.cursor.rest <:+ s.cursor.rest := by
    rw [h.rest]
    exact hrest
  cases r with
  | action b run =>
    cases matched with
    | true =>
      refine ⟨t.push (.between s.cursor.input s.cursor.rest t.cursor.rest a.rule), ?_,
        rfl, rfl, rfl, rfl, ?_, ?_⟩
      · show Match.capture s a.rule t = _
        simp only [Match.capture, Match.bind_apply, Match.get_apply]
        rw [MatchState.record_eq h.input hrest', Match.become_ok]
      · have hx : a.rest = s.cursor.rest := by rw [ha]; rfl
        simp [hcaptures, Arena.recorded, hr, he, h.rest, hx]
      · simp [Rule.refusedName, MatchState.push]
    | false =>
      refine ⟨t.keepCaptures s.captureCount, rfl, rfl, rfl, rfl, rfl, ?_, ?_⟩
      · rw [MatchState.captures_keepCaptures, hcaptures]
        simp [Arena.recorded, hr, he, MatchState.captures, MatchState.captureCount]
      · simp [Rule.refusedName, MatchState.keepCaptures]
  | reference name =>
    have hactive : a.active = s.active := by rw [ha]; rfl
    by_cases hname : s.active = some name
    · refine ⟨t.report (.blocked · name), ?_, ?_⟩
      · simp only [Rule.settle, hname, if_true, Match.modify_apply]
      · rw [MatchState.report_eq]
        refine ⟨rfl, rfl, rfl, rfl, ?_, ?_⟩
        · simpa [MatchState.captures, Arena.recorded, hr] using hcaptures
        · simp [Rule.refusedName, hactive, hname]
    · refine ⟨t, ?_, rfl, rfl, rfl, rfl, ?_, ?_⟩
      · simp only [Rule.settle, hname, if_false, Match.pure_apply]
      · simpa [Arena.recorded, hr] using hcaptures
      · simp [Rule.refusedName, hactive, hname]
  | _ =>
    refine ⟨t, rfl, rfl, rfl, rfl, rfl, ?_, ?_⟩
    · simpa [Arena.recorded, hr] using hcaptures
    · simp [Rule.refusedName]

/-! ## One level of fuel -/

theorem evalWithin_missing (hr : g.rule? id = none) (fuel : Nat) (s : MatchState) :
    Match.evalWithin g (fuel + 1) id s = .error (.fault .noSuchRule) s := by
  simp only [Match.evalWithin, hr, Match.throw_apply]

/-- The plan of a rule is done between entering it and leaving it. -/
theorem evalWithin_rule (hr : g.rule? id = some r) {fuel : Nat}
    (hf : Forward (Match.evalWithin g fuel)) (s : MatchState) :
    Match.evalWithin g (fuel + 1) id s =
      match (g.plan (s.attempt id)).run (Match.evalWithin g fuel) (s.enter r) with
      | .ok matched t =>
        (do
          r.settle id (s.enter r) matched
          Match.become ((← get).leave r matched)
          return matched) t
      | .error halt t => .error halt t := by
  have hplan : g.plan (s.attempt id) =
      .ofRule g (s.enter r).active (s.enter r).cursor.rest r := by
    rw [plan_of_rule hr, MatchState.active_enter, MatchState.cursor_enter]
    rfl
  simp only [Match.evalWithin, hr, Match.bind_apply, Match.modify_apply]
  rw [rule_eq_run hf, hplan]
  simp only [Match.bind_apply]
  cases (Plan.ofRule g (s.enter r).active (s.enter r).cursor.rest r).run (Match.evalWithin g fuel)
      (s.enter r) with
  | error halt t => rfl
  | ok matched t =>
    cases h : r.settle id (s.enter r) matched t <;> simp only [h, Match.pure_apply]

/-- A stop inside of a rule leaves the rule open. -/
theorem Reaches.of_stop (hr : g.rule? id = some r) {stop : Stop} (he : e.answer = .error stop)
    (h : Reaches g (s.enter r) inside e.rest t) :
    Reaches g s (.made (s.attempt id) inside e .none) e.rest t := by
  have hr' : g.rule? (s.attempt id).rule = some r := hr
  have hcaptures := h.captures
  have hdepth := h.depth
  have hlog := h.log
  simp only [MatchState.cursor_enter, MatchState.captures_enter, MatchState.depth_enter,
    MatchState.trace_enter, MatchState.log_enter] at hcaptures hdepth hlog
  refine ⟨by simpa using h.input, h.rest, ?_, by simpa using h.active, ?_, by simpa using h.trace,
    ?_⟩
  · simpa [Course.captures, Arena.recorded, he, hr'] using hcaptures
  · rw [hdepth]
    simp only [Course.unclosed, he, hr', Nat.add_zero]
    omega
  · rw [hlog]
    cases s.trace <;> simp [Course.log, Arena.reports, he, hr']

/-- A rule with an answer is settled and left. -/
theorem Reaches.of_answer (hr : g.rule? id = some r) {matched : Bool} (he : e.answer = .ok matched)
    (hrest : e.rest <:+ s.cursor.rest) (h : Reaches g (s.enter r) inside e.rest t)
    (hinside : inside.unclosed g = 0) :
    ∃ u, (do
        r.settle id (s.enter r) matched
        Match.become ((← get).leave r matched)
        return matched : Match Bool) t = .ok matched u ∧
      Reaches g s (.made (s.attempt id) inside e .none) e.rest u := by
  have hr' : g.rule? (s.attempt id).rule = some r := hr
  have ha : s.attempt id = (s.enter r).attempt (s.attempt id).rule := by
    simp [MatchState.attempt]
  obtain ⟨u, hsettle, hcursor, hactive, hdepth, htrace, hcaptures, hlog⟩ :=
    settle_spec hr' he ha h (by simpa using hrest)
  have hd : u.depth = s.depth + 1 := by rw [hdepth, h.depth, hinside, MatchState.depth_enter]
  have hu : u.trace = s.trace := by rw [htrace, h.trace, MatchState.trace_enter]
  have hs : r.settle id (s.enter r) matched t = .ok ⟨⟩ u := hsettle
  refine ⟨u.leftAt s.depth r.label matched, ?_, ?_⟩
  · simp only [Match.bind_apply, Match.get_apply, Match.pure_apply, hs, MatchState.leave_eq hd,
      Match.become_ok]
  · refine ⟨?_, ?_, ?_, ?_, ?_, hu, ?_⟩
    · simpa [MatchState.leftAt, hcursor] using h.input
    · simpa [MatchState.leftAt, hcursor] using h.rest
    · show u.captures = _
      rw [hcaptures]
      simp [Course.captures]
    · simpa [MatchState.leftAt, hactive] using h.active
    · simp [MatchState.leftAt, Course.unclosed, he]
    · have ht : t.depth = s.depth + 1 := by rw [← hdepth, hd]
      have htt : t.trace = s.trace := by rw [← htrace, hu]
      simp only [MatchState.leftAt, hlog, h.log, MatchState.log_enter, MatchState.depth_enter,
        MatchState.trace_enter, ht, htt, hu]
      cases s.trace <;> simp [Course.log, Arena.reports, Rule.report, he, hr']

theorem Runs.unclosed_eq_zero {p : Plan} {c : Course} (h : Runs g p c e) {matched : Bool}
    (he : e.answer = .ok matched) : c.unclosed g = 0 := by
  induction h with
  | finish e => rfl
  | @attempt a next inside later e e' _ h₂ _ ih₂ =>
    cases hans : e.answer with
    | ok answer => simp [Course.unclosed, hans, ih₂ he]
    | error stop =>
      obtain ⟨-, rfl⟩ := h₂.stopped_inv hans
      rw [hans] at he
      cases he

/-- What the plan of a rule comes to is what the attempt comes to. -/
theorem evalWithin_ends (hr : g.rule? id = some r) {fuel : Nat}
    (hf : Forward (Match.evalWithin g fuel)) (hrun : Runs g (g.plan (s.attempt id)) inside e)
    (h : Ends g (s.enter r) inside e
      ((g.plan (s.attempt id)).run (Match.evalWithin g fuel) (s.enter r))) :
    Ends g s (.made (s.attempt id) inside e .none) e (Match.evalWithin g (fuel + 1) id s) := by
  rw [evalWithin_rule hr hf]
  cases hres : (g.plan (s.attempt id)).run (Match.evalWithin g fuel) (s.enter r) with
  | error halt t =>
    rw [hres] at h
    obtain ⟨stop, he, hhalt, h⟩ := h
    refine ⟨stop, he, ?_, h.of_stop hr he⟩
    rw [hhalt, MatchState.cursor_enter]
  | ok matched t =>
    rw [hres] at h
    obtain ⟨he, h⟩ := h
    obtain ⟨u, hu, hreach⟩ := h.of_answer hr he hrun.rest_suffix (hrun.unclosed_eq_zero he)
    simp only [hu]
    exact ⟨he, hreach⟩

/-- A rule that is missing stops the match at once. -/
theorem evalWithin_ends_missing (hr : g.rule? id = none) (fuel : Nat)
    (hrun : Runs g (g.plan (s.attempt id)) inside e) :
    Ends g s (.made (s.attempt id) inside e .none) e (Match.evalWithin g (fuel + 1) id s) := by
  have hr' : g.rule? (s.attempt id).rule = none := hr
  rw [plan_of_missing hr'] at hrun
  obtain ⟨rfl, rfl⟩ := hrun.finish_inv
  rw [evalWithin_missing hr]
  refine ⟨.noSuchRule, rfl, rfl, rfl, rfl, ?_, rfl, ?_, rfl, ?_⟩
  · simp [Course.captures, Arena.recorded, hr', Ending.stopped]
  · simp [Course.unclosed, hr', Ending.stopped]
  · simp [Course.log, Arena.reports, hr', Ending.stopped]

/-! ## Attempts and plans -/

/-- Where and under which name an attempt is made does not show in what it leaves behind. -/
theorem Attempt.run_ends (ha : a.rest <:+ s.cursor.input)
    (h : Ends g ((s.atRest a.rest).setActive a.active) (.made a inside e .none) e
      (eval a.rule ((s.atRest a.rest).setActive a.active))) :
    Ends g s (.made a inside e .none) e (a.run eval s) := by
  unfold Attempt.run
  split
  · next hactive =>
    have hs : (s.atRest a.rest).setActive a.active = s.atRest a.rest := by rw [hactive]; rfl
    rw [hs] at h
    cases hres : eval a.rule (s.atRest a.rest) with
    | ok matched t =>
      rw [hres] at h
      have ht : t = t.setActive s.active := by
        rw [← MatchState.active_atRest s a.rest, ← h.2.active]
        rfl
      exact ⟨h.1, h.2.of_moved hs.symm ha ht⟩
    | error halt t =>
      rw [hres] at h
      obtain ⟨stop, he, hhalt, hreach⟩ := h
      have ht : t = t.setActive s.active := by
        rw [← MatchState.active_atRest s a.rest, ← hreach.active]
        rfl
      rw [MatchState.input_atRest ha] at hhalt
      exact ⟨stop, he, hhalt, hreach.of_moved hs.symm ha ht⟩
  · cases hres : eval a.rule ((s.atRest a.rest).setActive a.active) with
    | ok matched t =>
      rw [hres] at h
      exact ⟨h.1, h.2.of_moved rfl ha rfl⟩
    | error halt t =>
      rw [hres] at h
      obtain ⟨stop, he, hhalt, hreach⟩ := h
      have hi : ((s.atRest a.rest).setActive a.active).cursor.input = s.cursor.input :=
        MatchState.input_atRest ha
      rw [hi] at hhalt
      exact ⟨stop, he, hhalt, hreach.of_moved rfl ha rfl⟩

theorem Attempt.run_exhausted
    (h : Exhausted (eval a.rule ((s.atRest a.rest).setActive a.active))) :
    Exhausted (a.run eval s) := by
  obtain ⟨t, ht⟩ := h
  unfold Attempt.run
  split
  · next hactive =>
    have hs : (s.atRest a.rest).setActive a.active = s.atRest a.rest := by rw [hactive]; rfl
    rw [hs] at ht
    exact ⟨t, ht⟩
  · rw [ht]
    exact ⟨_, rfl⟩

theorem attempt_of_moved (ha : a.rest <:+ s.cursor.input) :
    ((s.atRest a.rest).setActive a.active).attempt a.rule = a := by
  have hrest : ((s.atRest a.rest).setActive a.active).cursor.rest = a.rest :=
    MatchState.rest_atRest ha
  rw [MatchState.attempt, hrest]
  rfl

/-- A plan goes on behind an attempt that has an answer, and ends with one that stops. -/
theorem Plan.run_attempt_ends {next : Bool → List Char → Plan} {later : Course} {e' : Ending}
    (h : Ends g s (.made a inside e .none) e (a.run eval s))
    (hnext : Runs g (e.follow next) later e')
    (hlater : ∀ matched t, a.run eval s = .ok matched t → e.answer = .ok matched →
      Reaches g s (.made a inside e .none) e.rest t →
      Ends g t later e' ((next matched e.rest).run eval t)) :
    Ends g s (.made a inside e later) e' ((Plan.attempt a next).run eval s) := by
  simp only [Plan.run]
  cases hres : a.run eval s with
  | error halt t =>
    rw [hres] at h
    obtain ⟨stop, he, hhalt, hreach⟩ := h
    obtain ⟨rfl, rfl⟩ := hnext.stopped_inv he
    exact ⟨stop, he, hhalt, hreach⟩
  | ok matched t =>
    rw [hres] at h
    obtain ⟨he, hreach⟩ := h
    have hl := hlater matched t hres he hreach
    simp only [hreach.rest]
    cases hres' : (next matched e.rest).run eval t with
    | ok matched' u =>
      rw [hres'] at hl
      exact ⟨hl.1, hreach.followed he hl.2⟩
    | error halt u =>
      rw [hres'] at hl
      obtain ⟨stop, he', hhalt, hreach'⟩ := hl
      rw [hreach.input] at hhalt
      exact ⟨stop, he', hhalt, hreach.followed he hreach'⟩

theorem Plan.run_finish_ends (h : e.rest <:+ s.cursor.input) :
    Ends g s .none e ((Plan.finish e).run eval s) := by
  simp only [Plan.run]
  cases he : e.answer with
  | ok matched => exact ⟨he, .atRest h⟩
  | error stop => exact ⟨stop, he, rfl, .atRest h⟩

/-! ## Soundness -/

/-- Whatever `eval` comes to comes about by a course of attempts, unless it runs out of fuel. -/
def Sound (g : Arena σ) (eval : RuleId → Match Bool) : Prop :=
  ∀ id s, Exhausted (eval id s) ∨ ∃ inside e, Runs g (g.plan (s.attempt id)) inside e ∧
    Ends g s (.made (s.attempt id) inside e .none) e (eval id s)

theorem Sound.forward (h : Sound g eval) : Forward eval := by
  intro id s matched t hres
  rcases h id s with ⟨u, hu⟩ | ⟨inside, e, hrun, hends⟩
  · rw [hres] at hu
    cases hu
  · rw [hres] at hends
    obtain ⟨-, hreach⟩ := hends
    refine ⟨hreach.input, ?_, hreach.active⟩
    rw [hreach.rest]
    exact hrun.rest_suffix

theorem Sound.plan (h : Sound g eval) {p : Plan} {x : List Char}
    (hp : p.Obeys (·.rest <:+ x) (·.rest <:+ x)) (hx : x <:+ s.cursor.input) :
    Exhausted (p.run eval s) ∨ ∃ c e, Runs g p c e ∧ Ends g s c e (p.run eval s) := by
  induction p generalizing s with
  | finish e => exact .inr ⟨.none, e, .finish e, Plan.run_finish_ends (hp.trans hx)⟩
  | attempt a next ih =>
    obtain ⟨ha, hnext⟩ := hp
    have hax : a.rest <:+ s.cursor.input := ha.trans hx
    rcases h a.rule ((s.atRest a.rest).setActive a.active) with hex | ⟨inside, e, hrun, hends⟩
    · obtain ⟨t, ht⟩ := Attempt.run_exhausted hex
      exact .inl ⟨t, by simp only [Plan.run, ht]⟩
    rw [attempt_of_moved hax] at hrun hends
    have hends' := Attempt.run_ends hax hends
    cases hres : a.run eval s with
    | error halt t =>
      have hres' := hends'
      rw [hres] at hres'
      obtain ⟨stop, he, -, -⟩ := hres'
      have hfinish : Runs g (e.follow next) .none e := by
        rw [Ending.follow_error he]
        exact .finish e
      refine .inr ⟨_, e, .attempt hrun hfinish, Plan.run_attempt_ends hends' hfinish ?_⟩
      intro matched t hok
      rw [hres] at hok
      cases hok
    | ok matched t =>
      have hres' := hends'
      rw [hres] at hres'
      obtain ⟨he, hreach⟩ := hres'
      have hf : e.follow next = next matched e.rest := Ending.follow_ok he
      have hxt : x <:+ t.cursor.input := by
        rw [hreach.input]
        exact hx
      rcases ih matched e.rest (hnext _ _ hrun.rest_suffix) hxt with
        ⟨u, hu⟩ | ⟨later, e', hrun', hends''⟩
      · exact .inl ⟨u, by simp only [Plan.run, hres, hreach.rest, hu]⟩
      · rw [← hf] at hrun'
        refine .inr ⟨_, e', .attempt hrun hrun', Plan.run_attempt_ends hends' hrun' ?_⟩
        intro matched' t' hok _ _
        rw [hres] at hok
        cases hok
        exact hends''

theorem evalWithin_sound (g : Arena σ) (fuel : Nat) : Sound g (Match.evalWithin g fuel) := by
  induction fuel with
  | zero => exact fun id s => .inl ⟨s, rfl⟩
  | succ fuel ih =>
    intro id s
    cases hr : g.rule? id with
    | none =>
      have hrun : Runs g (g.plan (s.attempt id)) .none (.stopped .noSuchRule s.cursor.rest) := by
        rw [plan_of_missing (show g.rule? (s.attempt id).rule = none from hr)]
        exact .finish _
      exact .inr ⟨_, _, hrun, evalWithin_ends_missing hr fuel hrun⟩
    | some r =>
      have hx : (s.attempt id).rest <:+ (s.enter r).cursor.input := by
        rw [MatchState.cursor_enter]
        exact s.cursor.rest_suffix
      rcases ih.plan (plan_within g (s.attempt id)) hx with ⟨t, ht⟩ | ⟨inside, e, hrun, hends⟩
      · refine .inl ⟨t, ?_⟩
        rw [evalWithin_rule hr ih.forward, ht]
      · exact .inr ⟨inside, e, hrun, evalWithin_ends hr ih.forward hrun hends⟩

/-! ## Completeness -/

/-- A plan comes to the ending of its course, with fuel for attempts as deep as those of the
course. -/
theorem Runs.plan_ends {p : Plan} {c : Course} (h : Runs g p c e) {height : Nat}
    (heval : ∀ id s inside e, Runs g (g.plan (s.attempt id)) inside e → inside.height < height →
      Ends g s (.made (s.attempt id) inside e .none) e (eval id s))
    (hc : c.height ≤ height) {x : List Char} (hp : p.Obeys (·.rest <:+ x) (·.rest <:+ x))
    (hx : x <:+ s.cursor.input) : Ends g s c e (p.run eval s) := by
  induction h generalizing s with
  | finish e => exact Plan.run_finish_ends (hp.trans hx)
  | @attempt a next inside later e e' hrun hnext _ ih =>
    obtain ⟨ha, hobeys⟩ := hp
    have hax : a.rest <:+ s.cursor.input := ha.trans hx
    -- the attempts inside take one unit of fuel more, those later take none
    simp only [Course.height] at hc
    have hends : Ends g s (.made a inside e .none) e (a.run eval s) := by
      apply Attempt.run_ends hax
      have := heval a.rule ((s.atRest a.rest).setActive a.active) inside e
      rw [attempt_of_moved hax] at this
      exact this hrun (by omega)
    apply Plan.run_attempt_ends hends hnext
    intro matched t _ he hreach
    have hf : e.follow next = next matched e.rest := Ending.follow_ok he
    rw [hf] at ih
    apply ih (by omega) (hobeys _ _ hrun.rest_suffix)
    rw [hreach.input]
    exact hx

/-- With more fuel than attempts stand inside each other, a match comes to the ending of its
course. -/
theorem evalWithin_complete (fuel : Nat) (hrun : Runs g (g.plan (s.attempt id)) inside e)
    (hfuel : inside.height < fuel) :
    Ends g s (.made (s.attempt id) inside e .none) e (Match.evalWithin g fuel id s) := by
  induction fuel generalizing id s inside e with
  | zero => omega
  | succ fuel ih =>
    cases hr : g.rule? id with
    | none => exact evalWithin_ends_missing hr fuel hrun
    | some r =>
      apply evalWithin_ends hr (evalWithin_sound g fuel).forward hrun
      have hx : (s.attempt id).rest <:+ (s.enter r).cursor.input := by
        rw [MatchState.cursor_enter]
        exact s.cursor.rest_suffix
      exact hrun.plan_ends (fun id s inside e => ih) (by omega) (plan_within g (s.attempt id)) hx

end

end Peg
