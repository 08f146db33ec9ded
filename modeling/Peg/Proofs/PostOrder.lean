-- Grammars in which nothing that was captured is given up. A rule that another one tries and may go
-- on without leaves no captures where it fails, so those of a match are in post-order: an action
-- comes right behind what was captured inside of it.
import Peg.Proofs.Replaying
import Peg.Proofs.Restoring

namespace Peg

open Text

variable {σ : Type}

/-! ## Tidy arenas -/

/-- Where the rule fails, the captures are as they were, whatever the state was. -/
def Arena.Clean (g : Arena σ) (id : RuleId) : Prop :=
  ∀ s t, Match.eval g id s = .ok false t → t.captures = s.captures

/-- The rule that may fail where this one matches. -/
def Rule.spared? : Rule σ → Option RuleId
  | .choice a _ => some a
  | .zeroOrMore a | .oneOrMore a | .optional a | .not a => some a
  | _ => none

/-- All rules that may fail where the one around them matches are clean. -/
def Arena.Tidy (g : Arena σ) : Prop :=
  ∀ {id r b}, g.rule? id = some r → r.spared? = some b → g.Clean b

/-- The attempts that have matched, of those inside of attempts that have matched. -/
def Course.kept : Course → Course
  | .none => .none
  | .made a inside e later =>
    match e.answer with
    | .ok true => .made a inside.kept e later.kept
    | _ => later.kept

/-! ## Rules that are clean -/

section

variable {g : Arena σ} {id a b : RuleId}

/-- An attempt at a clean rule leaves no captures where it fails. -/
theorem Arena.Clean.captures_eq {input : List Char} {d : Attempt} {inside : Course} {e : Ending}
    (hclean : g.Clean d.rule) (hd : d.rest <:+ input) (hrun : Runs g (g.plan d) inside e)
    (he : e.answer = .ok false) : (Course.made d inside e .none).captures g input = [] := by
  let s := ((MatchState.ofText input false).atRest d.rest).setActive d.active
  have hrest : s.cursor.rest = d.rest := MatchState.rest_atRest hd
  have hinput : s.cursor.input = input := MatchState.input_atRest hd
  have hs : s.attempt d.rule = d := by
    rw [MatchState.attempt, hrest]
    rfl
  rw [← hs] at hrun
  obtain ⟨t, hres, hreach⟩ := hrun.eval_ends.answered he
  have hcaptures := hreach.captures
  rw [hclean s t hres, hs, hinput] at hcaptures
  exact List.self_eq_append_right.1 hcaptures

/-- A rule is clean if its attempts leave no captures where they fail. -/
theorem Arena.clean_of_attempts
    (h : ∀ {input : List Char} {d : Attempt} {inside : Course} {e : Ending}, d.rule = id →
      d.rest <:+ input → Runs g (g.plan d) inside e → e.answer = .ok false →
        (Course.made d inside e .none).captures g input = []) : g.Clean id := by
  intro s t hfail
  obtain ⟨inside, hrun, hreach⟩ := eval_ok hfail
  rw [hreach.captures, h rfl s.cursor.rest_suffix hrun rfl, List.append_nil]

/-- Nothing is attempted inside of a text. -/
theorem Arena.clean_of_literal {text : String} (hr : g.rule? id = some (.literal text)) :
    g.Clean id := by
  refine Arena.clean_of_attempts ?_
  rintro input d inside e rfl - hrun -
  rw [plan_of_rule hr] at hrun
  obtain ⟨rfl, -⟩ := hrun.finish_inv
  simp [Course.captures, Arena.recorded, hr]

/-- A failed action drops what was captured inside of it. -/
theorem Arena.clean_of_action {run : Action σ} (hr : g.rule? id = some (.action a run)) :
    g.Clean id := by
  refine Arena.clean_of_attempts ?_
  rintro input d inside ⟨answer, y⟩ rfl - hrun rfl
  exact captures_of_failed hr (.inl ⟨a, run, rfl⟩) hrun

/-- A choice fails where both of its alternatives fail. -/
theorem Arena.clean_of_choice (hr : g.rule? id = some (.choice a b)) (ha : g.Clean a)
    (hb : g.Clean b) : g.Clean id := by
  refine Arena.clean_of_attempts ?_
  rintro input d inside e rfl hd hrun he
  rw [plan_of_rule hr] at hrun
  obtain ⟨inside₁, ⟨answer, y⟩, later, rfl, hrun₁, hrun₂⟩ := hrun.attempt_inv
  match answer with
  | .ok true =>
    obtain ⟨-, rfl⟩ := hrun₂.finish_inv
    cases he
  | .ok false =>
    have hnone₁ := ha.captures_eq (d := ⟨a, d.active, d.rest⟩) hd hrun₁ rfl
    obtain ⟨inside₂, ⟨answer, z⟩, later, rfl, hrun₂, hrun₃⟩ := hrun₂.attempt_inv
    match answer with
    | .ok true =>
      obtain ⟨-, rfl⟩ := hrun₃.finish_inv
      cases he
    | .ok false =>
      obtain ⟨rfl, rfl⟩ := hrun₃.finish_inv
      have hnone₂ := hb.captures_eq (d := ⟨b, d.active, d.rest⟩) hd hrun₂ rfl
      have hrecorded : ∀ e l, g.recorded input d e l = l := fun e l => by simp [Arena.recorded, hr]
      simp only [Course.captures, List.append_nil] at hnone₁ hnone₂
      simp only [Course.captures, hrecorded, hnone₁, hnone₂, List.append_nil]
    | .error stop =>
      obtain ⟨-, rfl⟩ := hrun₃.finish_inv
      cases he
  | .error stop =>
    obtain ⟨-, rfl⟩ := hrun₂.finish_inv
    cases he

end

/-! ## Captures in post-order -/

/-- Captures between two places, each of which ends no earlier than those before it, and begins
behind one or is around it. -/
structure PostOrder (start stop : Nat) (captures : List Capture) : Prop where
  le : start ≤ stop
  within : ∀ k ∈ captures, start ≤ k.start ∧ k.stop ≤ stop
  ends : captures.Pairwise fun k k' => k.stop ≤ k'.stop
  nested : captures.Pairwise fun k k' =>
    k.stop ≤ k'.start ∨ (k'.start ≤ k.start ∧ k.stop ≤ k'.stop)

namespace PostOrder

variable {start middle stop : Nat} {l l' : List Capture}

theorem nil (h : start ≤ stop) : PostOrder start stop [] := ⟨h, by simp, .nil, .nil⟩

theorem mono {start' stop' : Nat} (h : PostOrder start stop l) (hstart : start' ≤ start)
    (hstop : stop ≤ stop') : PostOrder start' stop' l where
  le := hstart.trans (h.le.trans hstop)
  within k hk := ⟨hstart.trans (h.within k hk).1, (h.within k hk).2.trans hstop⟩
  ends := h.ends
  nested := h.nested

/-- What is captured behind other captures is in order with them. -/
theorem append (h : PostOrder start middle l) (h' : PostOrder middle stop l') :
    PostOrder start stop (l ++ l') where
  le := h.le.trans h'.le
  within k hk := by
    rcases List.mem_append.1 hk with hk | hk
    · exact (h.mono (Nat.le_refl _) h'.le).within k hk
    · exact (h'.mono h.le (Nat.le_refl _)).within k hk
  ends := by
    refine List.pairwise_append.2 ⟨h.ends, h'.ends, fun k hk k' hk' => ?_⟩
    calc k.stop ≤ middle := (h.within k hk).2
      _ ≤ k'.start := (h'.within k' hk').1
      _ ≤ k'.stop := k'.span.ordered
  nested := by
    refine List.pairwise_append.2 ⟨h.nested, h'.nested, fun k hk k' hk' => .inl ?_⟩
    exact (h.within k hk).2.trans (h'.within k' hk').1

/-- A capture of all that was read comes last. -/
theorem mark {k : Capture} (h : PostOrder k.start k.stop l) :
    PostOrder k.start k.stop (l ++ [k]) where
  le := h.le
  within k' hk' := by
    rcases List.mem_append.1 hk' with hk' | hk'
    · exact h.within k' hk'
    · rw [List.mem_singleton.1 hk']
      exact ⟨Nat.le_refl _, Nat.le_refl _⟩
  ends := by
    refine List.pairwise_append.2 ⟨h.ends, List.pairwise_singleton _ _, fun k' hk' l hl => ?_⟩
    rw [List.mem_singleton.1 hl]
    exact (h.within k' hk').2
  nested := by
    refine List.pairwise_append.2 ⟨h.nested, List.pairwise_singleton _ _, fun k' hk' l hl => ?_⟩
    rw [List.mem_singleton.1 hl]
    exact .inr (h.within k' hk')

end PostOrder

/-! ## Plans in tidy arenas -/

/-- The plan never matches. -/
def Plan.Fails (p : Plan) : Prop := p.Obeys (fun _ => True) (·.answer ≠ .ok true)

/-- Every attempt is made behind the last one that has matched, which left `x` of the text, and
every match is behind it as well; and the plan goes on to match only where all attempts that have
failed were clean. -/
def Plan.Tidy (g : Arena σ) : List Char → Plan → Prop
  | x, .finish e => e.answer = .ok true → e.rest <:+ x
  | x, .attempt a next =>
    a.rest <:+ x ∧ (∀ y, y <:+ a.rest → (next true y).Tidy g y) ∧
      ∀ y, y <:+ a.rest → (next false y).Fails ∨ g.Clean a.rule ∧ (next false y).Tidy g x

section

variable {g : Arena σ} {x y : List Char} {active : Option String} {b : RuleId}

theorem tidy_finish {e : Ending} (h : e.rest <:+ x) : (Plan.finish e).Tidy g x := fun _ => h

theorem tidy_back (x : List Char) (matched : Bool) (y : List Char) :
    (Plan.finish (.back x matched y)).Tidy g y := by
  intro hanswer
  cases matched with
  | true => exact List.suffix_rfl
  | false => cases hanswer

theorem fails_failed (y : List Char) : (Plan.finish (.failed y)).Fails := by
  intro h
  cases h

/-- A repetition is tidy if its operand is clean. -/
theorem repeating_tidy {done : Nat → List Char → Plan} (hb : g.Clean b)
    (hdone : ∀ count y, (done count y).Tidy g y) (y : List Char) (count : Nat) :
    (Plan.repeating ⟨b, active, y⟩ done count).Tidy g y := by
  rw [Plan.repeating]
  refine ⟨List.suffix_rfl, ?_, ?_⟩
  · intro z hz
    simp only [if_true]
    split
    · next hlt => exact repeating_tidy hb hdone z (count + 1)
    · exact hdone (count + 1) z
  · intro z hz
    exact .inr ⟨hb, hdone count y⟩
termination_by y.length

/-- A plan that ends with the answer of its attempt. -/
theorem tidy_attempt_back (b : RuleId) (active : Option String) (x : List Char) :
    (Plan.attempt ⟨b, active, x⟩ fun matched y => .finish (.back x matched y)).Tidy g x :=
  ⟨List.suffix_rfl, fun y _ => tidy_back x true y, fun _ _ => .inl (fails_failed x)⟩

theorem ofRule_tidy {r : Rule σ} (hr : ∀ b, r.spared? = some b → g.Clean b)
    (active : Option String) (x : List Char) : (Plan.ofRule g active x r).Tidy g x := by
  cases r with
  | literal text => exact fun _ => (ofRule_obeys g active x (.literal text)).1
  | range lo hi => exact fun _ => (ofRule_obeys g active x (.range lo hi)).1
  | pattern source finder => exact fun _ => (ofRule_obeys g active x (.pattern source finder)).1
  | not a =>
    refine ⟨List.suffix_rfl, ?_, fun _ _ => .inr ⟨hr a rfl, tidy_finish List.suffix_rfl⟩⟩
    intro y _ hanswer
    cases hanswer
  | endOfInput a =>
    exact ⟨List.suffix_rfl, fun y _ => tidy_back x _ y, fun _ _ => .inl (fails_failed x)⟩
  | sequence a b =>
    refine ⟨List.suffix_rfl, ?_, fun y _ => .inl (fails_failed y)⟩
    intro y _
    refine ⟨List.suffix_rfl, fun z _ => tidy_finish List.suffix_rfl, fun z _ => .inl ?_⟩
    exact fails_failed z
  | spaced a b =>
    refine ⟨List.suffix_rfl, ?_, fun y _ => .inl (fails_failed y)⟩
    intro y _
    refine ⟨List.suffix_rfl, ?_, fun z _ => .inl (fails_failed z)⟩
    intro z _
    refine ⟨List.suffix_rfl, fun w _ => tidy_finish List.suffix_rfl, fun w _ => .inl ?_⟩
    exact fails_failed w
  | choice a b =>
    refine ⟨List.suffix_rfl, fun y _ => tidy_finish List.suffix_rfl, fun y _ => .inr ?_⟩
    exact ⟨hr a rfl, tidy_attempt_back b active x⟩
  | zeroOrMore a =>
    exact repeating_tidy (hr a rfl) (fun count y => tidy_finish List.suffix_rfl) x 0
  | oneOrMore a =>
    exact repeating_tidy (hr a rfl) (fun count y => tidy_back x (count > 0) y) x 0
  | optional a =>
    refine ⟨List.suffix_rfl, fun y _ => tidy_finish List.suffix_rfl, fun y _ => .inr ?_⟩
    exact ⟨hr a rfl, tidy_finish List.suffix_rfl⟩
  | reference name =>
    unfold Plan.ofRule
    dsimp only
    split
    · exact tidy_finish List.suffix_rfl
    · split
      · exact tidy_finish List.suffix_rfl
      · next b _ => exact tidy_attempt_back b (some name) x
  | action a run => exact tidy_attempt_back a active x

theorem plan_tidy (hg : g.Tidy) (a : Attempt) : (g.plan a).Tidy g a.rest := by
  cases hr : g.rule? a.rule with
  | none =>
    rw [plan_of_missing hr]
    exact tidy_finish List.suffix_rfl
  | some r =>
    rw [plan_of_rule hr]
    exact ofRule_tidy (fun b => hg hr) a.active a.rest

end

/-! ## Matches in tidy arenas -/

section

variable {g : Arena σ} {p : Plan} {a : Attempt} {c inside : Course} {e : Ending}
  {input x y : List Char}

theorem Plan.Fails.not_matched (hp : p.Fails) (h : Runs g p c e) : e.answer ≠ .ok true :=
  fun he => h.fits hp he he

/-- What a match of a rule captures is in post-order if it is inside of the rule. -/
theorem PostOrder.recorded {l : List Capture} (ha : a.rest <:+ input) (hy : y <:+ a.rest)
    (h : PostOrder (offset input a.rest) (offset input y) l) :
    PostOrder (offset input a.rest) (offset input y) (g.recorded input a ⟨.ok true, y⟩ l) := by
  unfold Arena.recorded
  split
  · have hstop : (Capture.between input a.rest y a.rule).stop = offset input y := stop_between ha hy
    rw [← hstop] at h ⊢
    exact PostOrder.mark (k := .between input a.rest y a.rule) h
  · next hfalse => cases hfalse
  · exact h

/-- What a tidy plan captures where it matches is in post-order, and was all captured by attempts
that have matched. -/
theorem Runs.postOrder (hg : g.Tidy) (h : Runs g p c e) (hp : p.Tidy g x)
    (he : e.answer = .ok true) (hx : x <:+ input) :
    PostOrder (offset input x) (offset input e.rest) (c.captures g input) ∧
      c.kept.captures g input = c.captures g input := by
  induction h generalizing x with
  | finish e => exact ⟨.nil (offset_le_offset (hp he)), rfl⟩
  | @attempt a next inside later e e' h₁ h₂ ih₁ ih₂ =>
    obtain ⟨ha, hmatched, hfailed⟩ := hp
    have hainput : a.rest <:+ input := ha.trans hx
    obtain ⟨answer, y⟩ := e
    have hy : y <:+ a.rest := h₁.rest_suffix
    match answer with
    | .ok true =>
      obtain ⟨horder, hkept⟩ := ih₁ (plan_tidy hg a) rfl hainput
      obtain ⟨horder', hkept'⟩ := ih₂ (hmatched y hy) he (hy.trans hainput)
      refine ⟨?_, ?_⟩
      · have hmade : PostOrder (offset input x) (offset input y)
            (g.recorded input a ⟨.ok true, y⟩ (inside.captures g input)) :=
          (horder.recorded hainput hy).mono (offset_le_offset ha) (Nat.le_refl _)
        exact hmade.append horder'
      · simp only [Course.kept, Course.captures, hkept, hkept']
    | .ok false =>
      rcases hfailed y hy with hfails | ⟨hclean, htidy⟩
      · exact absurd he (hfails.not_matched h₂)
      · obtain ⟨horder, hkept⟩ := ih₂ htidy he hx
        have hnone := hclean.captures_eq hainput h₁ rfl
        simp only [Course.captures, List.append_nil] at hnone
        simp only [Course.kept, Course.captures, hnone, List.nil_append]
        exact ⟨horder, hkept⟩
    | .error stop =>
      obtain ⟨-, rfl⟩ := h₂.stopped_inv rfl
      cases he

end

/-- In an arena where a rule that may fail inside of a match leaves no captures then, a match adds
captures in post-order, all of them between the places where it began and ended. They are those of
the attempts that have matched inside of attempts that have matched, and of no other, and a parse
replays them in this order. -/
theorem tidy_matches_capture_in_post_order {g : Arena σ} (hg : g.Tidy) {id : RuleId}
    {s t : MatchState} (h : Match.eval g id s = .ok true t) :
    ∃ inside added, Runs g (g.plan (s.attempt id)) inside ⟨.ok true, t.cursor.rest⟩ ∧
      t.captures = s.captures ++ added ∧ PostOrder s.position t.position added ∧
      added = Course.captures g s.cursor.input
        (Course.made (s.attempt id) inside ⟨.ok true, t.cursor.rest⟩ .none).kept ∧
      ∀ (p : Parser σ) (input : List Char) (output : σ), p.takeRoot.2.arena = g →
        p.takeRoot.2.root = some id → s = .ofText input p.takeRoot.2.debug →
          Replays g none added output (p.parse input output).1.output := by
  obtain ⟨inside, hrun, hreach⟩ := eval_ok h
  have htidy : (Plan.attempt (s.attempt id) fun matched y => .finish ⟨.ok matched, y⟩).Tidy g
      s.cursor.rest :=
    ⟨List.suffix_rfl, fun _ _ => tidy_finish List.suffix_rfl, fun y _ => .inl (fails_failed y)⟩
  obtain ⟨horder, hkept⟩ := hrun.alone.postOrder hg htidy rfl s.cursor.rest_suffix
  have hs : s.position = offset s.cursor.input s.cursor.rest := s.cursor.position_eq
  refine ⟨inside, _, hrun, hreach.captures, ?_, hkept.symm, ?_⟩
  · rw [hs, hreach.position_eq]
    exact horder
  · rintro p input output rfl hroot rfl
    have hreplays : Replays p.takeRoot.2.arena none t.captures output
        (p.parse input output).1.output := (Parser.verdict_parse hroot).replays h
    rwa [hreach.captures] at hreplays

/-- A word of letters. There is an action for each letter, and one for the word. -/
def markedWord : Arena Unit where
  rules := ⟨spaceRules ++ [.range 'a' 'z', .action ⟨10⟩ fun output _ => output,
    .zeroOrMore ⟨11⟩, .action ⟨12⟩ fun output _ => output]⟩
  names := []
  whitespace := ⟨9⟩
  warnings := []

theorem tidy_markedWord : markedWord.Tidy := by
  have h₀ : markedWord.Clean ⟨0⟩ := Arena.clean_of_literal rfl
  have h₁ : markedWord.Clean ⟨1⟩ := Arena.clean_of_literal rfl
  have h₂ : markedWord.Clean ⟨2⟩ := Arena.clean_of_literal rfl
  have h₃ : markedWord.Clean ⟨3⟩ := Arena.clean_of_literal rfl
  have h₄ : markedWord.Clean ⟨4⟩ := Arena.clean_of_literal rfl
  have h₈ : markedWord.Clean ⟨8⟩ := Arena.clean_of_choice rfl h₀ <|
    Arena.clean_of_choice rfl h₁ <| Arena.clean_of_choice rfl h₂ <|
      Arena.clean_of_choice rfl h₃ h₄
  have h₁₁ : markedWord.Clean ⟨11⟩ := Arena.clean_of_action rfl
  rintro ⟨k⟩ r b hr hb
  have hk : k < 14 := index_lt_of_rule? hr
  interval_cases k <;> cases hr <;> cases hb
  exacts [h₃, h₂, h₁, h₀, h₈, h₁₁]

theorem a_word_is_captured_behind_its_letters :
    markedWord.Tidy ∧ ∃ t,
      Match.eval markedWord ⟨13⟩ (.ofText ['a', 'b'] false) = .ok true t ∧
      t.captures.map (fun k => (k.start, k.stop, k.rule.index)) =
        [(0, 1, 11), (1, 2, 11), (0, 2, 13)] ∧
      PostOrder 0 2 t.captures := by
  have h : (match Match.eval markedWord ⟨13⟩ (.ofText ['a', 'b'] false) with
      | .error _ _ => false
      | .ok matched t => matched && t.position == 2 && t.captures.map (fun k =>
          (k.start, k.stop, k.rule.index)) == [(0, 1, 11), (1, 2, 11), (0, 2, 13)]) = true := by
    decide +kernel
  split at h
  · cases h
  · next matched t hres =>
    simp only [Bool.and_eq_true, beq_iff_eq] at h
    obtain ⟨⟨rfl, hposition⟩, hcaptures⟩ := h
    obtain ⟨inside, added, -, hadded, horder, -⟩ :=
      tidy_matches_capture_in_post_order tidy_markedWord hres
    have hall : t.captures = added := hadded
    rw [hposition, ← hall] at horder
    exact ⟨tidy_markedWord, t, hres, hcaptures, horder⟩

end Peg
