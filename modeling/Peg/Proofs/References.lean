-- References to names that stand for nothing: what the check of an arena finds of them, and how a
-- match comes to one of them and stops there.
import Mathlib.Logic.Relation
import Peg.Proofs.Growth

namespace Peg

open Text

variable {σ : Type}

/-! ## The check of an arena -/

/-- The rule is a reference to a name that stands for nothing. -/
def Arena.Dangles (g : Arena σ) (id : RuleId) (name : String) : Prop :=
  g.rule? id = some (.reference name) ∧ g.named? name = none

section

variable {g : Arena σ} {r : Rule σ} {id : RuleId} {name : String} {e : GrammarError}

theorem dangling?_eq_some_iff :
    g.dangling? r = some name ↔ r = .reference name ∧ g.named? name = none := by
  cases r with
  | reference other =>
    simp only [Arena.dangling?, Option.isNone_iff_eq_none, Option.ite_none_right_eq_some,
      Option.some.injEq, Rule.reference.injEq]
    constructor
    · rintro ⟨hnone, rfl⟩
      exact ⟨rfl, hnone⟩
    · rintro ⟨rfl, hnone⟩
      exact ⟨hnone, rfl⟩
  | _ => simp [Arena.dangling?]

theorem dangles_iff : g.Dangles id name ↔ (g.rule? id).bind g.dangling? = some name := by
  rw [Option.bind_eq_some_iff]
  constructor
  · rintro ⟨hr, hnone⟩
    exact ⟨_, hr, dangling?_eq_some_iff.2 ⟨rfl, hnone⟩⟩
  · rintro ⟨r, hr, hd⟩
    obtain ⟨rfl, hnone⟩ := dangling?_eq_some_iff.1 hd
    exact ⟨hr, hnone⟩

theorem Arena.Dangles.unnamed (h : g.Dangles id name) : ¬ (g.named? name).isSome := by
  rw [Option.not_isSome_iff_eq_none]
  exact h.2

theorem mem_rules_iff : r ∈ g.rules.toList ↔ ∃ id, g.rule? id = some r := by
  rw [List.mem_iff_getElem?]
  constructor
  · rintro ⟨k, hk⟩
    exact ⟨⟨k⟩, by rwa [Arena.rule?, ← Array.getElem?_toList]⟩
  · rintro ⟨⟨k⟩, hk⟩
    exact ⟨k, by rwa [Arena.rule?, ← Array.getElem?_toList] at hk⟩

/-- The check passes the arenas that have no such reference. -/
theorem validate_eq_ok_iff_forall : g.validate = .ok () ↔ ∀ id name, ¬ g.Dangles id name := by
  rw [g.validate_eq_ok_iff]
  constructor
  · intro h id name hd
    exact hd.unnamed (h name (mem_rules_iff.2 ⟨id, hd.1⟩))
  · intro h name hmem
    obtain ⟨id, hr⟩ := mem_rules_iff.1 hmem
    rw [Option.isSome_iff_ne_none]
    exact fun hnone => h id name ⟨hr, hnone⟩

theorem lowest_of_validate (h : g.validate = .error e) :
    ∃ id name, e = .unknownRule name ∧ g.Dangles id name ∧
      ∀ id' name', g.Dangles id' name' → id.index ≤ id'.index := by
  unfold Arena.validate at h
  split at h
  · next name hfound =>
    cases h
    obtain ⟨before, r, after, hrules, hd, hbefore⟩ := List.findSome?_eq_some_iff.1 hfound
    refine ⟨⟨before.length⟩, name, rfl, ?_, ?_⟩
    · rw [dangles_iff, Arena.rule?, ← Array.getElem?_toList, hrules]
      simpa using hd
    · rintro ⟨k⟩ name' hk
      -- whatever stands before the one that is found is no such reference
      by_contra hle
      have hlt : k < before.length := Nat.lt_of_not_le hle
      rw [dangles_iff, Arena.rule?, ← Array.getElem?_toList, hrules,
        List.getElem?_append_left hlt, List.getElem?_eq_getElem hlt, Option.bind_some,
        hbefore _ (List.getElem_mem hlt)] at hk
      cases hk
  · cases h

/-- The check finds the reference with the lowest index. -/
theorem validate_eq_error_iff :
    g.validate = .error e ↔ ∃ id name, e = .unknownRule name ∧ g.Dangles id name ∧
      ∀ id' name', g.Dangles id' name' → id.index ≤ id'.index := by
  constructor
  · exact lowest_of_validate
  · rintro ⟨id, name, rfl, hd, hlowest⟩
    cases hvalid : g.validate with
    | ok => exact absurd hd (validate_eq_ok_iff_forall.1 hvalid id name)
    | error e =>
      obtain ⟨id', name', rfl, hd', hlowest'⟩ := lowest_of_validate hvalid
      have hid : id' = id :=
        congrArg RuleId.mk (Nat.le_antisymm (hlowest' id name hd) (hlowest id' name' hd'))
      have hrule := hd'.1
      rw [hid, hd.1] at hrule
      cases hrule
      rfl

end

/-! ## Stops at an unknown name -/

section

variable {g : Arena σ} {p : Plan} {a : Attempt} {r : Rule σ} {c : Course} {e : Ending}
  {name : String}

/-- A match stops at a reference of the arena only. -/
theorem Runs.dangles (h : Runs g (g.plan a) c e) (he : e.answer = .error (.unknownRule name)) :
    ∃ id, g.Dangles id name := by
  have hall : ∀ b, True → (g.plan b).Obeys (fun _ => True)
      (fun e => e.answer = .error (.unknownRule name) → ∃ id, g.Dangles id name) := by
    intro b _
    cases hr : g.rule? b.rule with
    | none =>
      rw [plan_of_missing hr]
      intro hstop
      cases hstop
    | some r =>
      refine (plan_obeys hr).mono (fun _ _ => trivial) ?_
      rintro e ⟨-, hends⟩ hstop
      obtain ⟨-, hat⟩ := hends _ hstop
      cases hat with
      | unknownRule hnone => exact ⟨b.rule, hr, hnone⟩
  exact h.fits_of_all hall (hall a trivial) he

/-- An error of a match is about the name of such a reference. -/
theorem dangles_of_eval_error {s t : MatchState} {id : RuleId} {e : GrammarError}
    (h : Match.eval g id s = .error (.error e) t) :
    ∃ name, e = .unknownRule name ∧ ∃ id', g.Dangles id' name := by
  obtain ⟨name, inside, rfl, hrun, -⟩ := eval_unknownRule h
  exact ⟨name, rfl, hrun.dangles rfl⟩

/-! ## The way to a stop -/

/-- The attempts of a course that have come to no answer, each inside of the one before it. -/
def Course.unanswered : Course → List Attempt
  | .none => []
  | .made a inside e later =>
    match e.answer with
    | .ok _ => later.unanswered
    | .error _ => a :: inside.unanswered

/-- The attempts lead to a reference without a rule. Each is at a rule of the arena and is made
inside of the one before it, and the last one is at the reference. -/
inductive LeadsTo (g : Arena σ) (name : String) : List Attempt → Prop where
  | here {a : Attempt} : g.Dangles a.rule name → LeadsTo g name [a]
  | inside {a b : Attempt} {r : Rule σ} {path : List Attempt} :
    g.rule? a.rule = some r → Inner g a.active a.rest r b → LeadsTo g name (b :: path) →
      LeadsTo g name (a :: b :: path)

theorem Runs.rule_of_stop (h : Runs g (g.plan a) c e)
    (he : e.answer = .error (.unknownRule name)) : ∃ r, g.rule? a.rule = some r := by
  cases hr : g.rule? a.rule with
  | some r => exact ⟨r, rfl⟩
  | none =>
    rw [plan_of_missing hr] at h
    obtain ⟨-, rfl⟩ := h.finish_inv
    cases he

/-- The attempts without an answer lead to the reference that is the reason for it. -/
theorem Runs.leadsTo (h : Runs g p c e) (hr : g.rule? a.rule = some r)
    (hp : p.Obeys (Inner g a.active a.rest r) (MayEnd g a.rest r))
    (he : e.answer = .error (.unknownRule name)) : LeadsTo g name (a :: c.unanswered) := by
  induction h generalizing a r with
  | finish e =>
    obtain ⟨-, hat⟩ := hp.2 _ he
    cases hat with
    | unknownRule hnone => exact .here ⟨hr, hnone⟩
  | @attempt b next inside later e e' h₁ h₂ ih₁ ih₂ =>
    cases hans : e.answer with
    | ok matched =>
      rw [Ending.follow_ok hans] at ih₂
      simp only [Course.unanswered, hans]
      exact ih₂ hr (hp.2 _ _ h₁.rest_suffix) he
    | error stop =>
      obtain ⟨-, rfl⟩ := h₂.stopped_inv hans
      obtain ⟨r', hr'⟩ := h₁.rule_of_stop he
      simp only [Course.unanswered, hans]
      exact .inside hr hp.1 (ih₁ hr' (plan_obeys hr') he)

/-- Each attempt without an answer leaves a rule open. -/
theorem Runs.unclosed_eq_length (h : Runs g p c e) (he : e.answer = .error (.unknownRule name)) :
    c.unclosed g = c.unanswered.length := by
  induction h with
  | finish e => rfl
  | @attempt a next inside later e e' h₁ h₂ ih₁ ih₂ =>
    cases hans : e.answer with
    | ok matched => simp [Course.unclosed, Course.unanswered, hans, ih₂ he]
    | error stop =>
      obtain ⟨rfl, rfl⟩ := h₂.stopped_inv hans
      obtain ⟨r, hr⟩ := h₁.rule_of_stop he
      simp [Course.unclosed, Course.unanswered, hans, hr, ih₁ he]

end

/-! ## Calls on an arena -/

/-- One call on an arena, of texts, names and rules that it has. -/
inductive Arena.Step (g : Arena σ) : Arena σ → Prop where
  | call {x : Build σ RuleId} : g.Call x → g.Step (x.run g).2
  | sequenceOf {ids : List RuleId} :
    (∀ id ∈ ids, id.index < g.size) → g.Step ((Build.sequenceOf ids).run.run g).2
  | spacedOf {ids : List RuleId} :
    (∀ id ∈ ids, id.index < g.size) → g.Step ((Build.spacedOf ids).run.run g).2
  | choiceOf {ids : List RuleId} :
    (∀ id ∈ ids, id.index < g.size) → g.Step ((Build.choiceOf ids).run.run g).2
  | register (name : String) {id : RuleId} :
    id.index < g.size → g.Step ((Build.register name id).run g).2
  | attach (name : String) (run : Action σ) : g.Step ((Build.attach name run).run.run g).2
  | setWhitespace {id : RuleId} : id.index < g.size → g.Step ((Build.setWhitespace id).run g).2

section

variable {g h : Arena σ}

theorem Arena.Call.keeping {x : Build σ RuleId} (h : g.Call x) : x.Keeping := by
  cases h with
  | literal | range | reference => exact Build.keeping_push _
  | pattern source => exact Build.keeping_pattern source
  | not | endOfInput | zeroOrMore | oneOrMore | optional | action =>
    exact Build.keeping_unary _ _
  | oneOrMoreSpaced => exact Build.keeping_oneOrMoreSpaced _
  | sequence | spaced | choice => exact Build.keeping_binary _ _ _

theorem Arena.Step.extends (hstep : g.Step h) : g.Extends h := by
  cases hstep with
  | call hx => exact (hx.keeping g).extends
  | sequenceOf | spacedOf | choiceOf => exact (Build.keeping_chainAll _ _ g).extends
  | register name => exact Build.extends_register g name _
  | attach name run => exact Build.extends_attach g name run
  | setWhitespace => exact Build.extends_setWhitespace g _

theorem extends_of_steps (hsteps : Relation.ReflTransGen Arena.Step g h) : g.Extends h := by
  induction hsteps with
  | refl => exact .refl g
  | tail _ hstep ih => exact ih.trans hstep.extends

/-- Rules that are added can do no harm if their names are known. -/
theorem Arena.Extends.validate (hgh : g.Extends h) (hg : g.validate = .ok ())
    (hnew : ∀ id name, g.rule? id = none → h.rule? id = some (.reference name) →
      (h.named? name).isSome) : h.validate = .ok () := by
  rw [validate_eq_ok_iff_forall] at hg ⊢
  intro id name hd
  cases hold : g.rule? id with
  | none => exact hd.unnamed (hnew id name hold hd.1)
  | some r =>
    have hr := hgh.rule hold
    rw [hd.1] at hr
    cases hr
    have hsome : (g.named? name).isSome :=
      Option.isSome_iff_ne_none.2 fun hgone => hg id name ⟨hold, hgone⟩
    exact hd.unnamed (hgh.named hsome)

end

/-- No rule of an arena that the check passes comes to an unknown name, and neither does one of what
calls make of it, as long as all names that they refer to stand for rules in the end. The check
finds the reference with the lowest index otherwise, and an error of a match is always about a
reference of the arena. -/
theorem the_check_finds_unknown_names (g : Arena σ) :
    (g.validate = .ok () → ∀ h, Relation.ReflTransGen Arena.Step g h →
      (∀ id name, g.rule? id = none → h.rule? id = some (.reference name) →
        (h.named? name).isSome) →
      h.validate = .ok () ∧ ∀ id s e t, Match.eval h id s ≠ .error (.error e) t) ∧
    (∀ e, g.validate = .error e ↔ ∃ id name, e = .unknownRule name ∧ g.Dangles id name ∧
      ∀ id' name', g.Dangles id' name' → id.index ≤ id'.index) ∧
    ∀ id s e t, Match.eval g id s = .error (.error e) t →
      ∃ name, e = .unknownRule name ∧ ∃ id', g.Dangles id' name := by
  refine ⟨?_, fun e => validate_eq_error_iff, fun id s e t => dangles_of_eval_error⟩
  intro hg h hsteps hnew
  have hvalid := (extends_of_steps hsteps).validate hg hnew
  refine ⟨hvalid, ?_⟩
  intro id s e t hres
  obtain ⟨name, -, id', hd⟩ := dangles_of_eval_error hres
  exact validate_eq_ok_iff_forall.1 hvalid id' name hd

/-- A new arena with a reference to a name. -/
def waiting : Arena Unit := ((Build.reference "later").run .fresh).2

theorem a_name_may_be_given_later :
    (∃ t, Match.eval waiting ⟨10⟩ (.ofText ['1'] false) =
        .error (.error (.unknownRule "later")) t ∧ ∃ id, waiting.Dangles id "later") ∧
      (waiting.register "later" ⟨9⟩).validate = .ok () ∧ ∀ id s e t,
        Match.eval (waiting.register "later" ⟨9⟩) id s ≠ .error (.error e) t := by
  constructor
  · obtain ⟨-, -, hstops⟩ := the_check_finds_unknown_names waiting
    obtain ⟨t, hres⟩ : ∃ t, Match.eval waiting ⟨10⟩ (.ofText ['1'] false) =
      .error (.error (.unknownRule "later")) t := ⟨_, rfl⟩
    obtain ⟨name, hname, hd⟩ := hstops _ _ _ _ hres
    cases hname
    exact ⟨t, hres, hd⟩
  · obtain ⟨hchecked, -, -⟩ := the_check_finds_unknown_names (.fresh : Arena Unit)
    refine hchecked rfl _ (.tail (.single (.call (.reference "later"))) (.register "later" ?_)) ?_
    · decide
    · intro id name hnone hr
      have hr' : ((Build.push (.reference "later")).run (.fresh : Arena Unit)).2.rule? id =
          some (.reference name) := hr
      rw [rule?_push] at hr'
      split at hr'
      · cases hr'
        rfl
      · rw [hnone] at hr'
        cases hr'

end Peg
