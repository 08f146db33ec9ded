-- When the definition of a parser runs. It waits for the first call that needs a rule to begin
-- with. If another call has given one by then, it never runs, and one that fails is gone for good.
import Peg.Proofs.Replaying

namespace Peg.Parser

variable {σ : Type}

/-! ## Calls -/

/-- Something that is asked of a parser. -/
inductive Call (σ : Type) where
  | root
  | parse (input : List Char) (output : σ)
  | setRoot (root : RuleId)
  | setDebug (debug : Bool)
  | setWhitespace (id : RuleId)
  | register (name : String) (id : RuleId)
  /-- Any steps on the rules of the parser. -/
  | build (steps : Build σ Unit)

inductive Answer (σ : Type) where
  | done
  | root (found : Except Halt RuleId)
  | outcome (o : Outcome σ)

/-- Why a call has come to nothing, if it has. -/
def Answer.halt? : Answer σ → Option Halt
  | root (.error halt) | outcome ⟨.error halt, _, _⟩ => some halt
  | _ => none

theorem Answer.halt?_root {found : Except Halt RuleId} {halt : Halt} :
    (root found : Answer σ).halt? = some halt ↔ found = .error halt := by
  cases found <;> simp [halt?]

theorem Answer.halt?_outcome {o : Outcome σ} {halt : Halt} :
    (outcome o).halt? = some halt ↔ o.result = .error halt := by
  obtain ⟨_ | _, _, _⟩ := o <;> simp [halt?]

def Call.perform (p : Parser σ) : Call σ → Answer σ × Parser σ
  | root => (.root p.takeRoot.1, p.takeRoot.2)
  | parse input output => (.outcome (p.parse input output).1, (p.parse input output).2)
  | setRoot id => (.done, p.setRoot id)
  | setDebug debug => (.done, p.setDebug debug)
  | setWhitespace id => (.done, (p.build (Build.setWhitespace id)).2)
  | register name id => (.done, (p.build (Build.register name id)).2)
  | build steps => (.done, (p.build steps).2)

/-- The parser behind calls, one after another. -/
def after (p : Parser σ) (calls : List (Call σ)) : Parser σ :=
  calls.foldl (fun p c => (c.perform p).2) p

/-- The call needs a rule to begin with. -/
def Call.needsRoot : Call σ → Bool
  | root | parse _ _ => true
  | setRoot _ | setDebug _ | setWhitespace _ | register _ _ | build _ => false

/-- The call gives the parser a rule to begin with. -/
def Call.setsRoot : Call σ → Bool
  | setRoot _ => true
  | root | parse _ _ | setDebug _ | setWhitespace _ | register _ _ | build _ => false

/-- The call runs the definition, whichever that is. The rules are what the definition makes of
them, and it is gone, also if it fails, and then so does the call. -/
structure Call.RunsDefinition (c : Call σ) (p : Parser σ) : Prop where
  given : p.definition.isSome
  runs : ∀ e : Definition σ, (c.perform { p with definition := some e }).2 =
    { p with
      arena := (e.run.run p.arena).2
      root := (e.run.run p.arena).1.toOption
      definition := none }
  fails : ∀ (e : Definition σ) (fault : Fault), (e.run.run p.arena).1 = .error fault →
    (c.perform { p with definition := some e }).1.halt? = some (.fault fault)

/-- The call does the same with any definition and without one, and leaves it where it is. -/
def Call.LeavesDefinition (c : Call σ) (p : Parser σ) : Prop :=
  ∀ e : Option (Definition σ), c.perform { p with definition := e } =
    ((c.perform p).1, { (c.perform p).2 with definition := e })

/-! ## One call -/

section

variable {p : Parser σ} {c : Call σ} {root : RuleId}

theorem Call.perform_of_needsRoot (h : c.needsRoot) (p : Parser σ) :
    (c.perform p).2 = p.takeRoot.2 := by
  cases c with
  | root => rfl
  | parse input output => exact p.parse_snd input output
  | _ => cases h

theorem parse_of_root (hroot : p.root = some root) (input : List Char) (output : σ) :
    p.parse input output = (p.parseFrom root input output, p) := by
  rw [Parser.parse, takeRoot_of_root hroot]

theorem parse_of_halt {halt : Halt} (herror : p.takeRoot.1 = .error halt) (input : List Char)
    (output : σ) : p.parse input output = (⟨.error halt, output, []⟩, p.takeRoot.2) := by
  have hpair : p.takeRoot = (.error halt, p.takeRoot.2) := Prod.ext herror rfl
  rw [Parser.parse, hpair]

/-- A call that needs a rule to begin with fails where there is none. -/
theorem Call.halt_of_needsRoot (h : c.needsRoot) {halt : Halt}
    (herror : p.takeRoot.1 = .error halt) : (c.perform p).1.halt? = some halt := by
  cases c with
  | root => exact Answer.halt?_root.2 herror
  | parse input output =>
    rw [perform, parse_of_halt herror]
    rfl
  | _ => cases h

theorem Call.runsDefinition_of_missing (h : c.needsRoot) (hroot : p.root = none)
    (hgiven : p.definition.isSome) : c.RunsDefinition p where
  given := hgiven
  runs e := by
    have hroot' : ({ p with definition := some e } : Parser σ).root = none := hroot
    rw [perform_of_needsRoot h, takeRoot_of_definition hroot' rfl]
  fails e fault hfault := by
    have hroot' : ({ p with definition := some e } : Parser σ).root = none := hroot
    apply halt_of_needsRoot h
    rw [takeRoot_of_definition hroot' rfl, hfault]
    rfl

theorem Call.leavesDefinition_of_root (hroot : p.root = some root) : c.LeavesDefinition p := by
  intro e
  have hroot' : ({ p with definition := e } : Parser σ).root = some root := hroot
  cases c with
  | root => rw [perform, perform, takeRoot_of_root hroot, takeRoot_of_root hroot']
  | parse input output =>
    rw [perform, perform, parse_of_root hroot, parse_of_root hroot']
    rfl
  | _ => rfl

theorem Call.leavesDefinition_of_not_needsRoot (h : ¬ c.needsRoot) : c.LeavesDefinition p := by
  intro e
  cases c with
  | root | parse => exact absurd rfl h
  | _ => rfl

theorem Call.LeavesDefinition.not_runs (h : c.LeavesDefinition p) : ¬ c.RunsDefinition p := by
  intro hruns
  obtain ⟨e, -⟩ := Option.isSome_iff_exists.1 hruns.given
  have hgone := congrArg Parser.definition (hruns.runs e)
  rw [h (some e)] at hgone
  cases hgone

theorem Call.RunsDefinition.root_perform {e : Definition σ} (h : c.RunsDefinition p)
    (he : p.definition = some e) :
    (c.perform p).2.root = (e.run.run p.arena).1.toOption ∧ (c.perform p).2.definition = none := by
  have hruns := h.runs e
  rw [← he] at hruns
  exact ⟨congrArg Parser.root hruns, congrArg Parser.definition hruns⟩

/-- A call runs the definition if it needs a rule to begin with and there is none. -/
theorem Call.runsDefinition_iff :
    c.RunsDefinition p ↔ c.needsRoot ∧ p.root = none ∧ p.definition.isSome := by
  constructor
  · intro hruns
    refine ⟨?_, ?_, hruns.given⟩
    · by_contra hneeds
      exact (leavesDefinition_of_not_needsRoot hneeds).not_runs hruns
    · by_contra hroot
      obtain ⟨root, hroot⟩ := Option.ne_none_iff_exists'.1 hroot
      exact (leavesDefinition_of_root hroot).not_runs hruns
  · rintro ⟨hneeds, hroot, hgiven⟩
    exact runsDefinition_of_missing hneeds hroot hgiven

theorem Settled.not_runsDefinition (h : p.Settled) : ¬ c.RunsDefinition p := by
  rw [Call.runsDefinition_iff]
  rintro ⟨-, hroot, hgiven⟩
  rcases h with hsome | hnone
  · rw [hroot] at hsome
    cases hsome
  · rw [hnone] at hgiven
    cases hgiven

/-- A call that does not run the definition has nothing to do with it, or there is none. -/
theorem Call.leavesDefinition_or_none (h : ¬ c.RunsDefinition p) :
    c.LeavesDefinition p ∨ p.definition = none ∧ (c.perform p).2.definition = none := by
  by_cases hneeds : c.needsRoot
  · cases hroot : p.root with
    | some root => exact .inl (leavesDefinition_of_root hroot)
    | none =>
      have hgone : p.definition = none := by
        by_contra hgiven
        exact h (runsDefinition_of_missing hneeds hroot (Option.isSome_iff_ne_none.2 hgiven))
      rw [perform_of_needsRoot hneeds, takeRoot_of_missing hroot hgone]
      exact .inr ⟨hgone, hgone⟩
  · exact .inl (leavesDefinition_of_not_needsRoot hneeds)

/-- A rule to begin with that a call has answered or set is there from then on. -/
theorem Call.root_of_answer
    (h : (c.perform p).1 = .root (.ok root) ∨ c = .setRoot root) :
    (c.perform p).2.root = some root := by
  rcases h with hanswer | rfl
  · cases c with
    | root =>
      rcases p.takeRoot_cases with ⟨root', next, hok, hnext⟩ | ⟨halt, next, herror, -⟩
      · rw [perform, hok] at hanswer ⊢
        cases hanswer
        exact hnext
      · rw [perform, herror] at hanswer
        cases hanswer
    | _ => cases hanswer
  · rfl

/-- The call needs a rule to begin with, or gives one. -/
def Call.touches (c : Call σ) : Bool := c.needsRoot || c.setsRoot

/-- What a call does to the rule to begin with, and to the definition. -/
inductive Call.Effect (c : Call σ) (p : Parser σ) : Prop where
  | takes : c.needsRoot → (c.perform p).2 = p.takeRoot.2 → Effect c p
  | sets (root : RuleId) : c.setsRoot → (c.perform p).2.root = some root → Effect c p
  | keeps : ¬ c.touches → (c.perform p).2.root = p.root →
    (c.perform p).2.definition = p.definition → Effect c p

theorem Call.effect (c : Call σ) (p : Parser σ) : c.Effect p := by
  cases c with
  | root | parse => exact .takes rfl (perform_of_needsRoot rfl p)
  | setRoot id => exact .sets id rfl rfl
  | setDebug | setWhitespace | register | build =>
    exact .keeps (by simp [touches, needsRoot, setsRoot]) rfl rfl

theorem Call.perform_of_not_touches (h : ¬ c.touches) :
    (c.perform p).2.root = p.root ∧ (c.perform p).2.definition = p.definition := by
  rcases c.effect p with ⟨hneeds, -⟩ | ⟨root, hsets, -⟩ | ⟨-, hroot, hdefinition⟩
  · exact absurd (by simp [touches, hneeds]) h
  · exact absurd (by simp [touches, hsets]) h
  · exact ⟨hroot, hdefinition⟩

/-- From such a call on there is a rule to begin with, or nothing that could give one. -/
theorem Call.settled_perform (h : c.touches ∨ p.Settled) : (c.perform p).2.Settled := by
  rcases c.effect p with ⟨-, htaken⟩ | ⟨root, -, hset⟩ | ⟨huntouched, hroot, hdefinition⟩
  · rw [htaken]
    exact p.keeps_takeRoot.settled
  · exact .inl (by rw [hset]; rfl)
  · rw [Settled, hroot, hdefinition]
    exact h.resolve_left huntouched

/-- The rule to begin with stays until another one is set. -/
theorem Call.root_perform (hroot : p.root = some root) (h : ¬ c.setsRoot) :
    (c.perform p).2.root = some root := by
  rcases c.effect p with ⟨-, htaken⟩ | ⟨root', hsets, -⟩ | ⟨-, hkept, -⟩
  · rw [htaken, takeRoot_of_root hroot]
    exact hroot
  · exact absurd hsets h
  · rw [hkept, hroot]

theorem Call.root_perform_ne_none (h : p.root ≠ none) : (c.perform p).2.root ≠ none := by
  rcases c.effect p with ⟨-, htaken⟩ | ⟨root, -, hset⟩ | ⟨-, hkept, -⟩
  · obtain ⟨root, hroot⟩ := Option.ne_none_iff_exists'.1 h
    rw [htaken, takeRoot_of_root hroot]
    exact h
  · rw [hset]
    exact Option.some_ne_none root
  · rwa [hkept]

theorem Call.root_perform_of_setsRoot (h : c.setsRoot) : (c.perform p).2.root ≠ none := by
  cases c with
  | setRoot id => exact Option.some_ne_none id
  | _ => cases h

/-- What is missing stays missing until a rule to begin with is set. -/
theorem Call.missing_perform (hroot : p.root = none) (hgone : p.definition = none)
    (h : ¬ c.setsRoot) :
    (c.perform p).2.root = none ∧ (c.perform p).2.definition = none := by
  rcases c.effect p with ⟨-, htaken⟩ | ⟨root', hsets, -⟩ | ⟨-, hroot', hdefinition⟩
  · rw [htaken, takeRoot_of_missing hroot hgone]
    exact ⟨hroot, hgone⟩
  · exact absurd hsets h
  · exact ⟨hroot'.trans hroot, hdefinition.trans hgone⟩

/-! ## No rule to begin with -/

theorem eval_ne_missingRoot (g : Arena σ) (id : RuleId) (s t : MatchState) :
    Match.eval g id s ≠ .error (.error .missingRoot) t := by
  intro hres
  obtain ⟨inside, stop, hhalt, -⟩ := eval_error hres (by simp)
  cases stop <;> cases hhalt

theorem takeRoot_eq_missingRoot_iff :
    p.takeRoot.1 = .error (.error .missingRoot) ↔ p.root = none ∧ p.definition = none := by
  constructor
  · intro hmissing
    cases hroot : p.root with
    | some root =>
      rw [takeRoot_of_root hroot] at hmissing
      cases hmissing
    | none =>
      cases hdefinition : p.definition with
      | none => exact ⟨rfl, rfl⟩
      | some e =>
        rw [takeRoot_of_definition hroot hdefinition] at hmissing
        cases hanswer : (e.run.run p.arena).1 with
        | error fault => rw [hanswer] at hmissing; cases hmissing
        | ok root => rw [hanswer] at hmissing; cases hmissing
  · rintro ⟨hroot, hdefinition⟩
    rw [takeRoot_of_missing hroot hdefinition]

/-- A call says that there is no rule to begin with exactly if it needs one and nothing is there to
give it. -/
theorem Call.halt_eq_missingRoot_iff :
    (c.perform p).1.halt? = some (.error .missingRoot) ↔
      c.needsRoot ∧ p.root = none ∧ p.definition = none := by
  rw [← takeRoot_eq_missingRoot_iff]
  constructor
  · intro hhalt
    cases c with
    | root => exact ⟨rfl, Answer.halt?_root.1 hhalt⟩
    | parse input output =>
      refine ⟨rfl, ?_⟩
      have hresult : (p.parse input output).1.result = .error (.error .missingRoot) :=
        Answer.halt?_outcome.1 hhalt
      cases hroot : p.takeRoot.2.root with
      | some root =>
        -- no match ends for want of a rule to begin with
        obtain ⟨t, ht⟩ := ((verdict_parse hroot).eq_error_iff _).1 hresult
        exact absurd ht (eval_ne_missingRoot _ _ _ _)
      | none =>
        obtain ⟨halt, herror, hparse⟩ := parse_of_no_root input output hroot
        rw [hparse] at hresult
        cases hresult
        exact herror
    | setRoot | setDebug | setWhitespace | register | build => cases hhalt
  · rintro ⟨hneeds, hmissing⟩
    exact halt_of_needsRoot hneeds hmissing

end

/-! ## Any number of calls -/

section

variable {p : Parser σ} {c : Call σ} {root : RuleId} {calls : List (Call σ)}

theorem after_append (p : Parser σ) (before later : List (Call σ)) :
    p.after (before ++ later) = (p.after before).after later := List.foldl_append

theorem after_cons (p : Parser σ) (c : Call σ) (later : List (Call σ)) :
    p.after (c :: later) = (c.perform p).2.after later := rfl

/-- What each of some calls keeps, all of them keep. -/
theorem after_keeps {P : Parser σ → Prop} (h : ∀ c ∈ calls, ∀ q, P q → P (Call.perform q c).2)
    (hp : P p) : P (p.after calls) := by
  induction calls generalizing p with
  | nil => exact hp
  | cons c more ih =>
    obtain ⟨hc, hmore⟩ := List.forall_mem_cons.1 h
    exact ih hmore (hc p hp)

theorem settled_after (h : p.Settled) : (p.after calls).Settled :=
  after_keeps (fun _ _ _ hq => Call.settled_perform (.inr hq)) h

theorem settled_after_touched (h : ∃ c ∈ calls, c.touches) : (p.after calls).Settled := by
  obtain ⟨c, hc, htouches⟩ := h
  obtain ⟨before, later, rfl⟩ := List.append_of_mem hc
  rw [after_append, after_cons]
  exact settled_after (Call.settled_perform (.inl htouches))

theorem untouched_after (h : ∀ c ∈ calls, ¬ c.touches) :
    (p.after calls).root = p.root ∧ (p.after calls).definition = p.definition := by
  refine after_keeps (P := fun q => q.root = p.root ∧ q.definition = p.definition) ?_ ⟨rfl, rfl⟩
  rintro c hc q ⟨hroot, hdefinition⟩
  obtain ⟨hroot', hdefinition'⟩ := Call.perform_of_not_touches (p := q) (h c hc)
  exact ⟨hroot'.trans hroot, hdefinition'.trans hdefinition⟩

theorem root_after (hroot : p.root = some root) (h : ∀ c ∈ calls, ¬ c.setsRoot) :
    (p.after calls).root = some root :=
  after_keeps (P := fun q => q.root = some root) (fun c hc _ hq => Call.root_perform hq (h c hc))
    hroot

theorem root_after_ne_none (h : p.root ≠ none) : (p.after calls).root ≠ none :=
  after_keeps (P := fun q => q.root ≠ none) (fun _ _ _ hq => Call.root_perform_ne_none hq) h

theorem root_after_setsRoot (h : ∃ c ∈ calls, c.setsRoot) : (p.after calls).root ≠ none := by
  obtain ⟨c, hc, hsets⟩ := h
  obtain ⟨before, later, rfl⟩ := List.append_of_mem hc
  rw [after_append, after_cons]
  exact root_after_ne_none (Call.root_perform_of_setsRoot hsets)

theorem missing_after (hroot : p.root = none) (hgone : p.definition = none)
    (h : ∀ c ∈ calls, ¬ c.setsRoot) :
    (p.after calls).root = none ∧ (p.after calls).definition = none :=
  after_keeps (P := fun q => q.root = none ∧ q.definition = none)
    (fun c hc _ hq => Call.missing_perform hq.1 hq.2 (h c hc)) ⟨hroot, hgone⟩

end

/-- A parser with a definition, or without one, that has not been called yet. -/
def unused (d : Option (Definition σ)) : Parser σ := { empty with definition := d }

/-- Some call has run the definition, and the definition has failed. -/
def FailedIn (d : Option (Definition σ)) (calls : List (Call σ)) : Prop :=
  ∃ before c later e fault, calls = before ++ c :: later ∧ d = some e ∧
    c.RunsDefinition ((unused d).after before) ∧
    (e.run.run ((unused d).after before).arena).1 = .error fault

section

variable {d : Option (Definition σ)} {before : List (Call σ)} {c : Call σ}

/-- The definition runs in the first call that needs a rule to begin with, unless some call has
given one before. -/
theorem runsDefinition_after_iff :
    c.RunsDefinition ((unused d).after before) ↔
      d.isSome ∧ c.needsRoot ∧ ∀ b ∈ before, ¬ b.touches := by
  constructor
  · intro hruns
    obtain ⟨hneeds, -, hgiven⟩ := Call.runsDefinition_iff.1 hruns
    have huntouched : ∀ b ∈ before, ¬ b.touches := fun b hb htouches =>
      (settled_after_touched ⟨b, hb, htouches⟩).not_runsDefinition hruns
    obtain ⟨-, hdefinition⟩ := untouched_after (p := unused d) huntouched
    rw [hdefinition] at hgiven
    exact ⟨hgiven, hneeds, huntouched⟩
  · rintro ⟨hgiven, hneeds, huntouched⟩
    obtain ⟨hroot, hdefinition⟩ := untouched_after (p := unused d) huntouched
    exact Call.runsDefinition_of_missing hneeds hroot (by rw [hdefinition]; exact hgiven)

/-- The first of the calls that touches a parser finds its definition as it was given. -/
theorem exists_first_touch (h : ∃ b ∈ before, b.touches) :
    ∃ earlier c later, before = earlier ++ c :: later ∧ c.touches ∧
      ((unused d).after earlier).definition = d ∧ ∀ b ∈ earlier, ¬ b.touches := by
  obtain ⟨c, hc⟩ := Option.isSome_iff_exists.1 (List.find?_isSome.2 h)
  obtain ⟨htouches, earlier, later, rfl, huntouched⟩ := List.find?_eq_some_iff_append.1 hc
  have huntouched' : ∀ b ∈ earlier, ¬ b.touches := fun b hb => by simpa using huntouched b hb
  exact ⟨earlier, c, later, rfl, htouches, (untouched_after huntouched').2, huntouched'⟩

/-- A definition that has run and is not the reason for a rule to begin with has failed. -/
theorem failed_of_missing {e : Definition σ}
    (hroot : ((unused (some e)).after before).root = none)
    (hgone : ((unused (some e)).after before).definition = none) : FailedIn (some e) before := by
  have htouched : ∃ b ∈ before, b.touches := by
    by_contra hnone
    have huntouched : ∀ b ∈ before, ¬ b.touches := fun b hb ht => hnone ⟨b, hb, ht⟩
    rw [(untouched_after huntouched).2] at hgone
    cases hgone
  obtain ⟨earlier, c, later, rfl, htouches, hgiven, huntouched⟩ :=
    exists_first_touch (d := some e) htouched
  rw [after_append, after_cons] at hroot
  have hneeds : c.needsRoot := by
    cases hneeds : c.needsRoot with
    | true => rfl
    | false =>
      have hsets : c.setsRoot := by simpa [Call.touches, hneeds] using htouches
      exact absurd hroot (root_after_ne_none (Call.root_perform_of_setsRoot hsets))
  have hruns : c.RunsDefinition ((unused (some e)).after earlier) :=
    runsDefinition_after_iff.2 ⟨rfl, hneeds, huntouched⟩
  obtain ⟨hfound, -⟩ := hruns.root_perform hgiven
  cases hanswer : (e.run.run ((unused (some e)).after earlier).arena).1 with
  | error fault => exact ⟨earlier, c, later, e, fault, rfl, rfl, hruns, hanswer⟩
  | ok root =>
    refine absurd hroot (root_after_ne_none ?_)
    rw [hfound, hanswer]
    exact Option.some_ne_none root

/-- There is neither a rule to begin with nor a definition if none of them has ever been given, or
the definition has failed. -/
theorem missing_after_iff :
    ((unused d).after before).root = none ∧ ((unused d).after before).definition = none ↔
      (∀ b ∈ before, ¬ b.setsRoot) ∧ (d = none ∨ FailedIn d before) := by
  constructor
  · rintro ⟨hroot, hgone⟩
    refine ⟨fun b hb hsets => root_after_setsRoot ⟨b, hb, hsets⟩ hroot, ?_⟩
    cases d with
    | none => exact .inl rfl
    | some e => exact .inr (failed_of_missing hroot hgone)
  · rintro ⟨hunset, rfl | ⟨earlier, c, later, e, fault, rfl, rfl, hruns, hfault⟩⟩
    · exact missing_after rfl rfl hunset
    · have hgiven : ((unused (some e)).after earlier).definition = some e :=
        (untouched_after (runsDefinition_after_iff.1 hruns).2.2).2
      obtain ⟨hfound, hgone⟩ := hruns.root_perform hgiven
      rw [hfault] at hfound
      rw [after_append, after_cons]
      exact missing_after hfound hgone fun b hb => hunset b (by simp [hb])

end

/-- A parser with a definition, or without one, is called in any way. The definition runs in the
first call that needs a rule to begin with, unless one has been set before, and in no other call:
any other call would do the same with another definition. Once there is a rule to begin with, it
stays until the next one is set. A call says that there is none exactly if it needs one and none has
been set, and no definition has been given, or it has run before and failed. -/
theorem a_definition_runs_on_first_use (d : Option (Definition σ)) (before : List (Call σ))
    (c : Call σ) :
    let p := (unused d).after before
    let next := (c.perform p).2
    (c.RunsDefinition p ↔ d.isSome ∧ c.needsRoot ∧ ∀ b ∈ before, ¬ b.needsRoot ∧ ¬ b.setsRoot) ∧
      (c.RunsDefinition p → p.definition = d ∧
        ∀ more c', ¬ Call.RunsDefinition c' (next.after more)) ∧
      (¬ c.RunsDefinition p →
        c.LeavesDefinition p ∨ p.definition = none ∧ next.definition = none) ∧
      (∀ root, (c.perform p).1 = .root (.ok root) ∨ c = .setRoot root → next.root = some root) ∧
      (∀ root more, next.root = some root → (∀ b ∈ more, ¬ b.setsRoot) →
        (Call.root.perform (next.after more)).1 = .root (.ok root)) ∧
      ((c.perform p).1.halt? = some (.error .missingRoot) ↔
        c.needsRoot ∧ p.root = none ∧ p.definition = none) ∧
      (p.root = none ∧ p.definition = none ↔
        (∀ b ∈ before, ¬ b.setsRoot) ∧ (d = none ∨ FailedIn d before)) := by
  intro p next
  refine ⟨?_, fun hruns => ⟨?_, fun more c' => ?_⟩, Call.leavesDefinition_or_none,
    fun root => Call.root_of_answer, fun root more hroot hmore => ?_, Call.halt_eq_missingRoot_iff,
    missing_after_iff⟩
  · simpa [Call.touches] using runsDefinition_after_iff
  · exact (untouched_after (runsDefinition_after_iff.1 hruns).2.2).2
  · have hneeds : c.needsRoot := (runsDefinition_after_iff.1 hruns).2.1
    have hsettled : next.Settled := Call.settled_perform (.inl (by simp [Call.touches, hneeds]))
    exact (settled_after hsettled).not_runsDefinition
  · rw [Call.perform, takeRoot_of_root (root_after hroot hmore)]

/-- A definition that fails is not run again, but a rule to begin with can still be set. -/
example :
    let p := unused (some (Build.sequenceOf [] : Definition Unit))
    (Call.root.perform p).1.halt? = some (.fault .emptyCombination) ∧
      (Call.root.perform (p.after [.root])).1.halt? = some (.error .missingRoot) ∧
      (Call.root.perform (p.after [.root, .setRoot ⟨3⟩])).1.halt? = none := by
  decide

end Peg.Parser
