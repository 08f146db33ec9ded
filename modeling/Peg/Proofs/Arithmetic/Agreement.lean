-- Two grammars of arithmetic, one built by hand and one read from a text, agree. Both take tokens
-- that stand next to each other for the same expressions, and do the same with them.
import Mathlib.Data.List.Forall2
import Peg.Proofs.Arithmetic.FromText
import Peg.Proofs.Arithmetic.Value

namespace Peg.Arithmetic

open Text Ebnf

/-! ## Steps of a calculation -/

/-- What an action does. -/
inductive Work where
  | number
  | operation (op : Operation)
deriving DecidableEq

def Work.run : Work → Action Calculator
  | number => pushNumber
  | operation op => applyOperation op

/-- Work with the part of the text that it is done for. -/
structure Step where
  work : Work
  span : Span

/-- The step for what lies between two places, each given by the text that is left there. -/
def Step.between (input : List Char) (work : Work) (x y : List Char) : Step :=
  ⟨work, (Capture.between input x y ⟨0⟩).span⟩

/-- Does a step. -/
def Step.apply (c : Calculator) (s : Step) : Calculator :=
  match s.work with
  | .number => c.pushText (s.span.text?.getD [])
  | .operation op => c.apply op

/-- The captures are of the actions for the steps, one by one. -/
def Performs (g : Arena Calculator) : List Capture → List Step → Prop :=
  List.Forall₂ fun k s => k.span = s.span ∧ ∃ a, g.rule? k.rule = some (.action a s.work.run)

section

variable {g : Arena Calculator} {l m : List Capture} {steps more : List Step}
  {input x y : List Char}

theorem Performs.nil : Performs g [] [] := List.Forall₂.nil

theorem Performs.append (h : Performs g l steps) (h' : Performs g m more) :
    Performs g (l ++ m) (steps ++ more) := List.rel_append h h'

theorem Performs.between {id a : RuleId} {work : Work}
    (hr : g.rule? id = some (.action a work.run)) :
    Performs g [.between input x y id] [.between input work x y] :=
  .cons ⟨rfl, a, hr⟩ .nil

/-- Replaying captures does their steps, in any arena. -/
theorem Performs.replay (h : Performs g l steps) (last : Option Capture) (c : Calculator) :
    g.replayAfter last l c = steps.foldl Step.apply c := by
  induction h generalizing last c with
  | nil => rfl
  | @cons k s l steps hk _ ih =>
    obtain ⟨hspan, a, hr⟩ := hk
    have hone : g.replayOne ⟨k, last⟩ c = s.apply c := by
      obtain ⟨work, span⟩ := s
      simp only [Arena.replayOne, hr]
      cases work with
      | number => simp only [Work.run, pushNumber, Replay.text, Capture.text?, hspan, Step.apply]
      | operation op => rfl
    rw [Arena.replayAfter, hone]
    exact ih _ _

end

/-! ## Tokens next to each other -/

/-- What can be looked for: a part, or operations of a level with their operands. -/
inductive Sought where
  | part (P : Part)
  | turns (lvl : Level)

/-- In front of a text, tokens without layout stand for what is looked for, with so much of the text
left behind them and these steps to do; or they do not. -/
inductive Takes (input : List Char) :
    Sought → List Char → Option (List Char × List Step) → Prop where
  | number {n : Number} {y : List Char} :
    n.Ends y → Takes input (.part .factor) (n.text ++ y)
      (some (y, [.between input .number (n.text ++ y) y]))
  | group {u z : List Char} {steps : List Step} :
    Takes input (.part (.chain .sum)) u (some (')' :: z, steps)) →
      Takes input (.part .factor) ('(' :: u) (some (z, steps))
  | groupOpen {u y : List Char} {steps : List Step} :
    Takes input (.part (.chain .sum)) u (some (y, steps)) → ¬ [')'] <+: y →
      Takes input (.part .factor) ('(' :: u) none
  | groupFails {u : List Char} :
    Takes input (.part (.chain .sum)) u none → Takes input (.part .factor) ('(' :: u) none
  | noFactor {x : List Char} :
    ¬ ['('] <+: x → ¬ StartsWith Char.isDigit x → Takes input (.part .factor) x none
  | chain {lvl : Level} {x y z : List Char} {steps more : List Step} :
    Takes input (.part lvl.operand) x (some (y, steps)) →
      Takes input (.turns lvl) y (some (z, more)) →
        Takes input (.part (.chain lvl)) x (some (z, steps ++ more))
  | noOperand {lvl : Level} {x : List Char} :
    Takes input (.part lvl.operand) x none → Takes input (.part (.chain lvl)) x none
  /-- An operation is done behind its right operand. -/
  | turn {lvl : Level} {op : Operation} {u y z : List Char} {steps more : List Step} :
    lvl.has op = true → Takes input (.part lvl.operand) u (some (y, steps)) →
      Takes input (.turns lvl) y (some (z, more)) →
        Takes input (.turns lvl) (op.symbol.toList ++ u)
          (some (z, steps ++ [.between input (.operation op) (op.symbol.toList ++ u) y] ++ more))
  /-- Operations end where none comes next that has an operand. -/
  | stop {lvl : Level} {x : List Char} :
    (∀ op u, lvl.has op = true → x = op.symbol.toList ++ u →
      Takes input (.part lvl.operand) u none) →
      Takes input (.turns lvl) x (some (x, []))

section

variable {input x y z : List Char} {lvl : Level} {sought : Sought} {steps : List Step}

theorem not_isLayoutBlank_of_isDigit {c : Char} (h : c.isDigit = true) :
    ¬ isLayoutBlank c = true := by
  intro hblank
  simp only [isLayoutBlank, Bool.or_eq_true, decide_eq_true_eq] at hblank
  rcases hblank with ((rfl | rfl) | rfl) | rfl <;> revert h <;> decide

theorem Number.not_isLayoutBlank (n : Number) : ∀ c ∈ n.text, ¬ isLayoutBlank c = true := by
  have hwhole : ∀ c ∈ n.whole, ¬ isLayoutBlank c = true := fun c hc =>
    not_isLayoutBlank_of_isDigit (n.whole_digits.2 c hc)
  unfold Number.text
  split
  · exact hwhole
  · next cs hcs =>
    have hfraction : ∀ c ∈ cs, ¬ isLayoutBlank c = true := fun c hc =>
      not_isLayoutBlank_of_isDigit ((n.fraction_digits cs hcs).2 c hc)
    exact List.forall_mem_append.2 ⟨hwhole, List.forall_mem_cons.2 ⟨by decide, hfraction⟩⟩

/-- What is taken is read, and holds no layout. -/
theorem Takes.reads {r : Option (List Char × List Step)} (h : Takes input sought x r) :
    ∀ y steps, r = some (y, steps) → ∃ u, x = u ++ y ∧ ∀ c ∈ u, ¬ isLayoutBlank c = true := by
  induction h with
  | @number n y _ =>
    rintro _ _ ⟨⟩
    exact ⟨n.text, rfl, n.not_isLayoutBlank⟩
  | @group u z steps _ ih =>
    rintro _ _ ⟨⟩
    obtain ⟨v, rfl, hv⟩ := ih _ _ rfl
    refine ⟨'(' :: (v ++ [')']), by simp, ?_⟩
    intro c hc
    simp only [List.mem_cons, List.mem_append, List.not_mem_nil, or_false] at hc
    rcases hc with rfl | hc | rfl
    · decide
    · exact hv c hc
    · decide
  | @chain lvl x y z steps more _ _ ih ih' =>
    rintro _ _ ⟨⟩
    obtain ⟨u, rfl, hu⟩ := ih _ _ rfl
    obtain ⟨v, rfl, hv⟩ := ih' _ _ rfl
    exact ⟨u ++ v, by simp, List.forall_mem_append.2 ⟨hu, hv⟩⟩
  | @turn lvl op w y z steps more _ _ _ ih ih' =>
    rintro _ _ ⟨⟩
    obtain ⟨u, rfl, hu⟩ := ih _ _ rfl
    obtain ⟨v, rfl, hv⟩ := ih' _ _ rfl
    have hop : op.symbol.toList.all (!isLayoutBlank ·) = true := by cases op <;> decide
    rw [List.all_eq_true] at hop
    exact ⟨op.symbol.toList ++ (u ++ v), by simp,
      List.forall_mem_append.2
        ⟨fun c hc => by simpa using hop c hc, List.forall_mem_append.2 ⟨hu, hv⟩⟩⟩
  | stop _ _ =>
    rintro _ _ ⟨⟩
    exact ⟨[], rfl, by simp⟩
  | groupOpen | groupFails | noFactor | noOperand =>
    rintro _ _ ⟨⟩

theorem Takes.length_le (h : Takes input sought x (some (y, steps))) : y.length ≤ x.length := by
  obtain ⟨u, rfl, -⟩ := h.reads _ _ rfl
  simp

/-- An operation reads at least its symbol. -/
theorem Takes.ne_symbol {u : List Char} (h : Takes input sought u (some (y, steps)))
    (op : Operation) : y ≠ op.symbol.toList ++ u := by
  intro heq
  have hle := h.length_le
  rw [heq, List.length_append] at hle
  cases op <;> simp [Operation.symbol] at hle

/-! ## Every text is taken or not -/

theorem exists_takes_factor
    (hsum : ∀ z, z.length < x.length → ∃ r, Takes input (.part (.chain .sum)) z r) :
    ∃ r, Takes input (.part .factor) x r := by
  by_cases hopening : ['('] <+: x
  · obtain ⟨u, rfl⟩ := hopening
    obtain ⟨r, hr⟩ := hsum u (by simp)
    match r, hr with
    | none, hr => exact ⟨none, .groupFails hr⟩
    | some (y, steps), hr =>
      by_cases hclosing : [')'] <+: y
      · obtain ⟨z, rfl⟩ := hclosing
        exact ⟨_, .group hr⟩
      · exact ⟨none, .groupOpen hr hclosing⟩
  · by_cases hdigit : StartsWith Char.isDigit x
    · obtain ⟨n, y, rfl, hends⟩ := exists_number hdigit
      exact ⟨_, .number hends⟩
    · exact ⟨none, .noFactor hopening hdigit⟩

theorem exists_takes_turns {x : List Char}
    (hoperand : ∀ z, z.length < x.length → ∃ r, Takes input (.part lvl.operand) z r) :
    ∃ y steps, Takes input (.turns lvl) x (some (y, steps)) := by
  by_cases hturn : ∃ op u y steps, lvl.has op = true ∧ x = op.symbol.toList ++ u ∧
      Takes input (.part lvl.operand) u (some (y, steps))
  · obtain ⟨op, u, y, steps, hop, rfl, htakes⟩ := hturn
    have hlt : y.length < (op.symbol.toList ++ u).length := by
      have hle := htakes.length_le
      have hsymbol : 0 < op.symbol.toList.length := by cases op <;> decide
      rw [List.length_append]
      omega
    obtain ⟨z, more, hmore⟩ := exists_takes_turns fun w hw => hoperand w (hw.trans hlt)
    exact ⟨_, _, .turn hop htakes hmore⟩
  · refine ⟨x, [], .stop ?_⟩
    rintro op u hop rfl
    have hlt : u.length < (op.symbol.toList ++ u).length := by
      cases op <;> simp [Operation.symbol]
    obtain ⟨r, hr⟩ := hoperand u hlt
    match r, hr with
    | none, hr => exact hr
    | some (y, steps), hr => exact absurd ⟨op, u, y, steps, hop, rfl, hr⟩ hturn
termination_by x.length

theorem exists_takes_chain
    (hoperand : ∀ z, z.length ≤ x.length → ∃ r, Takes input (.part lvl.operand) z r) :
    ∃ r, Takes input (.part (.chain lvl)) x r := by
  obtain ⟨r, hr⟩ := hoperand x (Nat.le_refl _)
  match r, hr with
  | none, hr => exact ⟨none, .noOperand hr⟩
  | some (y, steps), hr =>
    obtain ⟨z, more, hmore⟩ := exists_takes_turns fun w hw =>
      hoperand w (hw.le.trans hr.length_le)
    exact ⟨_, .chain hr hmore⟩

theorem exists_takes_sum (input x : List Char) : ∃ r, Takes input (.part (.chain .sum)) x r := by
  -- only a group asks for a sum again, and that one is shorter
  have hfactor : ∀ z, z.length ≤ x.length → ∃ r, Takes input (.part .factor) z r := fun z hle =>
    exists_takes_factor fun w hlt => exists_takes_sum input w
  have hproduct : ∀ z, z.length ≤ x.length → ∃ r, Takes input (.part (.chain .product)) z r :=
    fun z hle => exists_takes_chain fun w hle' => hfactor w (hle'.trans hle)
  exact exists_takes_chain hproduct
termination_by x.length

end

/-! ## The grammar that is built by hand -/

section

variable {input x : List Char} {sought : Sought} {r : Option (List Char × List Step)}

/-- Where there is no layout there is nothing to skip. -/
def Bare (x : List Char) : Prop := ∀ c ∈ x, ¬ isLayoutBlank c = true

theorem Bare.skip_eq (h : Bare x) : skip x = x :=
  skip_eq_self fun c hc => h c (List.mem_of_mem_head? hc)

theorem Bare.suffix {y : List Char} (h : Bare x) (hy : y <:+ x) : Bare y :=
  fun c hc => h c (hy.subset hc)

/-- The rules answer what tokens next to each other are taken for. -/
def Agrees (input : List Char) : Sought → List Char → Option (List Char × List Step) → Prop
  | .part P, x, some (y, steps) => ∃ l, Finds input P x y l ∧ Performs arithmetic l steps
  | .part P, x, none => Misses input P x
  | .turns lvl, x, some (y, steps) => ∃ l, Tail input lvl x y l ∧ Performs arithmetic l steps
  | .turns _, _, none => False

theorem Takes.agrees (h : Takes input sought x r) (hx : Bare x) : Agrees input sought x r := by
  induction h with
  | number hends => exact ⟨_, factor_of_number hends, .between rule?_number⟩
  | @group u z steps h ih =>
    have hu : Bare u := hx.suffix (List.suffix_cons _ _)
    obtain ⟨v, hv, -⟩ := h.reads _ _ rfl
    have hz : Bare (')' :: z) := hu.suffix ⟨v, hv.symm⟩
    obtain ⟨l, hfinds, hperforms⟩ := ih hu
    rw [← hu.skip_eq] at hfinds
    exact ⟨l, factor_of_group hfinds hz.skip_eq, hperforms⟩
  | @groupOpen u y steps h hclosing ih =>
    have hu : Bare u := hx.suffix (List.suffix_cons _ _)
    obtain ⟨v, hv, -⟩ := h.reads _ _ rfl
    have hy : Bare y := hu.suffix ⟨v, hv.symm⟩
    obtain ⟨l, hfinds, -⟩ := ih hu
    rw [← hu.skip_eq] at hfinds
    rw [← hy.skip_eq] at hclosing
    exact factor_missed_at_end hfinds hclosing
  | @groupFails u _ ih =>
    have hu : Bare u := hx.suffix (List.suffix_cons _ _)
    have hmiss : Misses input (.chain .sum) u := ih hu
    rw [← hu.skip_eq] at hmiss
    exact factor_missed_inside hmiss
  | noFactor hopening hdigit => exact factor_missed_at_start hopening hdigit
  | @chain lvl x y z steps more h _ ih ih' =>
    obtain ⟨v, hv, -⟩ := h.reads _ _ rfl
    have hy : Bare y := hx.suffix ⟨v, hv.symm⟩
    obtain ⟨l, hfinds, hperforms⟩ := ih hx
    obtain ⟨m, htail, hperforms'⟩ := ih' hy
    rw [← hy.skip_eq] at htail
    exact ⟨l ++ m, chain_finds hfinds htail, hperforms.append hperforms'⟩
  | noOperand _ ih => exact chain_misses (ih hx)
  | @turn lvl op u y z steps more hop h _ ih ih' =>
    have hu : Bare u := hx.suffix (List.suffix_append _ _)
    obtain ⟨v, hv, -⟩ := h.reads _ _ rfl
    obtain ⟨l, hfinds, hperforms⟩ := ih hu
    obtain ⟨m, ⟨n, htail⟩, hperforms'⟩ := ih' (hu.suffix ⟨v, hv.symm⟩)
    rw [← hu.skip_eq] at hfinds
    obtain ⟨id, a, hr, hturn⟩ := turn_finds hop hx.skip_eq hfinds
    rw [hx.skip_eq] at hturn
    have hstep : Performs arithmetic [.between input (op.symbol.toList ++ u) y id]
        [.between input (.operation op) (op.symbol.toList ++ u) y] := .between hr
    exact ⟨_, ⟨n + 1, .step hturn (h.ne_symbol op) htail⟩,
      (hperforms.append hstep).append hperforms'⟩
  | @stop lvl x _ ih =>
    have hmisses : ∀ op u, lvl.has op = true → skip x = op.symbol.toList ++ u →
        Misses input lvl.operand (skip u) := by
      intro op u hop hu
      rw [hx.skip_eq] at hu
      have hbare : Bare u := hx.suffix (hu ▸ List.suffix_append _ _)
      rw [hbare.skip_eq]
      exact ih op u hop hu hbare
    obtain ⟨y, hy⟩ := turn_misses hmisses
    exact ⟨[], ⟨0, .stop hy⟩, .nil⟩

end

/-! ## The grammar of the text -/

section

variable {g : Arena Calculator} {root : RuleId} {input x : List Char} {sought : Sought}
  {r : Option (List Char × List Step)}

/-- What the productions answer is what tokens next to each other are taken for. -/
def TextAgrees (g : Arena Calculator) (input : List Char) :
    Sought → List Char → Option (List Char × List Step) → Prop
  | .part P, x, some (y, steps) => ∃ l, Calls g input P.production x true y l ∧ Performs g l steps
  | .part P, x, none => ∃ y l, Calls g input P.production x false y l
  | .turns lvl, x, some (y, steps) =>
    ∃ l, (turn lvl).GivesMany g input (some (Part.chain lvl).production) x y l ∧ Performs g l steps
  | .turns _, _, none => False

theorem Takes.textAgrees (h : Takes input sought x r) (hg : HasText g root) :
    TextAgrees g input sought x r := by
  induction h with
  | number hends =>
    obtain ⟨id, a, hr, hcalls⟩ := hg.calls_factor_of_number hends
    exact ⟨_, hcalls, .between hr⟩
  | group _ ih =>
    obtain ⟨l, hcalls, hperforms⟩ := ih
    exact ⟨l, hg.calls_factor_of_group hcalls, hperforms⟩
  | groupOpen _ hclosing ih =>
    obtain ⟨l, hcalls, -⟩ := ih
    obtain ⟨m, hm⟩ := hg.misses_factor_of_group hcalls fun _ => hclosing
    exact ⟨_, m, hm⟩
  | groupFails _ ih =>
    obtain ⟨y, l, hcalls⟩ := ih
    obtain ⟨m, hm⟩ := hg.misses_factor_of_group hcalls fun h => by cases h
    exact ⟨_, m, hm⟩
  | noFactor hopening hdigit =>
    obtain ⟨m, hm⟩ := hg.misses_factor (.concatenation_fails (.terminal_fails hopening)) hdigit
    exact ⟨_, m, hm⟩
  | chain _ _ ih ih' =>
    obtain ⟨l, hcalls, hperforms⟩ := ih
    obtain ⟨m, hturns, hperforms'⟩ := ih'
    exact ⟨l ++ m, hg.calls_chain hcalls hturns, hperforms.append hperforms'⟩
  | noOperand _ ih =>
    obtain ⟨y, l, hcalls⟩ := ih
    exact ⟨_, l, hg.misses_chain hcalls⟩
  | @turn lvl op u y z steps more hop h _ ih ih' =>
    obtain ⟨l, hcalls, hperforms⟩ := ih
    obtain ⟨m, hturns, hperforms'⟩ := ih'
    obtain ⟨id, a, hr, hturn⟩ := hg.turn_gives hop hcalls
    have hstep : Performs g [.between input (op.symbol.toList ++ u) y id]
        [.between input (.operation op) (op.symbol.toList ++ u) y] := .between hr
    exact ⟨_, .step hturn (h.ne_symbol op) hturns, (hperforms.append hstep).append hperforms'⟩
  | stop _ ih => exact ⟨[], .stop (hg.turn_fails fun op u hop hu => ih op u hop hu), .nil⟩

end

/-! ## Parsers -/

/-- The parser matches the text, and replays captures for these steps. -/
def Replays (p : Parser Calculator) (input : List Char) (steps : List Step) : Prop :=
  ∃ root q s, p.takeRoot = (.ok root, q) ∧
    Match.eval q.arena root (.ofText input q.debug) = .ok true s ∧ Performs q.arena s.captures steps

/-- The parser has taken its root, and gives an answer to the text. -/
def Settles (p : Parser Calculator) (input : List Char) : Option (List Step) → Prop
  | some steps => Replays p input steps
  | none => ∃ root q s, p.takeRoot = (.ok root, q) ∧
    Match.eval q.arena root (.ofText input q.debug) = .ok false s

section

variable {p : Parser Calculator} {input : List Char} {steps : List Step}

theorem Replays.parse (h : Replays p input steps) (c : Calculator) :
    (p.parse input c).1.result = .ok true ∧
      (p.parse input c).1.output = steps.foldl Step.apply c := by
  obtain ⟨root, q, s, hroot, hres, hperforms⟩ := h
  have hparse : (p.parse input c).1 =
      ⟨.ok true, q.arena.replay s.captures c, s.log.reverse ++ [.replaying s.captures.length]⟩ := by
    simp only [Parser.parse, hroot, Parser.parseFrom, hres]
  rw [hparse]
  exact ⟨rfl, hperforms.replay none c⟩

theorem Settles.parse_none (h : Settles p input none) (c : Calculator) :
    (p.parse input c).1.result = .ok false ∧ (p.parse input c).1.output = c := by
  obtain ⟨root, q, s, hroot, hres⟩ := h
  have hparse : (p.parse input c).1 =
      ⟨.ok false, c, s.log.reverse ++ [.noMatch (byteLength input)]⟩ := by
    simp only [Parser.parse, hroot, Parser.parseFrom, hres]
  rw [hparse]
  exact ⟨rfl, rfl⟩

/-- The steps for a whole text: those of a sum that goes to its end. -/
def wholeSteps : Option (List Char × List Step) → Option (List Step)
  | some ([], steps) => some steps
  | _ => none

variable {r : Option (List Char × List Step)}

section

variable {g : Arena Calculator} {root : RuleId} {y : List Char} {l : List Capture}

theorem settles_of_match (hroot : p.takeRoot = (.ok root, ⟨g, some root, none, false⟩))
    (h : Answers g input ⟨root, none, input⟩ true y l) (hl : Performs g l steps) :
    Settles p input (some steps) := by
  have hstart : Answers g (MatchState.ofText input false).cursor.input
      ((MatchState.ofText input false).attempt root) true y l := h
  obtain ⟨s, hres, -, rfl⟩ := hstart.eval_ok
  exact ⟨root, _, s, hroot, hres, hl⟩

theorem settles_of_no_match (hroot : p.takeRoot = (.ok root, ⟨g, some root, none, false⟩))
    (h : Answers g input ⟨root, none, input⟩ false y l) : Settles p input none := by
  have hstart : Answers g (MatchState.ofText input false).cursor.input
      ((MatchState.ofText input false).attempt root) false y l := h
  obtain ⟨s, hres, -⟩ := hstart.eval_ok
  exact ⟨root, _, s, hroot, hres⟩

end

/-- The parser that is built by hand gives every text an answer. -/
theorem exists_result_by_hand (input : List Char) (c : Calculator) :
    ∃ matched, (parser.parse input c).1.result = .ok matched := by
  have hsum : Sound input (.chain .sum) input := sum_sound List.suffix_rfl
  rcases hsum with hmiss | ⟨y, l, _, _, hfind, _, _, _⟩
  · obtain ⟨m, hroot⟩ := root_fails hmiss
    exact ⟨false, ((settles_of_no_match takeRoot_arithmetic hroot).parse_none c).1⟩
  · by_cases hy : y = []
    · subst hy
      obtain ⟨s, hres, -⟩ := eval_root (root_matches hfind)
      exact ⟨true, by simp only [Parser.parse, takeRoot_arithmetic, Parser.parseFrom, hres]⟩
    · have hroot := root_fails_behind hfind hy
      exact ⟨false, ((settles_of_no_match takeRoot_arithmetic hroot).parse_none c).1⟩

/-- Without layout, the parser that is built by hand does the steps of the whole text. -/
theorem settles_by_hand (h : Takes input (.part (.chain .sum)) input r) (hx : Bare input) :
    Settles parser input (wholeSteps r) := by
  have hagrees := h.agrees hx
  match r, hagrees with
  | none, hmiss =>
    obtain ⟨l, hroot⟩ := root_fails hmiss
    exact settles_of_no_match takeRoot_arithmetic hroot
  | some ([], steps), ⟨l, hfinds, hperforms⟩ =>
    exact settles_of_match takeRoot_arithmetic (root_matches hfinds) hperforms
  | some (c :: y, steps), ⟨l, hfinds, _⟩ =>
    exact settles_of_no_match takeRoot_arithmetic (root_fails_behind hfinds (by simp))

/-- The parser of the text does so whether there is layout or not. -/
theorem settles_by_text {g : Arena Calculator} {root : RuleId} (hg : HasText g root)
    (h : Takes input (.part (.chain .sum)) input r) :
    Settles ⟨g, some root, none, false⟩ input (wholeSteps r) := by
  have htake : Parser.takeRoot ⟨g, some root, none, false⟩ =
      (.ok root, ⟨g, some root, none, false⟩) := rfl
  have hagrees := h.textAgrees hg
  match r, hagrees with
  | none, ⟨y, l, hmiss⟩ => exact settles_of_no_match htake (hg.root_fails hmiss (by simp))
  | some ([], steps), ⟨l, hcalls, hperforms⟩ =>
    exact settles_of_match htake (hg.root_matches hcalls) hperforms
  | some (c :: y, steps), ⟨l, hcalls, _⟩ =>
    exact settles_of_no_match htake (hg.root_fails hcalls (by simp))

/-- Where there is layout, nothing is taken up to the end. -/
theorem wholeSteps_eq_none (h : Takes input (.part (.chain .sum)) input r)
    (hx : ∃ c ∈ input, isLayoutBlank c = true) : wholeSteps r = none := by
  match r, h with
  | none, _ => rfl
  | some (c :: y, steps), _ => rfl
  | some ([], steps), h =>
    obtain ⟨c, hc, hblank⟩ := hx
    obtain ⟨u, hu, hbare⟩ := h.reads _ _ rfl
    rw [List.append_nil] at hu
    exact absurd hblank (hbare c (hu ▸ hc))

/-- Both parsers of arithmetic answer every text and come to no error. Where a text holds neither
spaces, tabs nor line ends they give it the same answer, and if it matches, both replay the same
operations for the same parts of it and leave the same calculator behind. Any other text the parser
that has been read from a grammar does not match. -/
theorem both_parsers_of_arithmetic_agree :
    ∃ text, textParser = .ok text ∧ ∀ (input : List Char) (c : Calculator),
      (∃ matched, (parser.parse input c).1.result = .ok matched) ∧
      (∃ matched, (text.parse input c).1.result = .ok matched) ∧
      ((∀ d ∈ input, ¬ isLayoutBlank d = true) →
        (text.parse input c).1.result = (parser.parse input c).1.result ∧
        (text.parse input c).1.output = (parser.parse input c).1.output ∧
        ((parser.parse input c).1.result = .ok true →
          ∃ steps, Replays parser input steps ∧ Replays text input steps)) ∧
      ((∃ d ∈ input, isLayoutBlank d = true) → (text.parse input c).1.result = .ok false) := by
  obtain ⟨g, root, htext, hg⟩ := exists_textParser
  refine ⟨_, htext, fun input c => ?_⟩
  obtain ⟨r, hr⟩ := exists_takes_sum input input
  have hsettles := settles_by_text hg hr
  refine ⟨exists_result_by_hand input c, ?_, ?_, ?_⟩
  · generalize wholeSteps r = whole at hsettles
    cases whole with
    | none => exact ⟨false, (hsettles.parse_none c).1⟩
    | some steps => exact ⟨true, (Replays.parse hsettles c).1⟩
  · intro hbare
    have hsettles' := settles_by_hand hr hbare
    generalize wholeSteps r = whole at hsettles hsettles'
    cases whole with
    | none =>
      obtain ⟨hresult, houtput⟩ := hsettles.parse_none c
      obtain ⟨hresult', houtput'⟩ := hsettles'.parse_none c
      refine ⟨hresult.trans hresult'.symm, houtput.trans houtput'.symm, fun hmatch => ?_⟩
      rw [hresult'] at hmatch
      cases hmatch
    | some steps =>
      obtain ⟨hresult, houtput⟩ := Replays.parse hsettles c
      obtain ⟨hresult', houtput'⟩ := Replays.parse hsettles' c
      exact ⟨hresult.trans hresult'.symm, houtput.trans houtput'.symm,
        fun _ => ⟨steps, hsettles', hsettles⟩⟩
  · intro hblank
    rw [wholeSteps_eq_none hr hblank] at hsettles
    exact (hsettles.parse_none c).1

theorem only_blanks_keep_a_sum_from_both_parsers :
    ∃ text, textParser = .ok text ∧
      (∃ steps, Replays parser "1*(2+3)".toList steps ∧ Replays text "1*(2+3)".toList steps) ∧
      (text.parse "1 + 2".toList .empty).1.result = .ok false ∧
      (parser.parse "1 + 2".toList .empty).1.result = .ok true := by
  obtain ⟨text, htext, hagree⟩ := both_parsers_of_arithmetic_agree
  obtain ⟨-, -, hbare, -⟩ := hagree "1*(2+3)".toList .empty
  obtain ⟨-, -, -, hblank⟩ := hagree "1 + 2".toList .empty
  have hnone : "1*(2+3)".toList.all (!isLayoutBlank ·) = true := by decide +kernel
  have hsome : "1 + 2".toList.any (isLayoutBlank ·) = true := by decide +kernel
  obtain ⟨-, -, hreplays⟩ := hbare (by simpa using hnone)
  refine ⟨text, htext, hreplays (by decide +kernel), hblank (by simpa using hsome), ?_⟩
  decide +kernel

end

end Peg.Arithmetic
