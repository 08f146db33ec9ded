-- The grammar of arithmetic that is read from a text, and what its productions answer. Nothing is
-- skipped between tokens.
import Peg.Arithmetic.Grammars
import Peg.Proofs.Arithmetic.Answers
import Peg.Proofs.Ebnf.Attaching

namespace Peg.Arithmetic

open Text Ebnf

/-! ## The grammar -/

/-- The name of a production. -/
def Part.production : Part → String
  | factor => "factor"
  | chain .product | tail .product _ => "product"
  | chain .sum | tail .sum _ => "sum"

def Operation.production : Operation → String
  | add => "add"
  | sub => "sub"
  | mul => "mul"
  | div => "div"

/-- The production for an operation: its symbol and the right operand. -/
def operationProduction (lvl : Level) (op : Operation) : Production :=
  ⟨op.production, .concatenation (.terminal op.symbol) (.identifier lvl.operand.production)⟩

/-- The production for an operand and operations behind it. -/
def chainProduction (lvl : Level) : Production :=
  ⟨(Part.chain lvl).production, .concatenation (.identifier lvl.operand.production)
    (.repetition (.alternation (.identifier lvl.first.production)
      (.identifier lvl.second.production)))⟩

/-- A group or a number. -/
def factorProduction : Production :=
  ⟨"factor", .alternation (.concatenation (.terminal "(")
    (.concatenation (.identifier "sum") (.terminal ")"))) (.identifier "number")⟩

/-- More digits, as many as there are. -/
def moreDigits : Expr := .repetition (.identifier "digit")

def numberProduction : Production :=
  ⟨"number", .concatenation (.identifier "digit") (.concatenation moreDigits
    (.optional (.concatenation (.terminal ".")
      (.concatenation (.identifier "digit") moreDigits))))⟩

/-- The grammar that the text spells. -/
def textGrammar : Grammar :=
  ⟨[⟨"expr", .identifier "sum"⟩,
    chainProduction .sum, operationProduction .sum .add, operationProduction .sum .sub,
    chainProduction .product, operationProduction .product .mul, operationProduction .product .div,
    factorProduction, numberProduction, ⟨"digit", .range '0' '9'⟩]⟩

theorem eq_ok_of_toOption {ε α : Type} {x : Except ε α} {a : α} (h : x.toOption = some a) :
    x = .ok a := by
  cases x with
  | error e => cases h
  | ok b =>
    cases h
    rfl

theorem parse_grammarText : Grammar.parse grammarText.toList = .ok textGrammar := by
  apply eq_ok_of_toOption
  unfold grammarText
  -- line by line, since taking one long text apart is slow
  simp only [String.toList_append, -String.reduceAppend]
  decide +kernel

/-! ## The parser -/

/-- The grammar refers to no production that it does not have. -/
theorem install_textGrammar :
    ((textGrammar.install .adjacent).run.run (.fresh : Arena Calculator)).1 = .ok ⟨55⟩ := by
  apply eq_ok_of_toOption
  decide +kernel

/-- All actions have a production to go to, each another one. -/
theorem attachments_have_productions : ∀ x ∈ attachments,
    (lastOf x.1 textGrammar.productions).isSome ∧
      ([] : List (String × Action Calculator)).lookup x.1 = none := by
  decide

theorem nodup_attachments : (attachments.map Prod.fst).Nodup := by
  decide

theorem run_defineFromText {text : List Char} {grammar : Grammar} {start : RuleId}
    {g h : Arena Calculator} (hparse : Grammar.parse text = .ok grammar)
    (hinstall : (grammar.install .adjacent).run.run Arena.fresh = (.ok start, g))
    (hattach : ((forIn attachments ⟨⟩ attachOne :
      ExceptT Error (Build Calculator) PUnit).run).run g = (.ok ⟨⟩, h)) :
    (defineFromText text).run.run Arena.fresh =
      (.ok ((Build.push (.endOfInput start)).run h).1,
        ((Build.push (.endOfInput start)).run h).2) := by
  unfold defineFromText
  rw [hparse]
  exact (Build.run_bind_ok hinstall).trans (Build.run_bind_ok hattach)

theorem parserOfText_eq_ok {text : List Char} {root : RuleId} {g : Arena Calculator}
    (h : (defineFromText text).run.run Arena.fresh = (.ok root, g)) :
    parserOfText text = .ok ⟨g, some root, none, false⟩ := by
  have hbuild : (Parser.empty.build (defineFromText text).run) =
      (.ok root, ⟨g, none, none, false⟩) := by
    simp only [Parser.build, Parser.empty, h]
  simp only [parserOfText, hbuild]
  rfl

/-- An arena with the grammar of the text, its actions, and a rule for whole texts. -/
structure HasText (g : Arena Calculator) (root : RuleId) : Prop where
  attached : Attached .adjacent textGrammar.productions attachments.reverse g
  root : ∃ start, g.rule? root = some (.endOfInput start) ∧
    g.rule? start = some (.reference "expr")

/-- The parser of the text comes to be, and begins with whole texts. -/
theorem exists_textParser :
    ∃ g root, textParser = .ok ⟨g, some root, none, false⟩ ∧ HasText g root := by
  have hinstall := install_textGrammar
  cases hrun : (textGrammar.install .adjacent).run.run (.fresh : Arena Calculator) with
  | mk result g =>
  rw [hrun] at hinstall
  obtain rfl : result = .ok ⟨55⟩ := hinstall
  obtain ⟨first, hfirst, hg, hstart, -⟩ := install_ok hrun
  obtain rfl : (⟨"expr", .identifier "sum"⟩ : Production) = first := Option.some.inj hfirst
  obtain ⟨h, hattach, hgh, hh⟩ := hg.attached.run_attachments attachments
    attachments_have_productions nodup_attachments
  rw [List.append_nil] at hh
  have hwhole : h.Grown ((Build.push (.endOfInput ⟨55⟩)).run h).2 :=
    .push hh.grown.ordered (by simpa [Rule.children] using index_lt_of_rule? (hgh.rule hstart))
  have hparser : textParser = .ok _ :=
    parserOfText_eq_ok (run_defineFromText parse_grammarText hrun hattach)
  exact ⟨_, _, hparser, hh.mono hwhole (by rw [Build.run_push]), ⟨55⟩, rule?_of_push,
    hwhole.rule (hgh.rule hstart)⟩

/-! ## Numbers -/

section

variable {g : Arena Calculator} {root : RuleId} {input x y : List Char}

theorem HasText.digit_gives (hg : HasText g root) {c : Char} (hc : c.isDigit = true) :
    (Expr.identifier "digit").Gives g input (some "number") (c :: y) true y [] := by
  obtain ⟨hlo, hhi⟩ := (isDigit_iff c).1 hc
  exact .identifier (by decide) (hg.attached.calls rfl rfl (.range hlo hhi))

theorem HasText.digit_fails (hg : HasText g root) (hx : ¬ StartsWith Char.isDigit x) :
    (Expr.identifier "digit").Gives g input (some "number") x false x [] :=
  .identifier (by decide) (hg.attached.calls rfl rfl (.range_fails fun c hc hbounds =>
    hx ⟨c, hc, (isDigit_iff c).2 hbounds⟩))

theorem HasText.moreDigits_give (hg : HasText g root) {cs : List Char}
    (hcs : ∀ c ∈ cs, c.isDigit = true) (hy : ¬ StartsWith Char.isDigit y) :
    moreDigits.Gives g input (some "number") (cs ++ y) true y [] := by
  apply Expr.GivesMany.repetition
  induction cs with
  | nil => exact .stop (hg.digit_fails hy)
  | cons c cs ih =>
    obtain ⟨hc, hcs⟩ := List.forall_mem_cons.1 hcs
    exact .step (hg.digit_gives hc) (by simp) (ih hcs)

/-- The fraction of a number is read if there is one, and nothing else. -/
theorem HasText.fraction_gives (hg : HasText g root) {n : Number} (h : n.Ends y) :
    ∃ x, n.text ++ y = n.whole ++ x ∧ ¬ StartsWith Char.isDigit x ∧
      (Expr.optional (.concatenation (.terminal ".")
        (.concatenation (.identifier "digit") moreDigits))).Gives g input (some "number") x true y
          [] := by
  cases hf : n.fraction with
  | some cs =>
    obtain ⟨c, w, rfl⟩ := List.exists_cons_of_ne_nil (n.fraction_digits cs hf).1
    obtain ⟨hc, hw⟩ := List.forall_mem_cons.1 (n.fraction_digits _ hf).2
    refine ⟨'.' :: (c :: w ++ y), by simp [Number.text, hf], ?_, ?_⟩
    · rintro ⟨d, hd, hdigit⟩
      cases hd
      exact absurd hdigit (by decide)
    · exact .optional (.concatenation .terminal
        (.concatenation (hg.digit_gives hc) (hg.moreDigits_give hw h.digit)))
  | none =>
    refine ⟨y, by simp [Number.text, hf], h.digit, ?_⟩
    by_cases hpoint : ".".toList <+: y
    · obtain ⟨z, rfl⟩ := hpoint
      have hdigit : (Expr.identifier "digit").Gives g input (some "number") z false z [] :=
        hg.digit_fails (h.point hf z rfl)
      exact .optional (.concatenation .terminal (.concatenation_fails hdigit))
    · exact .optional (.concatenation_fails (.terminal_fails hpoint))

/-- A number is read up to its end, and its capture is left behind. -/
theorem HasText.calls_number (hg : HasText g root) {n : Number} (h : n.Ends y) :
    ∃ id a, g.rule? id = some (.action a pushNumber) ∧
      Calls g input "number" (n.text ++ y) true y [.between input (n.text ++ y) y id] := by
  obtain ⟨x, hx, hdigit, hfraction⟩ := hg.fraction_gives h
  obtain ⟨c, cs, hwhole⟩ := List.exists_cons_of_ne_nil n.whole_digits.1
  have hall := n.whole_digits.2
  rw [hwhole] at hx hall
  obtain ⟨hc, hcs⟩ := List.forall_mem_cons.1 hall
  rw [hx]
  exact hg.attached.calls_action rfl rfl (.concatenation (hg.digit_gives hc)
    (.concatenation (hg.moreDigits_give hcs hdigit) hfraction))

theorem HasText.misses_number (hg : HasText g root) (hx : ¬ StartsWith Char.isDigit x) :
    Calls g input "number" x false x [] :=
  hg.attached.calls_action_fails rfl rfl (.concatenation_fails (hg.digit_fails hx))

/-! ## Factors -/

theorem HasText.calls_factor_of_number (hg : HasText g root) {n : Number} (h : n.Ends y) :
    ∃ id a, g.rule? id = some (.action a pushNumber) ∧
      Calls g input "factor" (n.text ++ y) true y [.between input (n.text ++ y) y id] := by
  obtain ⟨id, a, hr, hnumber⟩ : ∃ id a, g.rule? id = some (.action a pushNumber) ∧
      Calls g input "number" (n.text ++ y) true y [.between input (n.text ++ y) y id] :=
    hg.calls_number h
  have hopening : ¬ "(".toList <+: n.text ++ y := by
    obtain ⟨c, w, hw, hc⟩ := n.text_eq_cons
    rw [hw]
    rintro ⟨v, hv⟩
    cases hv
    exact absurd hc (by decide)
  exact ⟨id, a, hr, hg.attached.calls rfl rfl (.alternation_second
    (.concatenation_fails (.terminal_fails hopening)) (.identifier (by decide) hnumber))⟩

theorem HasText.calls_factor_of_group (hg : HasText g root) {u z : List Char} {l : List Capture}
    (h : Calls g input "sum" u true (')' :: z) l) : Calls g input "factor" ('(' :: u) true z l := by
  have hclosing : (Expr.terminal ")").Gives g input (some "factor") (')' :: z) true z [] :=
    .terminal
  have hgroup := Expr.Gives.concatenation (.identifier (by decide) h) hclosing
  rw [List.append_nil] at hgroup
  exact hg.attached.calls rfl rfl (.alternation_first (.concatenation .terminal hgroup))

/-- Where a group fails, no number is found in its place. -/
theorem HasText.misses_factor (hg : HasText g root) {l : List Capture}
    (h : (Expr.concatenation (.terminal "(")
      (.concatenation (.identifier "sum") (.terminal ")"))).Gives
        g input (some "factor") x false y l)
    (hx : ¬ StartsWith Char.isDigit x) : ∃ l, Calls g input "factor" x false x l :=
  ⟨_, hg.attached.calls rfl rfl
    (.alternation_second h (.identifier (by decide) (hg.misses_number hx)))⟩

/-- Behind an opening parenthesis, a factor asks for a sum and for the closing one. -/
theorem HasText.misses_factor_of_group (hg : HasText g root) {u : List Char} {matched : Bool}
    {l : List Capture} (h : Calls g input "sum" u matched y l)
    (hy : matched = true → ¬ [')'] <+: y) :
    ∃ l, Calls g input "factor" ('(' :: u) false ('(' :: u) l := by
  have hsum : (Expr.identifier "sum").Gives g input (some "factor") u matched
      (if matched then y else u) l := .identifier (by decide) h
  have hopening : (Expr.terminal "(").Gives g input (some "factor") ('(' :: u) true u [] :=
    .terminal
  obtain ⟨z, m, hgroup⟩ : ∃ z m, (Expr.concatenation (.identifier "sum") (.terminal ")")).Gives g
      input (some "factor") u false z m := by
    cases matched with
    | false => exact ⟨_, _, .concatenation_fails hsum⟩
    | true => exact ⟨_, _, .concatenation hsum (.terminal_fails (hy rfl))⟩
  exact hg.misses_factor (.concatenation hopening hgroup) (not_startsWith_opening u)

end

/-! ## Operations -/

section

variable {g : Arena Calculator} {root : RuleId} {input x y : List Char} {lvl : Level}
  {op : Operation} {u z : List Char} {l m : List Capture}

theorem lastOf_operation (hop : lvl.has op = true) :
    lastOf op.production textGrammar.productions = some (operationProduction lvl op).body := by
  cases lvl <;> cases op <;> revert hop <;> decide

theorem lookup_operation (op : Operation) :
    attachments.reverse.lookup op.production = some (applyOperation op) := by
  cases op <;> rfl

theorem operand_ne (lvl : Level) (op : Operation) :
    some op.production ≠ some lvl.operand.production := by
  cases lvl <;> cases op <;> decide

/-- With its symbol and its operand, an operation is found, and its capture comes last. -/
theorem HasText.calls_operation (hg : HasText g root) (hop : lvl.has op = true)
    (h : Calls g input lvl.operand.production u true y l) :
    ∃ id a, g.rule? id = some (.action a (applyOperation op)) ∧
      Calls g input op.production (op.symbol.toList ++ u) true y
        (l ++ [.between input (op.symbol.toList ++ u) y id]) :=
  hg.attached.calls_action (lastOf_operation hop) (lookup_operation op)
    (.concatenation .terminal (.identifier (operand_ne lvl op) h))

theorem HasText.misses_operation (hg : HasText g root) (hop : lvl.has op = true)
    (h : ∀ u, x = op.symbol.toList ++ u →
      ∃ y l, Calls g input lvl.operand.production u false y l) :
    Calls g input op.production x false x [] := by
  obtain ⟨y, l, hfails⟩ : ∃ y l,
      (operationProduction lvl op).body.Gives g input (some op.production) x false y l := by
    by_cases hx : op.symbol.toList <+: x
    · obtain ⟨u, rfl⟩ := hx
      obtain ⟨y, l, hu⟩ := h u rfl
      exact ⟨_, _, .concatenation .terminal (.identifier (operand_ne lvl op) hu)⟩
    · exact ⟨_, _, .concatenation_fails (.terminal_fails hx)⟩
  exact hg.attached.calls_action_fails (lastOf_operation hop) (lookup_operation op) hfails

/-- Any of the operations of a level. -/
def turn (lvl : Level) : Expr :=
  .alternation (.identifier lvl.first.production) (.identifier lvl.second.production)

theorem operation_ne (lvl : Level) (op : Operation) :
    some (Part.chain lvl).production ≠ some op.production := by
  cases lvl <;> cases op <;> decide

theorem HasText.turn_gives (hg : HasText g root) (hop : lvl.has op = true)
    (h : Calls g input lvl.operand.production u true y l) :
    ∃ id a, g.rule? id = some (.action a (applyOperation op)) ∧
      (turn lvl).Gives g input (some (Part.chain lvl).production) (op.symbol.toList ++ u) true y
        (l ++ [.between input (op.symbol.toList ++ u) y id]) := by
  obtain ⟨id, a, hr, hcalls⟩ := hg.calls_operation hop h
  refine ⟨id, a, hr, ?_⟩
  have hgives := Expr.Gives.identifier (operation_ne lvl op) hcalls
  rcases (has_iff lvl op).1 hop with rfl | rfl
  · exact .alternation_first hgives
  · have hfirst : Calls g input lvl.first.production (lvl.second.symbol.toList ++ u) false
        (lvl.second.symbol.toList ++ u) [] := by
      refine hg.misses_operation ((has_iff lvl _).2 (.inl rfl)) fun v hv => ?_
      cases lvl <;> cases hv
    have hfound := Expr.Gives.alternation_second
      (.identifier (operation_ne lvl lvl.first) hfirst) hgives
    exact hfound

theorem HasText.turn_fails (hg : HasText g root)
    (h : ∀ op u, lvl.has op = true → x = op.symbol.toList ++ u →
      ∃ y l, Calls g input lvl.operand.production u false y l) :
    (turn lvl).Gives g input (some (Part.chain lvl).production) x false x [] := by
  have fails : ∀ op, lvl.has op = true →
      (Expr.identifier op.production).Gives g input (some (Part.chain lvl).production) x false x
        [] := fun op hop =>
    .identifier (operation_ne lvl op) (hg.misses_operation hop fun u hu => h op u hop hu)
  exact .alternation_second (fails lvl.first ((has_iff lvl _).2 (.inl rfl)))
    (fails lvl.second ((has_iff lvl _).2 (.inr rfl)))

/-! ## Products and sums -/

theorem lastOf_chain (lvl : Level) :
    lastOf (Part.chain lvl).production textGrammar.productions =
      some (.concatenation (.identifier lvl.operand.production) (.repetition (turn lvl))) := by
  cases lvl <;> rfl

theorem lookup_chain (lvl : Level) :
    attachments.reverse.lookup (Part.chain lvl).production = none := by
  cases lvl <;> rfl

theorem operand_ne_chain (lvl : Level) :
    some (Part.chain lvl).production ≠ some lvl.operand.production := by
  cases lvl <;> decide

theorem HasText.calls_chain (hg : HasText g root)
    (h : Calls g input lvl.operand.production x true y l)
    (hturns : (turn lvl).GivesMany g input (some (Part.chain lvl).production) y z m) :
    Calls g input (Part.chain lvl).production x true z (l ++ m) :=
  hg.attached.calls (lastOf_chain lvl) (lookup_chain lvl)
    (.concatenation (.identifier (operand_ne_chain lvl) h) hturns.repetition)

theorem HasText.misses_chain (hg : HasText g root)
    (h : Calls g input lvl.operand.production x false y l) :
    Calls g input (Part.chain lvl).production x false x l :=
  hg.attached.calls (lastOf_chain lvl) (lookup_chain lvl)
    (.concatenation_fails (.identifier (operand_ne_chain lvl) h))

/-! ## Whole texts -/

/-- The whole text is tried as a sum. -/
theorem HasText.whole_answers (hg : HasText g root) {matched : Bool}
    (h : Calls g input "sum" input matched y l) :
    ∃ start, g.rule? root = some (.endOfInput start) ∧
      Answers g input ⟨start, none, input⟩ matched (if matched then y else input) l := by
  obtain ⟨start, hroot, hstart⟩ := hg.root
  have hexpr : Calls g input "expr" input matched (if matched then y else input) l :=
    hg.attached.calls rfl rfl (.identifier (by decide) h)
  have hat : (Expr.identifier "expr").At .adjacent g start := .identifier hstart
  have hall := Expr.Gives.identifier (by decide : none ≠ some "expr") hexpr start hat
  refine ⟨start, hroot, ?_⟩
  cases matched <;> exact hall

/-- A text matches that is a sum to its end. -/
theorem HasText.root_matches (hg : HasText g root) (h : Calls g input "sum" input true [] l) :
    Answers g input ⟨root, none, input⟩ true [] l := by
  obtain ⟨start, hroot, hwhole⟩ := hg.whole_answers h
  exact .endOfInput hroot hwhole

theorem HasText.root_fails (hg : HasText g root) {matched : Bool}
    (h : Calls g input "sum" input matched y l) (hy : matched = true → y ≠ []) :
    Answers g input ⟨root, none, input⟩ false input l := by
  obtain ⟨start, hroot, hwhole⟩ := hg.whole_answers h
  refine .endOfInput_fails hroot hwhole ?_
  intro hmatched
  rw [if_pos hmatched]
  exact hy hmatched

end

end Peg.Arithmetic
