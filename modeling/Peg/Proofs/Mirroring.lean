-- Two arenas that match alike. An attempt in one goes with an attempt in the other, and either side
-- may make attempts of its own in between, if their answers are known and they record nothing. Both
-- come to the same ending then, and their captures correspond one by one.
import Mathlib.Data.List.Forall2
import Peg.Proofs.Answers
import Peg.Proofs.Attaching

namespace Peg

variable {σ : Type}

/-- Of two related options, both hold something or neither does. -/
theorem rel_cases {α β : Type} {R : α → β → Prop} {a : Option α} {b : Option β}
    (h : Option.Rel R a b) :
    a = none ∧ b = none ∨ ∃ x y, a = some x ∧ b = some y ∧ R x y := by
  cases h with
  | none => exact .inl ⟨rfl, rfl⟩
  | some hR => exact .inr ⟨_, _, rfl, rfl, hR⟩

/-! ## Plans side by side -/

/-- The plans make attempts that go with each other, one after another, and go on alike whatever
these come to. An attempt that only one side makes is left out. -/
inductive Plan.Mirrors (g h : Arena σ) (input : List Char) (R : Attempt → Attempt → Prop) :
    Plan → Plan → Prop where
  | finish (e : Ending) : Mirrors g h input R (.finish e) (.finish e)
  | attempt {a b : Attempt} {next next' : Bool → List Char → Plan} :
    R a b → b.rest = a.rest →
      (∀ matched y, y <:+ a.rest → Mirrors g h input R (next matched y) (next' matched y)) →
        Mirrors g h input R (.attempt a next) (.attempt b next')
  | left {a : Attempt} {next : Bool → List Char → Plan} {p : Plan} {matched : Bool}
      {y : List Char} :
    Answers g input a matched y [] → Mirrors g h input R (next matched y) p →
      Mirrors g h input R (.attempt a next) p
  | right {b : Attempt} {next : Bool → List Char → Plan} {p : Plan} {matched : Bool}
      {y : List Char} :
    Answers h input b matched y [] → Mirrors g h input R p (next matched y) →
      Mirrors g h input R p (.attempt b next)

/-- Attempts that go with each other have plans that do, and record captures that correspond by `C`
on top of such captures. -/
structure Arena.Mirrors (g h : Arena σ) (input : List Char) (R : Attempt → Attempt → Prop)
    (C : Capture → Capture → Prop) : Prop where
  plan : ∀ {a b}, R a b → (g.plan a).Mirrors g h input R (h.plan b)
  recorded : ∀ {a b e l m}, R a b → b.rest = a.rest → List.Forall₂ C l m →
    List.Forall₂ C (g.recorded input a e l) (h.recorded input b e m)

section

variable {g h : Arena σ} {input x : List Char} {R : Attempt → Attempt → Prop}
  {C : Capture → Capture → Prop} {p q : Plan} {next next' : Bool → List Char → Plan} {c : Course}
  {e : Ending}

theorem Plan.Mirrors.symm (hp : p.Mirrors g h input R q) :
    q.Mirrors h g input (fun b a => R a b) p := by
  induction hp with
  | finish e => exact .finish e
  | attempt hR hrest _ ih =>
    exact .attempt hR hrest.symm fun matched y hy => ih matched y (hrest ▸ hy)
  | left ha _ ih => exact .right ha ih
  | right hb _ ih => exact .left hb ih

theorem Arena.Mirrors.symm (hgh : g.Mirrors h input R C) :
    h.Mirrors g input (fun b a => R a b) (fun d c => C c d) where
  plan hR := (hgh.plan hR).symm
  recorded hR hrest hlm := .flip (hgh.recorded hR hrest.symm (.flip hlm))

/-- Behind attempts with one ending the plans go on alike. -/
theorem Plan.Mirrors.follow
    (hnext : ∀ matched y, y <:+ x → (next matched y).Mirrors g h input R (next' matched y))
    (he : e.rest <:+ x) : (e.follow next).Mirrors g h input R (e.follow next') := by
  unfold Ending.follow
  split
  · exact hnext _ _ he
  · exact .finish e

/-- An attempt with a known answer takes a course that is known as well. -/
theorem Answers.inside {a : Attempt} {inside : Course} {matched : Bool} {y : List Char}
    {l : List Capture} (h : Answers g input a matched y l) (hrun : Runs g (g.plan a) inside e) :
    e = ⟨.ok matched, y⟩ ∧ g.recorded input a e (inside.captures g input) = l := by
  obtain ⟨inside', hrun', hl⟩ := h
  obtain ⟨rfl, rfl⟩ := hrun'.unique hrun
  exact ⟨rfl, hl⟩

/-- Whatever one side comes to, the other comes to it as well. -/
theorem Runs.mirrored (hgh : g.Mirrors h input R C) (hrun : Runs g p c e)
    (hp : p.Mirrors g h input R q) :
    ∃ m, Does h input q e m ∧ List.Forall₂ C (c.captures g input) m := by
  induction hrun generalizing q with
  | finish e =>
    generalize hfinish : Plan.finish e = p at hp
    induction hp with
    | finish e' =>
      cases hfinish
      exact ⟨[], .finish, .nil⟩
    | attempt _ _ _ _ => cases hfinish
    | left _ _ _ => cases hfinish
    | right hb _ ih =>
      obtain ⟨m, hdoes, hm⟩ := ih hfinish
      exact ⟨m, .attempt hb hdoes, hm⟩
  | @attempt a next inside later e e' h₁ h₂ ih₁ ih₂ =>
    generalize hattempt : Plan.attempt a next = p at hp
    induction hp with
    | finish e' => cases hattempt
    | @attempt a b next next' hR hrest hnext _ =>
      cases hattempt
      obtain ⟨m, ⟨inside', hinside, rfl⟩, hm⟩ := ih₁ (hgh.plan hR)
      obtain ⟨m', ⟨later', hlater, rfl⟩, hm'⟩ := ih₂ (.follow hnext h₁.rest_suffix)
      exact ⟨_, ⟨_, .attempt hinside hlater, rfl⟩, List.rel_append (hgh.recorded hR hrest hm) hm'⟩
    | left ha hmore _ =>
      cases hattempt
      obtain ⟨rfl, hnone⟩ := ha.inside h₁
      obtain ⟨m, hdoes, hm⟩ := ih₂ hmore
      refine ⟨m, hdoes, ?_⟩
      rw [Course.captures, hnone]
      exact hm
    | right hb _ ih =>
      obtain ⟨m, hdoes, hm⟩ := ih hattempt
      exact ⟨m, .attempt hb hdoes, hm⟩

end

/-! ## Matches side by side -/

section

variable {g h : Arena σ} {R : Attempt → Attempt → Prop} {C : Capture → Capture → Prop}
  {s : MatchState} {id id' : RuleId}

/-- Matches that begin with attempts that go with each other end alike. -/
theorem Arena.Mirrors.alike (hgh : g.Mirrors h s.cursor.input R C)
    (hR : R (s.attempt id) (s.attempt id')) :
    Alike (Match.eval g id s) (Match.eval h id' s) := by
  rcases eval_sound g id s with ⟨t, hg⟩ | ⟨inside, e, hrun, hends⟩
  · rcases eval_sound h id' s with ⟨t', hh⟩ | ⟨inside, e, hrun, -⟩
    · rw [hg, hh]
      exact .endless
    · -- if the second match came to an ending, so would the first one
      obtain ⟨m, ⟨inside', hrun', -⟩, -⟩ := hrun.mirrored hgh.symm (hgh.symm.plan hR)
      exact absurd ⟨t, hg⟩ hrun'.eval_ends.not_exhausted
  · obtain ⟨m, ⟨inside', hrun', -⟩, -⟩ := hrun.mirrored hgh (hgh.plan hR)
    exact hends.alike hrun'.eval_ends

/-- Their captures correspond, if those did that were there before. -/
theorem Arena.Mirrors.captures (hgh : g.Mirrors h s.cursor.input R C)
    (hR : R (s.attempt id) (s.attempt id')) (hs : List.Forall₂ C s.captures s.captures)
    {matched matched' : Bool} {t t' : MatchState} (ht : Match.eval g id s = .ok matched t)
    (ht' : Match.eval h id' s = .ok matched' t') : List.Forall₂ C t.captures t'.captures := by
  obtain ⟨inside, hrun, hreach⟩ := eval_ok ht
  obtain ⟨inside', hrun', hreach'⟩ := eval_ok ht'
  obtain ⟨m, ⟨d, hd, rfl⟩, hm⟩ := hrun.mirrored hgh (hgh.plan hR)
  obtain ⟨rfl, he⟩ := hrun'.unique hd
  rw [hreach.captures, hreach'.captures, ← he]
  simp only [Course.captures, List.append_nil]
  exact List.rel_append hs (hgh.recorded hR rfl hm)

end

/-! ## Rules of one form -/

/-- Rules of one form, with parts that correspond. -/
inductive Rule.SameForm (S : RuleId → RuleId → Prop) : Rule σ → Rule σ → Prop where
  | alone {r : Rule σ} : r.children = [] → SameForm S r r
  | not {a b : RuleId} : S a b → SameForm S (.not a) (.not b)
  | endOfInput {a b : RuleId} : S a b → SameForm S (.endOfInput a) (.endOfInput b)
  | sequence {a b a' b' : RuleId} : S a b → S a' b' → SameForm S (.sequence a a') (.sequence b b')
  | spaced {a b a' b' : RuleId} : S a b → S a' b' → SameForm S (.spaced a a') (.spaced b b')
  | choice {a b a' b' : RuleId} : S a b → S a' b' → SameForm S (.choice a a') (.choice b b')
  | zeroOrMore {a b : RuleId} : S a b → SameForm S (.zeroOrMore a) (.zeroOrMore b)
  | oneOrMore {a b : RuleId} : S a b → SameForm S (.oneOrMore a) (.oneOrMore b)
  | optional {a b : RuleId} : S a b → SameForm S (.optional a) (.optional b)
  | action {a b : RuleId} {run : Action σ} :
    S a b → SameForm S (.action a run) (.action b run)

/-- Wherever white space may be left out, both arenas leave out the same, and record nothing. -/
def Arena.SpaceAlike (g h : Arena σ) (input : List Char) : Prop :=
  ∀ active y, ∃ matched z, Answers g input ⟨g.whitespace, active, y⟩ matched z [] ∧
    Answers h input ⟨h.whitespace, active, y⟩ matched z []

theorem Arena.DefaultSpaced.spaceAlike {g h : Arena σ} (hg : g.DefaultSpaced)
    (hh : h.DefaultSpaced) (input : List Char) : g.SpaceAlike h input := by
  intro active y
  rw [hg.whitespace, hh.whitespace]
  exact ⟨true, _, hg.grown.hasDefaultSpace.answers y, hh.grown.hasDefaultSpace.answers y⟩

section

variable {g h : Arena σ} {input x : List Char} {R : Attempt → Attempt → Prop}
  {S : RuleId → RuleId → Prop} {active : Option String} {r r' : Rule σ} {a b : RuleId}

theorem Rule.SameForm.refl (hr : ∀ a ∈ r.children, S a a) : r.SameForm S r := by
  cases r with
  | literal | range | pattern | reference => exact .alone rfl
  | not a => exact .not (hr a (by simp [Rule.children]))
  | endOfInput a => exact .endOfInput (hr a (by simp [Rule.children]))
  | zeroOrMore a => exact .zeroOrMore (hr a (by simp [Rule.children]))
  | oneOrMore a => exact .oneOrMore (hr a (by simp [Rule.children]))
  | optional a => exact .optional (hr a (by simp [Rule.children]))
  | action a run => exact .action (hr a (by simp [Rule.children]))
  | sequence a b =>
    exact .sequence (hr a (by simp [Rule.children])) (hr b (by simp [Rule.children]))
  | spaced a b => exact .spaced (hr a (by simp [Rule.children])) (hr b (by simp [Rule.children]))
  | choice a b => exact .choice (hr a (by simp [Rule.children])) (hr b (by simp [Rule.children]))

/-- Repetitions go with each other if each single attempt does. -/
theorem repeating_mirrors {done done' : Nat → List Char → Plan}
    (hparts : ∀ y, y <:+ x → R ⟨a, active, y⟩ ⟨b, active, y⟩)
    (hdone : ∀ count y, y <:+ x → (done count y).Mirrors g h input R (done' count y))
    {y : List Char} (hy : y <:+ x) (count : Nat) :
    (Plan.repeating ⟨a, active, y⟩ done count).Mirrors g h input R
      (Plan.repeating ⟨b, active, y⟩ done' count) := by
  rw [Plan.repeating, Plan.repeating]
  refine .attempt (hparts y hy) rfl fun matched z hz => ?_
  have hzx : z <:+ x := hz.trans hy
  cases matched with
  | false => exact hdone count y hy
  | true =>
    simp only [if_true]
    split
    · next hlt => exact repeating_mirrors hparts hdone hzx (count + 1)
    · exact hdone (count + 1) z hzx
termination_by y.length

/-- Rules of one form have plans that go with each other, if their parts do, and what a name stands
for does. -/
theorem ofRule_mirrors (hspace : g.SpaceAlike h input) (hform : r.SameForm S r')
    (hparts : ∀ {a b y}, S a b → y <:+ x → R ⟨a, active, y⟩ ⟨b, active, y⟩)
    (hname : ∀ name, r = .reference name → active ≠ some name →
      Option.Rel (fun a b => R ⟨a, some name, x⟩ ⟨b, some name, x⟩) (g.named? name)
        (h.named? name)) :
    (Plan.ofRule g active x r).Mirrors g h input R (Plan.ofRule h active x r') := by
  cases hform with
  | alone halone =>
    cases r with
    | literal | range | pattern => exact .finish _
    | reference name =>
      by_cases hactive : active = some name
      · simp only [Plan.ofRule, if_pos hactive]
        exact .finish _
      · simp only [Plan.ofRule, if_neg hactive]
        rcases rel_cases (hname name rfl hactive) with ⟨hnone, hnone'⟩ | ⟨a, b, ha, hb, hR⟩
        · rw [hnone, hnone']
          exact .finish _
        · rw [ha, hb]
          exact .attempt hR rfl fun _ _ _ => .finish _
    | _ => simp [Rule.children] at halone
  | not ha => exact .attempt (hparts ha List.suffix_rfl) rfl fun _ _ _ => .finish _
  | endOfInput ha => exact .attempt (hparts ha List.suffix_rfl) rfl fun _ _ _ => .finish _
  | optional ha => exact .attempt (hparts ha List.suffix_rfl) rfl fun _ _ _ => .finish _
  | action ha => exact .attempt (hparts ha List.suffix_rfl) rfl fun _ _ _ => .finish _
  | zeroOrMore ha =>
    exact repeating_mirrors (fun y => hparts ha) (fun _ _ _ => .finish _) List.suffix_rfl 0
  | oneOrMore ha =>
    exact repeating_mirrors (fun y => hparts ha) (fun _ _ _ => .finish _) List.suffix_rfl 0
  | sequence ha hb =>
    refine .attempt (hparts ha List.suffix_rfl) rfl fun matched y hy => ?_
    cases matched with
    | false => exact .finish _
    | true => exact .attempt (hparts hb hy) rfl fun _ _ _ => .finish _
  | spaced ha hb =>
    refine .attempt (hparts ha List.suffix_rfl) rfl fun matched y hy => ?_
    cases matched with
    | false => exact .finish _
    | true =>
      obtain ⟨matched, z, hz, hz'⟩ := hspace active y
      refine .left hz (.right hz' ?_)
      cases matched with
      | false => exact .finish _
      | true => exact .attempt (hparts hb (hz.rest_suffix.trans hy)) rfl fun _ _ _ => .finish _
  | choice ha hb =>
    refine .attempt (hparts ha List.suffix_rfl) rfl fun matched y _ => ?_
    cases matched with
    | false => exact .attempt (hparts hb List.suffix_rfl) rfl fun _ _ _ => .finish _
    | true => exact .finish _

end

end Peg
