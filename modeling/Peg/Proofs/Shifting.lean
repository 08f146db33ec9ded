-- Matching goes by the text that is left and the active name alone. What was read before, the
-- captures, the depth and the log that there are only add to what is left behind.
import Peg.Proofs.Nesting

namespace Peg

open Text

variable {σ : Type}

/-! ## Behind another text -/

/-- The capture that lies in the text with `u` in front of it. -/
def Capture.behind (u : List Char) (c : Capture) : Capture :=
  ⟨⟨u ++ c.span.source, byteLength u + c.start, byteLength u + c.stop,
    Nat.add_le_add_left c.span.ordered _⟩, c.rule⟩

/-- The halt in the text with `u` in front of it. Positions are moved, and errors in the grammar
stay what they are. -/
def Halt.behind (u : List Char) : Halt → Halt
  | .fault (.seekOutOfRange position length) =>
    .fault (.seekOutOfRange (byteLength u + position) (byteLength u + length))
  | halt => halt

section

variable {g : Arena σ} {a : Attempt} {e : Ending} {u v x y : List Char}

theorem offset_append (hx : x <:+ v) (u : List Char) :
    offset (u ++ v) x = byteLength u + offset v x := by
  obtain ⟨w, rfl⟩ := hx
  simp only [offset, byteLength_append]
  omega

theorem Capture.between_append (hx : x <:+ v) (u y : List Char) (id : RuleId) :
    Capture.between (u ++ v) x y id = (Capture.between v x y id).behind u := by
  simp only [Capture.between, Capture.behind, Capture.start, Capture.stop, offset_append hx,
    Nat.add_assoc]

theorem Stop.halt_append (hx : x <:+ v) (u : List Char) (stop : Stop) :
    stop.halt (u ++ v) x = (stop.halt v x).behind u := by
  cases stop with
  | unknownRule name => rfl
  | noSuchRule => rfl
  | insideCharacter count =>
    simp only [Stop.halt, Halt.behind, offset_append hx, byteLength_append, Nat.add_assoc]

theorem Arena.recorded_append (ha : a.rest <:+ v) (u : List Char) (inside : List Capture) :
    g.recorded (u ++ v) a e (inside.map (·.behind u)) =
      (g.recorded v a e inside).map (·.behind u) := by
  unfold Arena.recorded
  split
  · rw [List.map_append, List.map_singleton, Capture.between_append ha]
  · rfl
  · rfl

/-- The captures of a course move with the text that it goes through. -/
theorem Runs.captures_append {p : Plan} {c : Course} (h : Runs g p c e)
    (hp : p.Obeys (·.rest <:+ v) (·.rest <:+ v)) (u : List Char) :
    c.captures g (u ++ v) = (c.captures g v).map (·.behind u) := by
  induction h with
  | finish e => rfl
  | @attempt a next inside later e e' h₁ h₂ ih₁ ih₂ =>
    have ha : a.rest <:+ v := hp.1
    have hinside := ih₁ ((plan_within g a).mono (fun _ hb => hb.trans ha) fun _ he => he.trans ha)
    have hlater := ih₂ (hp.follow h₁.rest_suffix (h₁.rest_suffix.trans ha))
    rw [Course.captures, hinside, hlater, Arena.recorded_append ha, Course.captures,
      List.map_append]

end

/-! ## Two matches -/

/-- The state in the text `u ++ v`, with `u` read. -/
def MatchState.placed (s : MatchState) (u v : List Char) : MatchState :=
  { s with cursor := ⟨u ++ v, byteLength u, v, after?_append u v⟩ }

/-- The new state of a text `v`, with the active name that `s` has. -/
def MatchState.anew (s : MatchState) (v : List Char) : MatchState :=
  (MatchState.ofText v false).setActive s.active

/-- `t` is what `t'` is with `u` in front of the text, on top of what `s` has. -/
structure Shifted (u : List Char) (s t t' : MatchState) : Prop where
  input : t.cursor.input = u ++ t'.cursor.input
  position : t.position = byteLength u + t'.position
  captures : t.captures = s.captures ++ t'.captures.map (·.behind u)
  depth : t.depth = s.depth + t'.depth
  active : t.active = t'.active

/-- Two matches come to the same answer or the same halt, or neither of them has an end. -/
inductive SameMatch (u : List Char) (s : MatchState) :
    EStateM.Result Halt MatchState Bool → EStateM.Result Halt MatchState Bool → Prop where
  | answered {matched : Bool} {t t' : MatchState} :
    Shifted u s t t' → SameMatch u s (.ok matched t) (.ok matched t')
  | halted {halt : Halt} {t t' : MatchState} :
    Shifted u s t t' → SameMatch u s (.error (halt.behind u) t) (.error halt t')
  | endless {t t' : MatchState} : SameMatch u s (.error .outOfFuel t) (.error .outOfFuel t')

section

variable {g : Arena σ} {a : Attempt} {s t t' : MatchState} {inside : Course} {e : Ending}
  {u v : List Char}

/-- A course of attempts adds the same on either side. -/
theorem Reaches.shifted (ha : a.rest <:+ v) (hrun : Runs g (g.plan a) inside e)
    (h : Reaches g (s.placed u v) (.made a inside e .none) e.rest t)
    (h' : Reaches g (s.anew v) (.made a inside e .none) e.rest t') : Shifted u s t t' where
  input := by
    rw [h.input, h'.input]
    rfl
  position := by
    rw [h.position_eq, h'.position_eq]
    exact offset_append (hrun.rest_suffix.trans ha) u
  captures := by
    have hcourse := hrun.alone.captures_append ⟨ha, fun _ _ hy => hy.trans ha⟩ u
    have ht : t.captures = s.captures ++ Course.captures g (u ++ v) _ := h.captures
    have ht' : t'.captures = [] ++ Course.captures g v _ := h'.captures
    rw [ht, ht', hcourse, List.nil_append]
  depth := by
    have ht : t.depth = s.depth + Course.unclosed g _ := h.depth
    have ht' : t'.depth = 0 + Course.unclosed g _ := h'.depth
    rw [ht, ht', Nat.zero_add]
  active := by
    rw [h.active, h'.active]
    rfl

/-- Of one course of attempts there is one ending. -/
theorem Ends.sameMatch (ha : a.rest <:+ v) (hrun : Runs g (g.plan a) inside e)
    {result result' : EStateM.Result Halt MatchState Bool}
    (h : Ends g (s.placed u v) (.made a inside e .none) e result)
    (h' : Ends g (s.anew v) (.made a inside e .none) e result') : SameMatch u s result result' := by
  cases he : e.answer with
  | ok matched =>
    obtain ⟨t, rfl, hreach⟩ := h.answered he
    obtain ⟨t', rfl, hreach'⟩ := h'.answered he
    exact .answered (hreach.shifted ha hrun hreach')
  | error stop =>
    obtain ⟨t, rfl, hreach⟩ := h.halted he
    obtain ⟨t', rfl, hreach'⟩ := h'.halted he
    have hmoved : stop.halt (u ++ v) e.rest = (stop.halt v e.rest).behind u :=
      Stop.halt_append (hrun.rest_suffix.trans ha) u stop
    show SameMatch u s (.error (stop.halt (u ++ v) e.rest) t) _
    rw [hmoved]
    exact .halted (hreach.shifted ha hrun hreach')

end

/-- A match behind `u` in the text `u ++ v`, with any captures before it, at any depth and traced or
not, goes as the match of `v` from a new state does, under the same active name. -/
theorem matching_goes_by_what_is_left (g : Arena σ) (id : RuleId) (s : MatchState)
    (u v : List Char) :
    SameMatch u s (Match.eval g id (s.placed u v)) (Match.eval g id (s.anew v)) := by
  -- both begin with the same attempt, and so they take the same course if there is one
  have hattempt : (s.anew v).attempt id = (s.placed u v).attempt id := rfl
  rcases eval_sound g id (s.placed u v) with ⟨t, ht⟩ | ⟨inside, e, hrun, hends⟩
  · rcases eval_sound g id (s.anew v) with ⟨t', ht'⟩ | ⟨inside, e, hrun, -⟩
    · rw [ht, ht']
      exact .endless
    · rw [hattempt] at hrun
      exact absurd ⟨t, ht⟩ hrun.eval_ends.not_exhausted
  · rw [← hattempt] at hrun
    exact Ends.sameMatch List.suffix_rfl hrun hends hrun.eval_ends

end Peg
