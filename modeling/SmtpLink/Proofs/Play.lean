import SmtpLink.Proofs.Run

/-!
# Runs played by choices

A run is determined by what the running code chooses to do.  A player computes the run that a
list of choices makes, so that a concrete run is written down as its choices and checked by
evaluation.

## Main definitions

* `Choice` — what may be chosen: an operation, a return, or to go on with what is due.
* `Machine.play` — the run that choices make; it stops at a choice that is not open.
* `Machine.track` — the steps of that run.
* `Machine.PlaysBy rule` — the choices keep a rule.

## Main results

* `Machine.run_play`, `Machine.runBy_play`, `Machine.trail_play` — **what is played is a run.**
-/

namespace SmtpLink

variable {H : Type}

/-- What may be chosen in the course of a run. -/
inductive Choice (H : Type)
  /-- The running code asks for an operation. -/
  | operate (operation : Operation H)
  /-- What is due is done: work, or the call of a handler. -/
  | proceed
  /-- The running handler returns. -/
  | leave

namespace Machine

variable {m n start : Machine H} {label : Label H} {labels : List (Label H)}

/-- The move that a choice makes, if it is open. -/
def advance (m : Machine H) : Choice H → Option (Label H × Machine H)
  | .operate operation =>
    match m.frames with
    | .code :: _ => some (.operate operation, m.performed operation)
    | _ => none
  | .proceed =>
    match m.frames with
    | .work (.call handler notice) :: frames =>
      some (.call handler notice, ⟨m.endpoint, .code :: frames⟩)
    | .work w :: frames => some (.work, after m.endpoint w frames)
    | _ => none
  | .leave =>
    match m.frames with
    | .code :: frame :: frames => some (.leave, ⟨m.endpoint, frame :: frames⟩)
    | _ => none

/-- The run that choices make: its labels and the machine it ends with.  It stops at a choice
that is not open. -/
def play (m : Machine H) : List (Choice H) → List (Label H) × Machine H
  | [] => ([], m)
  | choice :: choices =>
    match m.advance choice with
    | none => ([], m)
    | some (label, n) => (label :: (n.play choices).1, (n.play choices).2)

/-- The steps of the run that choices make. -/
def track (m : Machine H) : List (Choice H) → List (Step H)
  | [] => []
  | choice :: choices =>
    match m.advance choice with
    | none => []
    | some (label, n) => ⟨m, label⟩ :: n.track choices

/-- The choices keep a rule, in a run that has shown `labels` so far. -/
def PlaysBy (rule : List (Label H) → Machine H → Label H → Prop) (labels : List (Label H))
    (m : Machine H) : List (Choice H) → Prop
  | [] => True
  | choice :: choices =>
    match m.advance choice with
    | none => True
    | some (label, n) => rule labels m label ∧ PlaysBy rule (labels ++ [label]) n choices

instance decidablePlaysBy {rule : List (Label H) → Machine H → Label H → Prop}
    [∀ labels m label, Decidable (rule labels m label)] (labels : List (Label H)) (m : Machine H)
    (choices : List (Choice H)) : Decidable (PlaysBy rule labels m choices) :=
  match choices with
  | [] => .isTrue trivial
  | choice :: choices =>
    match h : m.advance choice with
    | none => decidable_of_iff True (by simp [PlaysBy, h])
    | some (label, n) =>
      have : Decidable (PlaysBy rule (labels ++ [label]) n choices) :=
        decidablePlaysBy (labels ++ [label]) n choices
      decidable_of_iff (rule labels m label ∧ PlaysBy rule (labels ++ [label]) n choices)
        (by simp [PlaysBy, h])

instance (m : Machine H) : Decidable m.Settled :=
  decidable_of_iff ((match m.frames with | [.code] => true | _ => false) = true) <| by
    unfold Settled
    split
    · next h => exact iff_of_true rfl h
    · next h => exact iff_of_false (by simp) h

theorem move_of_advance {choice : Choice H} (h : m.advance choice = some (label, n)) :
    Move Operation.Any m label n := by
  obtain ⟨e, frames⟩ := m
  unfold advance at h
  split at h
  · split at h
    · next hf =>
      obtain ⟨rfl, rfl⟩ := Prod.mk.inj (Option.some.inj h)
      cases hf
      exact Move.operate trivial
    · exact absurd h (by simp)
  · split at h
    · next hf =>
      obtain ⟨rfl, rfl⟩ := Prod.mk.inj (Option.some.inj h)
      cases hf
      exact Move.call
    · next w rest hnot hf =>
      obtain ⟨rfl, rfl⟩ := Prod.mk.inj (Option.some.inj h)
      cases hf
      exact Move.work fun handler notice hw => hnot handler notice hw
    · exact absurd h (by simp)
  · split at h
    · next hf =>
      obtain ⟨rfl, rfl⟩ := Prod.mk.inj (Option.some.inj h)
      cases hf
      exact Move.leave
    · exact absurd h (by simp)

/-- **What is played is a run.** -/
theorem run_play (m : Machine H) (choices : List (Choice H)) :
    Run Operation.Any m (m.play choices).1 (m.play choices).2 := by
  induction choices generalizing m with
  | nil => exact .nil m
  | cons choice choices ih =>
    cases h : m.advance choice with
    | none =>
      simp only [play, h]
      exact .nil m
    | some next =>
      simp only [play, h]
      exact Run.cons (move_of_advance h) (ih next.2)

/-- **What is played leaves its trail.** -/
theorem trail_play {steps : List (Step H)} (choices : List (Choice H))
    (trail : Trail start steps m) :
    Trail start (steps ++ m.track choices) (m.play choices).2 := by
  induction choices generalizing m steps with
  | nil =>
    rw [track, List.append_nil]
    exact trail
  | cons choice choices ih =>
    cases hc : m.advance choice with
    | none =>
      simp only [play, track, hc, List.append_nil]
      exact trail
    | some next =>
      simp only [play, track, hc]
      have := ih (trail.snoc (move_of_advance hc))
      rwa [List.append_assoc] at this

/-- **What is played by a rule is a run by the rule.** -/
theorem runBy_play {rule : List (Label H) → Machine H → Label H → Prop}
    (choices : List (Choice H)) (run : RunBy rule start labels m)
    (h : PlaysBy rule labels m choices) :
    RunBy rule start (labels ++ (m.play choices).1) (m.play choices).2 := by
  induction choices generalizing m labels with
  | nil =>
    rw [play, List.append_nil]
    exact run
  | cons choice choices ih =>
    cases hc : m.advance choice with
    | none =>
      simp only [play, hc, List.append_nil]
      exact run
    | some next =>
      simp only [PlaysBy, hc] at h
      simp only [play, hc]
      have := ih (run.snoc (move_of_advance hc) h.1) h.2
      rwa [List.append_assoc] at this

end Machine

end SmtpLink
