import SmtpLink.Proofs.Play
import SmtpLink.Proofs.Scope

/-!
# Lines that wait for room

A line that no reply answers is held back while the queue of the transport is full.  When the
queue has drained, all lines held back are taken out at once and handed over one after the
other, each with a call of its handler.  A line waits, then, either with the connection or among
the work that is due.  Those that wait with the work are due first; a line that is submitted by a
handler in between knows nothing of them.

## Main definitions

* `Machine.Step.submitted`, `Machine.Step.handed` — the lines that are submitted and that are
  handed to the transport.
* `Machine.detached`, `Machine.waiting` — the lines that wait with the work, and all lines that
  wait, in the order of their turns.
* `Machine.LinedUp` — lines are handed over in the order in which they were submitted, and those
  that wait will be.
* `Machine.Step.overtakes` — a line, or a whole queue, goes past lines that wait with the work.

## Main results

* `Machine.turn_of_not_overtakes` — **a step keeps the order unless it overtakes.**
* `Machine.lines_in_order` — **lines reach the transport in the order in which they were
  submitted**, exactly as long as none overtakes.
-/

namespace SmtpLink

variable {H : Type}

/-- The line that the work may hand over: one that was held back, or one that is submitted. -/
def Work.line? : Work H → Option (Deferred H)
  | .sendDeferred d => some d
  | .perform (.writeLineWithRoom line handler) => some { line, handler }
  | _ => none

/-- The line that waits for its turn with the work. -/
def Frame.deferred? : Frame H → Option (Deferred H)
  | .work w => w.deferred?
  | .code => none

/-- Of two things in a list without repetitions, one comes first. -/
theorem not_sublist_swap {α : Type} {l : List α} (nodup : l.Nodup) {a b : α}
    (h : [a, b].Sublist l) : ¬ [b, a].Sublist l := by
  induction l with
  | nil => exact absurd h (by simp)
  | cons x l ih =>
    obtain ⟨fresh, nodup⟩ := List.nodup_cons.mp nodup
    intro swapped
    rcases List.sublist_cons_iff.mp h with inside | ⟨rest, hr, after⟩
    · rcases List.sublist_cons_iff.mp swapped with inside' | ⟨rest', hr', after'⟩
      · exact ih nodup inside inside'
      · obtain ⟨rfl, -⟩ := List.cons.inj hr'
        exact fresh (inside.subset (by simp))
    · obtain ⟨rfl, rfl⟩ := List.cons.inj hr
      rcases List.sublist_cons_iff.mp swapped with inside' | ⟨rest', hr', after'⟩
      · exact fresh (inside'.subset (by simp))
      · obtain ⟨rfl, -⟩ := List.cons.inj hr'
        exact fresh (after.subset (by simp))

namespace Endpoint

variable {e : Endpoint H} {w : Work H}

/-- The lines that the work hands to the transport: one at most. -/
def handed (e : Endpoint H) (w : Work H) : List (Deferred H) :=
  match w.line? with
  | some d => if (e.resume w).1.written = e.written ++ [lineBytes d.line] then [d] else []
  | none => []

/-- Work hands over at most its own line. -/
theorem handed_sublist (e : Endpoint H) (w : Work H) : (e.handed w).Sublist w.line?.toList := by
  unfold handed
  split
  · next d h =>
    rw [h]
    split
    · exact List.Sublist.refl _
    · exact List.nil_sublist _
  · exact List.nil_sublist _

theorem handed_of_same (h : (e.resume w).1.written = e.written) : e.handed w = [] := by
  unfold handed
  split
  · rw [if_neg]
    intro wrote
    exact absurd (h.symm.trans wrote) (by simp)
  · rfl

/-- A line that is submitted is held back behind all others, or it has its turn at once; it is
handed over only where none is held back. -/
theorem writeLineWithRoom_turn (e : Endpoint H) (line : String) (handler : H) :
    (e.writeLineWithRoom line handler).2.filterMap Work.deferred? = [] ∧
    ((e.handed (.perform (.writeLineWithRoom line handler)) = [] ∧
      (e.writeLineWithRoom line handler).1.conn.deferred = e.conn.deferred ++ [⟨line, handler⟩]) ∨
    ((e.handed (.perform (.writeLineWithRoom line handler)) = [] ∨ e.conn.deferred = []) ∧
      (e.writeLineWithRoom line handler).1.conn.deferred = e.conn.deferred)) := by
  have quiet (same : (e.writeLineWithRoom line handler).1.written = e.written) :
      e.handed (.perform (.writeLineWithRoom line handler)) = [] := handed_of_same same
  have held (d : Endpoint H) (wrote : d.written = e.written) :
      (d.defer line handler).written = e.written :=
    ((touches_remark (s := {}) d .queueFull).written_eq rfl).trans wrote
  generalize e.handed (.perform (.writeLineWithRoom line handler)) = given at quiet
  revert quiet
  unfold writeLineWithRoom
  split
  · exact fun quiet => ⟨rfl, .inr ⟨.inl (quiet rfl), rfl⟩⟩
  · split
    · exact fun quiet => ⟨rfl, .inr ⟨.inl (quiet rfl), rfl⟩⟩
    · next id _ =>
      have conn := conn_askFull e id
      have asked : (e.askFull id).2.written = e.written :=
        (touches_askFull (s := {}) e id).written_eq rfl
      split
      · exact fun quiet => ⟨rfl, .inl ⟨quiet (held e rfl), rfl⟩⟩
      · next none =>
        split
        · next d hask =>
          rw [hask] at conn asked
          refine fun quiet => ⟨rfl, .inl ⟨quiet (held d asked), ?_⟩⟩
          show d.conn.deferred ++ _ = _
          rw [conn]
        · next d hask =>
          rw [hask] at conn
          have sent := conn_sendBytes (d.remark (.content line)) id (lineBytes line)
          refine fun _ => ⟨rfl, .inr ⟨.inr (by simpa using none), ?_⟩⟩
          show ((d.remark (.content line)).sendBytes id (lineBytes line)).1.conn.deferred = _
          rw [sent, conn_remark, conn]

end Endpoint

namespace Machine

variable {m n : Machine H} {label : Label H} {steps : List (Step H)}

/-- The lines that wait with the work that is due, in the order of their turns. -/
def detached (m : Machine H) : List (Deferred H) := m.frames.filterMap Frame.deferred?

/-- All lines that wait, in the order of their turns. -/
def waiting (m : Machine H) : List (Deferred H) := m.detached ++ m.endpoint.conn.deferred

namespace Step

/-- The lines that a step submits: one at most. -/
def submitted (step : Step H) : List (Deferred H) :=
  match step.label with
  | .operate (.writeLineWithRoom line handler) => [{ line, handler }]
  | _ => []

/-- The lines that a step hands to the transport: one at most. -/
def handed (step : Step H) : List (Deferred H) :=
  match step.work? with
  | some w => step.before.endpoint.handed w
  | none => []

/-- A line that is submitted, or the whole queue of those held back, goes past lines that wait
with the work. -/
def overtakes (step : Step H) : Bool :=
  !step.before.detached.isEmpty &&
    match step.label with
    | .operate .drained => !step.before.endpoint.conn.deferred.isEmpty
    | .operate (.writeLineWithRoom _ _) => !step.handed.isEmpty
    | _ => false

end Step

/-- Lines were handed over in the order in which they were submitted, and those that wait are
next. -/
def LinedUp (steps : List (Step H)) (m : Machine H) : Prop :=
  (steps.flatMap Step.handed ++ m.waiting).Sublist (steps.flatMap Step.submitted)

/-! ### Turns -/

theorem detached_after (e : Endpoint H) (w : Work H) (frames : List (Frame H)) :
    (after e w frames).detached =
      (e.resume w).2.filterMap Work.deferred? ++ frames.filterMap Frame.deferred? := by
  have same : (Frame.deferred? ∘ Frame.work : Work H → Option (Deferred H)) = Work.deferred? := rfl
  rw [detached, frames_after, List.filterMap_append, List.filterMap_map, same]

/-- Work that has nothing to do with lines held back leaves them waiting, or drops them with the
socket. -/
theorem waiting_after {e : Endpoint H} {w : Work H} (h : (e.scope w).deferred = false)
    (frames : List (Frame H)) :
    (after e w frames).waiting.Sublist
      (frames.filterMap Frame.deferred? ++ e.conn.deferred) := by
  have within := e.within_resume w
  rw [waiting, detached_after, within.sends h, List.nil_append]
  refine List.Sublist.append_left ?_ _
  rcases within.touches.deferred h with same | none
  · simp only [endpoint_after, same, List.Sublist.refl]
  · rw [endpoint_after, none]
    exact List.nil_sublist _

/-- Work that was due hands over what waited first. -/
theorem turn_of_work {e : Endpoint H} {w : Work H} (notPerform : w.isPerform = false)
    (frames : List (Frame H)) :
    (e.handed w ++ (after e w frames).waiting).Sublist (waiting ⟨e, .work w :: frames⟩) := by
  have unscoped : (e.scope w).deferred = false := by
    cases w with
    | perform operation => exact absurd notPerform (by simp [Work.isPerform])
    | runTasks =>
      rw [Endpoint.scope]
      split <;> rfl
    | _ => rfl
  have line : w.line? = w.deferred? := by
    cases w with
    | perform operation => exact absurd notPerform (by simp [Work.isPerform])
    | _ => rfl
  have first : waiting ⟨e, .work w :: frames⟩ =
      w.deferred?.toList ++ (frames.filterMap Frame.deferred? ++ e.conn.deferred) := by
    cases w <;> rfl
  have handed := e.handed_sublist w
  rw [line] at handed
  rw [first]
  exact handed.append (waiting_after unscoped frames)

/-- A submitted line is handed over only where none waits, and waits behind all others
otherwise. -/
theorem turn_of_submitted {e : Endpoint H} {line : String} {handler : H} {frames : List (Frame H)}
    (calm : frames.filterMap Frame.deferred? = [] ∨
      e.handed (.perform (.writeLineWithRoom line handler)) = []) :
    (e.handed (.perform (.writeLineWithRoom line handler)) ++
      (after e (.perform (.writeLineWithRoom line handler)) frames).waiting).Sublist
      (frames.filterMap Frame.deferred? ++ e.conn.deferred ++ [⟨line, handler⟩]) := by
  obtain ⟨sends, turn⟩ := e.writeLineWithRoom_turn line handler
  have left : (after e (.perform (.writeLineWithRoom line handler)) frames).waiting =
      frames.filterMap Frame.deferred? ++ (e.writeLineWithRoom line handler).1.conn.deferred := by
    rw [waiting, detached_after]
    show (e.writeLineWithRoom line handler).2.filterMap Work.deferred? ++ _ ++ _ = _
    rw [sends, List.nil_append]
    rfl
  rw [left]
  rcases turn with ⟨quiet, last⟩ | ⟨atOnce, same⟩
  · rw [quiet, last, List.nil_append]
    simp only [List.append_assoc, List.Sublist.refl]
  · rw [same]
    by_cases quiet : e.handed (.perform (.writeLineWithRoom line handler)) = []
    · rw [quiet, List.nil_append]
      exact List.sublist_append_left _ _
    · -- nobody waits, with the connection or with the work
      rw [atOnce.resolve_left quiet, calm.resolve_right quiet, List.append_nil, List.append_nil]
      exact e.handed_sublist _

/-- What the drained queue holds back no more waits with the work, before all else that does. -/
theorem waiting_drained (e : Endpoint H) (frames : List (Frame H)) :
    (after e (.perform .drained) frames).waiting =
      e.conn.deferred ++ frames.filterMap Frame.deferred? := by
  have detach : e.drained.2.filterMap Work.deferred? = e.conn.deferred := by
    show (e.conn.deferred.map Work.sendDeferred).filterMap Work.deferred? = e.conn.deferred
    rw [List.filterMap_map]
    exact List.filterMap_some
  rw [waiting, detached_after]
  show e.drained.2.filterMap Work.deferred? ++ _ ++ [] = _
  rw [detach, List.append_nil]

/-- A queue that drains goes past nobody where no other line waits with the work. -/
theorem turn_of_drained {e : Endpoint H} {frames : List (Frame H)}
    (calm : frames.filterMap Frame.deferred? = [] ∨ e.conn.deferred = []) :
    (after e (.perform .drained) frames).waiting =
      frames.filterMap Frame.deferred? ++ e.conn.deferred := by
  rw [waiting_drained]
  rcases calm with none | none
  · rw [none, List.append_nil, List.nil_append]
  · rw [none, List.append_nil, List.nil_append]

/-- **A step keeps the order unless it overtakes**: what it hands over had waited first, and what
it submits waits last. -/
theorem turn_of_not_overtakes (tidy : m.Tidy) (move : Move Operation.Any m label n)
    (calm : Step.overtakes ⟨m, label⟩ = false) :
    (Step.handed ⟨m, label⟩ ++ n.waiting).Sublist
      (m.waiting ++ Step.submitted ⟨m, label⟩) := by
  cases move.turn with
  | @work _ _ w frames due =>
    rw [Step.handed, due.work?_eq]
    cases due with
    | @work e w frames noCall =>
      rw [Step.submitted, List.append_nil]
      exact turn_of_work (tidy.no_perform w List.mem_cons_self) frames
    | @operate e operation frames =>
      rw [Step.overtakes, Bool.and_eq_false_iff, Bool.not_eq_false', List.isEmpty_iff] at calm
      cases operation with
      | drained =>
        have alone : (Frame.code :: frames).filterMap Frame.deferred? = [] ∨ e.conn.deferred = [] :=
          calm.imp_right fun none => by simpa using none
        show (after e (.perform .drained) (.code :: frames)).waiting.Sublist _
        rw [turn_of_drained alone]
        exact List.sublist_append_left _ _
      | writeLineWithRoom line handler =>
        refine turn_of_submitted (calm.imp_right fun none => ?_)
        simpa [Step.handed, Step.work?] using none
      | _ =>
        refine List.Sublist.trans ?_ (List.sublist_append_left _ _)
        exact waiting_after rfl _
  | call => exact List.sublist_append_left _ _
  | leave => exact List.sublist_append_left _ _
  | @outside e e' frames outside =>
    have same : waiting ⟨e', frames⟩ = waiting ⟨e, frames⟩ := by
      rw [waiting, waiting, outside.conn_eq]
      rfl
    show (waiting ⟨e', frames⟩).Sublist _
    rw [same]
    exact List.sublist_append_left _ _

/-- A step that overtakes turns two lines round: one that waited with the work, and one that goes
past it. -/
theorem swap_of_overtakes (move : Move Operation.Any m label n)
    (h : Step.overtakes ⟨m, label⟩ = true) : ∃ a b : Deferred H,
      [a, b].Sublist (m.waiting ++ Step.submitted ⟨m, label⟩) ∧
      [b, a].Sublist (Step.handed ⟨m, label⟩ ++ n.waiting) := by
  have pair {a b : Deferred H} {l l' : List (Deferred H)} (ha : a ∈ l) (hb : b ∈ l') :
      [a, b].Sublist (l ++ l') :=
    (List.singleton_sublist.mpr ha).append (List.singleton_sublist.mpr hb)
  rw [Step.overtakes, Bool.and_eq_true, Bool.not_eq_true', List.isEmpty_eq_false_iff] at h
  obtain ⟨some, goes⟩ := h
  obtain ⟨a, ha⟩ := List.exists_mem_of_ne_nil _ some
  dsimp only at goes
  split at goes
  · -- the queue drains past the lines that wait with the work
    obtain ⟨frames, due, rfl⟩ := Due.of_work? (w := .perform .drained) rfl move
    rw [Bool.not_eq_true', List.isEmpty_eq_false_iff] at goes
    obtain ⟨b, hb⟩ := List.exists_mem_of_ne_nil _ goes
    cases due with
    | @operate e operation frames =>
      refine ⟨a, b, (pair ha hb).trans (List.sublist_append_left _ _), ?_⟩
      rw [waiting_drained]
      exact (pair hb ha).trans (List.sublist_append_right _ _)
  · next line handler =>
    -- a line that is submitted goes past them
    obtain ⟨frames, due, rfl⟩ :=
      Due.of_work? (w := .perform (.writeLineWithRoom line handler)) rfl move
    rw [Bool.not_eq_true', List.isEmpty_eq_false_iff] at goes
    obtain ⟨b, hb⟩ := List.exists_mem_of_ne_nil _ goes
    cases due with
    | @operate e operation frames =>
      refine ⟨a, b, ?_, ?_⟩
      · have own : b ∈ [(⟨line, handler⟩ : Deferred H)] :=
          (e.handed_sublist (.perform (.writeLineWithRoom line handler))).subset hb
        exact pair (List.mem_append_left _ ha) own
      · refine pair hb ?_
        rw [waiting, detached_after]
        exact List.mem_append_left _ (List.mem_append_right _ ha)
  · exact absurd goes (by simp)

/-! ### Runs -/

theorem LinedUp.snoc (lined : LinedUp steps m)
    (turn : (Step.handed ⟨m, label⟩ ++ n.waiting).Sublist
      (m.waiting ++ Step.submitted ⟨m, label⟩)) : LinedUp (steps ++ [⟨m, label⟩]) n := by
  rw [LinedUp, List.flatMap_append, List.flatMap_append, List.flatMap_singleton,
    List.flatMap_singleton, List.append_assoc]
  refine (List.Sublist.append_left turn _).trans ?_
  rw [← List.append_assoc]
  exact List.Sublist.append_right lined _

/-- Lines keep their order where none overtakes. -/
theorem linedUp_of_trail (trail : Trail initial steps m)
    (calm : ∀ step ∈ steps, step.overtakes = false) : LinedUp steps m := by
  refine trail.invariant (P := fun steps m => (∀ step ∈ steps, step.overtakes = false) →
    LinedUp steps m) ?_ (fun _ => List.Sublist.refl _) calm
  intro before a b l trail ih move calm
  have lined := ih fun step mem => calm step (List.mem_append_left _ mem)
  exact lined.snoc (turn_of_not_overtakes (tidy_of_run trail.run) move
    (calm ⟨a, l⟩ (List.mem_append_right _ List.mem_cons_self)))

theorem not_linedUp_of_overtakes (lined : LinedUp steps m) (move : Move Operation.Any m label n)
    (distinct : (steps.flatMap Step.submitted ++ Step.submitted ⟨m, label⟩).Nodup)
    (h : Step.overtakes ⟨m, label⟩ = true) : ¬ LinedUp (steps ++ [⟨m, label⟩]) n := by
  obtain ⟨a, b, waited, turned⟩ := swap_of_overtakes move h
  intro lined'
  refine not_sublist_swap distinct (waited.trans ?_) (turned.trans ?_)
  · exact List.Sublist.append_right ((List.sublist_append_right _ _).trans lined) _
  · rw [LinedUp, List.flatMap_append, List.flatMap_append, List.flatMap_singleton,
      List.flatMap_singleton, List.append_assoc] at lined'
    exact (List.sublist_append_right _ _).trans lined'

/-- **Lines reach the transport in the order in which they were submitted**, and those that wait
are next in this order, in every run in which no line overtakes.  As long as the order is kept
and all lines are different, exactly the steps that overtake break it. -/
theorem lines_in_order (trail : Trail initial steps m) :
    ((∀ step ∈ steps, step.overtakes = false) →
      (steps.flatMap Step.handed).Sublist (steps.flatMap Step.submitted) ∧ LinedUp steps m) ∧
    (LinedUp steps m → ∀ label n, Move Operation.Any m label n →
      (steps.flatMap Step.submitted ++ Step.submitted ⟨m, label⟩).Nodup →
      (LinedUp (steps ++ [⟨m, label⟩]) n ↔ Step.overtakes ⟨m, label⟩ = false)) := by
  refine ⟨fun calm => ?_, fun lined label n move distinct => ⟨fun lined' => ?_, fun calm => ?_⟩⟩
  · have lined := linedUp_of_trail trail calm
    exact ⟨(List.sublist_append_left _ _).trans lined, lined⟩
  · cases h : Step.overtakes ⟨m, label⟩ with
    | false => rfl
    | true => exact absurd lined' (not_linedUp_of_overtakes lined move distinct h)
  · exact lined.snoc (turn_of_not_overtakes (tidy_of_run trail.run) move calm)

/-- Two lines are held back by a socket whose queue is full. -/
def twoHeld : List (Choice Nat) :=
  [.operate (.dial (Config.build "mail" []) 0 1), .operate (.connected (.manual { full := true })),
    .operate (.writeLineWithRoom "A" 2), .operate (.writeLineWithRoom "B" 3)]

/-- The queue has drained, and both lines have their turns. -/
def bothSent : List (Choice Nat) :=
  twoHeld ++ [.operate .drained, .proceed, .proceed, .leave, .proceed, .proceed, .leave]

/-- Both lines are handed over, in their order. -/
theorem both_sent_in_order :
    ((initial.track bothSent).flatMap Step.handed).map Deferred.handler = [2, 3] ∧
    ((initial.track bothSent).flatMap Step.handed).Sublist
      ((initial.track bothSent).flatMap Step.submitted) := by
  have trail : Trail initial (initial.track bothSent) (initial.play bothSent).2 :=
    trail_play bothSent .nil
  have calm : ∀ step ∈ initial.track bothSent, step.overtakes = false := by decide
  exact ⟨by decide, ((lines_in_order trail).1 calm).1⟩

/-- Two lines are held back, and the transport has room again. -/
def roomAgain : Machine Nat :=
  ⟨(initial.play twoHeld).2.endpoint.setTransport 0 (.manual {}), (initial.play twoHeld).2.frames⟩

/-- The queue drains, and the handler of the first line submits a third one. -/
def submitsAnother : List (Choice Nat) :=
  [.operate .drained, .proceed, .proceed, .operate (.writeLineWithRoom "C" 4), .proceed, .leave,
    .leave, .proceed, .proceed, .leave]

/-- The third line goes past the second one. -/
theorem line_overtaken : ∃ (steps : List (Step Nat)) (m : Machine Nat), Trail initial steps m ∧
    ¬ (steps.flatMap Step.handed).Sublist (steps.flatMap Step.submitted) := by
  have held : Trail initial (initial.track twoHeld) (initial.play twoHeld).2 :=
    trail_play twoHeld .nil
  have drifts : Move Operation.Any (initial.play twoHeld).2 .outside roomAgain :=
    .drift (t := .manual { full := true }) rfl (.switches _ _)
  refine ⟨_, _, trail_play submitsAnother (held.snoc drifts), fun ordered => ?_⟩
  have byHandler := ordered.map Deferred.handler
  exact absurd byHandler (by decide)

end Machine

end SmtpLink
