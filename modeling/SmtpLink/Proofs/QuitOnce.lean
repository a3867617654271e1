import SmtpLink.Proofs.GracefulClose

/-!
# QUIT is sent once

However often a graceful close is asked for, each request is a deferred task of its own, and the
connection looks at its state again when the task has its turn.  A task that finds the connection
closed does nothing.  One that finds it waiting for the reply to QUIT sends QUIT again, and the
wait begins anew; as long as this does not happen, the first request is the only one that
matters.

## Main definitions

* `Machine.Step.sendsQuit` — the graceful close writes QUIT, and the transport takes it.
* `Machine.Step.closes` — a graceful close has its turn, and there is something to close.
* `Machine.Step.repeatsQuit` — it has its turn while QUIT is in progress.
* `Endpoint.Closing` — QUIT is in progress, or the connection can no longer be used.
* `Endpoint.WaitsUntil` — the graceful close waits until a deadline, or has ended.

## Main results

* `Endpoint.runTasks_of_beginsQuit` — what the QUIT step does.
* `Machine.closing_of_closes` — **there is no way back from the first request.**
* `Machine.quit_sent_once` — **QUIT is sent at most once and its deadline stays**, exactly as long
  as no request has its turn while QUIT is in progress.
-/

namespace SmtpLink

variable {H : Type}

namespace Endpoint

variable {loud : Bool} {e e' : Endpoint H} {w : Work H}

/-- QUIT is in progress, or the connection can no longer be used. -/
def Closing (e : Endpoint H) : Prop :=
  e.conn.state = .shuttingDown ∨ e.conn.state.isTerminal = true

/-- The graceful close waits until the deadline, or has ended. -/
def WaitsUntil (deadline : Option Instant) (e : Endpoint H) : Prop :=
  (e.conn.state = .shuttingDown ∧ e.conn.timer = deadline) ∨
    (e.conn.state.isTerminal = true ∧ e.conn.timer = none)

/-- The oldest deferred task is a graceful close that finds something to close. -/
def beginsClose (e : Endpoint H) : Bool :=
  match e.conn.scheduled with
  | .close :: _ => !e.conn.state.isTerminal
  | _ => false

theorem beginsClose_iff : e.beginsClose = true ↔
    (∃ rest, e.conn.scheduled = .close :: rest) ∧ e.conn.state.isTerminal = false := by
  unfold beginsClose
  split
  · next rest oldest => simp [oldest]
  · next other =>
    refine iff_of_false (by simp) ?_
    rintro ⟨⟨rest, oldest⟩, -⟩
    exact other rest oldest

theorem beginsClose_of_beginsQuit (h : e.beginsQuit = true) :
    e.beginsClose = true ∧ e.conn.isLive = true := by
  unfold beginsQuit at h
  split at h
  · next rest oldest =>
    rw [canQuit, Bool.and_eq_true] at h
    exact ⟨beginsClose_iff.mpr ⟨⟨rest, oldest⟩, not_terminal_of_live h.1⟩, h.1⟩
  · exact absurd h (by simp)

/-! ### The QUIT step -/

/-- A command is taken by the transport and its handler waits for the reply, or it is refused and
breaks a connection that has commands in flight. -/
theorem writeWith_of_inFlight {id : TransportId} (peer : e.conn.peerClosed = false)
    (held : e.conn.phase.transport? = some id) (inFlight : e.conn.state.isInFlight = true)
    (text : String) (mask : Option Nat) (handler : ReplyHandler H) :
    ((e.writeWith text mask handler).1.1.written = e.written ++ [lineBytes text] ∧
      (e.writeWith text mask handler).1.1.conn = (e.setSlot (some handler)).conn) ∨
    ((e.writeWith text mask handler).1.1.written = e.written ∧
      (e.writeWith text mask handler).1.1.conn.state = .broken) := by
  have posted : ((e.setSlot (some handler)).remark (.command (redact text mask))).written =
      e.written :=
    (touches_remark (s := {}) (e.setSlot (some handler)) _).written_eq rfl
  have conn := conn_sendBytes ((e.setSlot (some handler)).remark (.command (redact text mask))) id
    (lineBytes text)
  unfold writeWith
  rw [if_neg (by simp [peer]), held]
  dsimp only
  split
  · next found sent =>
    rw [sent] at conn
    have wrote := written_sendBytes sent
    rw [posted] at wrote
    exact .inl ⟨wrote, conn⟩
  · next found err sent =>
    rw [sent] at conn
    have wrote := written_sendBytes sent
    rw [posted] at wrote
    -- the refusal finds the handler in place, so that the fault breaks the connection
    have flight : found.conn.state.isInFlight = true := by
      have same : found.conn.state = e.conn.state := by
        rw [conn]
        exact Phase.state_setSlot _ _
      rw [same]
      exact inFlight
    have broken : (found.setBroken.remark .fault).conn.state = .broken :=
      state_setBroken_of_inFlight flight
    have fault := fault_of_inFlight (e := found) (by rw [conn]; exact peer) flight err
    refine .inr ⟨?_, ?_⟩
    · have same := (within_fault (s := {}) found err).touches.written_eq rfl
      exact same.trans (wrote.trans (List.append_nil _))
    · rw [fault]
      exact (deliverError_of_broken broken err).1

/-- What is left of an endpoint when the turn of a graceful close has come. -/
theorem runTasks_of_beginsClose {rest : List (Task H)}
    (oldest : e.conn.scheduled = .close :: rest) :
    e.runTasks.1 = (runClose { e with conn := { e.conn with scheduled := rest } }).1 := by
  rw [runTasks, oldest]

/-- **The QUIT step** writes QUIT and bounds the wait for its reply, or the connection breaks. -/
theorem runTasks_of_beginsQuit (h : e.beginsQuit = true) :
    (e.runTasks.1.written = e.written ++ [lineBytes "QUIT"] ∧
      e.runTasks.1.conn.state = .shuttingDown ∧
      e.runTasks.1.conn.timer = some (e.clock.after e.conn.quitTimeout)) ∨
    (e.runTasks.1.written = e.written ∧ e.runTasks.1.conn.state = .broken) := by
  unfold beginsQuit at h
  split at h
  · next rest oldest =>
    have can : canQuit { e with conn := { e.conn with scheduled := rest } } = true := h
    rw [canQuit, Bool.and_eq_true, Bool.not_eq_true'] at h
    obtain ⟨live, peer⟩ := h
    obtain ⟨id, held⟩ := isLive_iff.mp live
    rw [runTasks_of_beginsClose oldest, runClose_of_canQuit can]
    -- the endpoint when QUIT is written
    generalize hb :
      (remark { e with conn := { e.conn with scheduled := rest } } .shuttingDown).beginQuit = b
    have quitting : b.conn.state = .shuttingDown := by
      rw [← hb]
      exact state_beginQuit live
    have same : b.written = e.written := by
      rw [← hb]
      exact (touches_remark (s := {}) e .shuttingDown).written_eq rfl
    have peer' : b.conn.peerClosed = false := by
      rw [← hb]
      exact peer
    have held' : b.conn.phase.transport? = some id := by
      rw [← hb]
      exact (Phase.transport?_relabel _ _).trans held
    have inFlight : b.conn.state.isInFlight = true := by
      rw [quitting]
      rfl
    have taken := writeWith_of_inFlight peer' held' inFlight "QUIT" none .quit
    rw [same] at taken
    rcases taken with ⟨wrote, conn⟩ | refused
    · refine .inl ⟨wrote, ?_, ?_⟩
      · rw [conn]
        exact (Phase.state_setSlot _ _).trans quitting
      · rw [conn, ← hb]
        rfl
    · exact .inr refused
  · exact absurd h (by simp)

/-- A graceful close that finds nothing to close leaves a remark, and that is all. -/
theorem runTasks_of_terminal (terminal : e.conn.state.isTerminal = true) {rest : List (Task H)}
    (oldest : e.conn.scheduled = .close :: rest) :
    e.runTasks.1 = remark { e with conn := { e.conn with scheduled := rest } } .quitTooLate := by
  rw [runTasks_of_beginsClose oldest, runClose, if_pos (by exact terminal)]
  rfl

/-! ### No way back -/

theorem closing_of_shutdown (e : Endpoint H) : e.shutdown.Closing := by
  refine .inr ?_
  rw [state_shutdown]
  split <;> rfl

theorem closing_of_setBroken (e : Endpoint H) : e.setBroken.Closing := by
  refine .inr ?_
  rw [state_setBroken]
  split
  · next terminal => exact terminal
  · rfl

theorem Closing.of_state (closing : e.Closing) (state : e'.conn.state = e.conn.state) :
    e'.Closing := by
  unfold Closing
  rw [state]
  exact closing

/-- A connection that is closing is neither with a caller nor in the pool. -/
theorem Closing.ne_live (closing : e.Closing) {usage : Usage} (hu : usage ≠ .shuttingDown) :
    e.conn.state ≠ .live usage := by
  rcases closing with quitting | terminal
  · rw [quitting]
    simpa using Ne.symm hu
  · exact ne_live_of_terminal terminal usage

theorem Closing.quitting (closing : e.Closing) (live : e.conn.isLive = true) :
    e.conn.state = .shuttingDown := by
  refine closing.resolve_right fun terminal => ?_
  rw [not_live_of_terminal terminal] at live
  exact absurd live (by simp)

theorem Closing.ne_connecting (closing : e.Closing) : e.conn.state ≠ .connecting := by
  intro hs
  rcases closing with quitting | terminal
  · rw [hs] at quitting
    exact absurd quitting (by simp)
  · rw [hs] at terminal
    exact absurd terminal (by simp [ConnectionState.isTerminal])

/-- Effects do not lead back from a graceful close. -/
theorem Effect.closing (closing : e.Closing) (effect : Effect loud e e') : e'.Closing := by
  cases effect with
  | outside outside => exact closing.of_state (by rw [outside.conn_eq])
  | fillSlot handler held peer => exact closing.of_state (Phase.state_setSlot _ _)
  | emptySlot => exact closing.of_state (Phase.state_setSlot _ _)
  | send data held peer => exact closing.of_state (by rw [conn_sendBytes])
  | askFull held => exact closing.of_state (by rw [conn_askFull])
  | askUpgrade held => exact closing.of_state (by rw [conn_askUpgrade])
  | park =>
    rw [changeUsage, if_neg (closing.ne_live (by simp))]
    exact closing.of_state rfl
  | use =>
    rw [changeUsage, if_neg (closing.ne_live (by simp))]
    exact closing.of_state rfl
  | connected t =>
    exact closing.of_state (by rw [conn_connected_of_not_connecting t closing.ne_connecting])
  | refused waiting => exact absurd waiting closing.ne_connecting
  | setBroken => exact closing_of_setBroken e
  | fault peer inFlight => exact closing_of_setBroken e
  | hangUp inFlight => exact closing_of_setBroken _
  | retire idle => exact closing_of_setBroken _
  | giveBack notIdle notRequested => exact closing.of_state (Phase.state_setSlot _ _)
  | beginQuit peer live => exact .inl (state_beginQuit live)
  | finishQuit waits => exact closing_of_shutdown _
  | shutdown gone notYet => exact closing_of_shutdown _
  | _ => exact closing.of_state rfl

/-- Once a graceful close has had its turn the connection is closing. -/
theorem closing_of_beginsClose (h : e.beginsClose = true) : e.runTasks.1.Closing := by
  cases hq : e.beginsQuit with
  | true =>
    rcases runTasks_of_beginsQuit hq with ⟨-, quitting, -⟩ | ⟨-, broken⟩
    · exact .inl quitting
    · exact .inr (by rw [broken]; rfl)
  | false =>
    obtain ⟨⟨rest, oldest⟩, notYet⟩ := beginsClose_iff.mp h
    rw [beginsQuit, oldest] at hq
    simp only [canQuit, Bool.and_eq_false_iff, Bool.not_eq_false'] at hq
    have gone : e.conn.peerClosed = true ∨ e.conn.isLive = false := hq.symm
    rw [runTasks_of_beginsClose oldest, runClose, if_neg (by exact Bool.eq_false_iff.mp notYet)]
    dsimp only
    rw [if_pos (by rw [Bool.or_eq_true, Bool.not_eq_true']; exact gone)]
    exact closing_of_shutdown _

end Endpoint

/-! ### Runs -/

namespace Machine

variable {m n : Machine H} {label : Label H} {steps steps' : List (Step H)}

namespace Step

/-- Deferred tasks are run. -/
def runsTasks (step : Step H) : Bool :=
  match step.work? with
  | some .runTasks => true
  | _ => false

/-- The graceful close writes QUIT, and the transport takes it. -/
def sendsQuit (step : Step H) : Bool :=
  step.runsTasks && step.before.endpoint.runTasks.1.written != step.before.endpoint.written

/-- A graceful close has its turn, and there is something to close. -/
def closes (step : Step H) : Bool := step.runsTasks && step.before.endpoint.beginsClose

/-- A graceful close has its turn while QUIT is in progress. -/
def repeatsQuit (step : Step H) : Bool :=
  step.closes && step.before.endpoint.conn.state == .shuttingDown

end Step

/-- What a move does that runs deferred tasks. -/
theorem endpoint_of_runsTasks (runs : Step.runsTasks ⟨m, label⟩ = true)
    (move : Move Operation.Any m label n) : n.endpoint = m.endpoint.runTasks.1 := by
  unfold Step.runsTasks at runs
  split at runs
  · next h =>
    obtain ⟨frames, -, rfl⟩ := Due.of_work? h move
    rfl
  · exact absurd runs (by simp)

/-- A connection that was opened is not opened anew. -/
theorem not_isDial_of_dialled {step : Step H} (dialled : steps.countP Step.isDial ≠ 0)
    (atMost : (steps ++ [step]).countP Step.isDial ≤ 1) : step.isDial = false := by
  rw [List.countP_append, List.countP_singleton] at atMost
  cases h : step.isDial with
  | false => rfl
  | true =>
    rw [h, if_pos rfl] at atMost
    omega

theorem dialled_of_not_terminal (trail : Trail initial steps m)
    (h : m.endpoint.conn.state.isTerminal = false) : steps.countP Step.isDial ≠ 0 := by
  intro none
  rw [← countP_map_label, List.countP_eq_zero] at none
  have closed := closed_of_run trail.run fun l hl => Bool.eq_false_iff.mpr (none l hl)
  rw [closed] at h
  exact absurd h (by simp [ConnectionState.isTerminal])

/-- What leads from a graceful close, other than to open the connection anew, leads to one. -/
theorem closing_move (tidy : m.Tidy) (closing : m.endpoint.Closing) (hd : label.isDial = false)
    (move : Move Operation.Any m label n) : n.endpoint.Closing :=
  (effects_move tidy move hd).invariant (fun h effect => effect.closing h) closing

/-- **There is no way back from the first request** that finds something to close, in a run that
opens the connection at most once. -/
theorem closing_of_closes (trail : Trail initial steps m) (atMost : steps.countP Step.isDial ≤ 1)
    (closes : ∃ step ∈ steps, step.closes = true) : m.endpoint.Closing := by
  refine (trail.invariant (P := fun steps m => steps.countP Step.isDial ≤ 1 →
    (∃ step ∈ steps, step.closes = true) →
    m.endpoint.Closing ∧ steps.countP Step.isDial ≠ 0) ?_ ?_ atMost closes).1
  · rintro before a b l trail ih move atMost ⟨step, mem, closes⟩
    have fewer : before.countP Step.isDial ≤ 1 := by
      rw [List.countP_append] at atMost
      omega
    rw [List.countP_append]
    rcases List.mem_append.mp mem with mem | mem
    · obtain ⟨closing, dialled⟩ := ih fewer ⟨step, mem, closes⟩
      have hd : Step.isDial ⟨a, l⟩ = false := not_isDial_of_dialled dialled atMost
      exact ⟨closing_move (tidy_of_run trail.run) closing hd move, by omega⟩
    · obtain rfl := List.mem_singleton.mp mem
      rw [Step.closes, Bool.and_eq_true] at closes
      -- what can be closed was opened, so that no later step opens it
      have dialled := dialled_of_not_terminal trail (Endpoint.beginsClose_iff.mp closes.2).2
      refine ⟨?_, by omega⟩
      rw [endpoint_of_runsTasks closes.1 move]
      exact Endpoint.closing_of_beginsClose closes.2
  · rintro - ⟨step, mem, -⟩
    exact absurd mem (by simp)

/-- Only a graceful close that finds a socket sends QUIT. -/
theorem beginsQuit_of_sendsQuit {step : Step H} (h : step.sendsQuit = true) :
    step.runsTasks = true ∧ step.before.endpoint.beginsQuit = true := by
  rw [Step.sendsQuit, Bool.and_eq_true, bne_iff_ne] at h
  obtain ⟨runs, wrote⟩ := h
  cases begins : step.before.endpoint.beginsQuit with
  | true => exact ⟨runs, rfl⟩
  | false =>
    have within := step.before.endpoint.within_runTasks
    rw [begins, if_neg (by simp)] at within
    exact absurd (within.touches.written_eq rfl) wrote

theorem closes_of_sendsQuit {step : Step H} (h : step.sendsQuit = true) :
    step.closes = true ∧ step.before.endpoint.conn.isLive = true := by
  obtain ⟨runs, begins⟩ := beginsQuit_of_sendsQuit h
  obtain ⟨closes, live⟩ := Endpoint.beginsClose_of_beginsQuit begins
  refine ⟨?_, live⟩
  rw [Step.closes, runs, closes]
  rfl

/-- What a step hands over that sends QUIT is the line of QUIT. -/
theorem written_of_sendsQuit (sends : Step.sendsQuit ⟨m, label⟩ = true)
    (move : Move Operation.Any m label n) :
    n.endpoint.written = m.endpoint.written ++ [Endpoint.lineBytes "QUIT"] := by
  obtain ⟨runs, begins⟩ := beginsQuit_of_sendsQuit sends
  rw [Step.sendsQuit, Bool.and_eq_true, bne_iff_ne] at sends
  rw [endpoint_of_runsTasks runs move]
  rcases Endpoint.runTasks_of_beginsQuit begins with ⟨wrote, -, -⟩ | ⟨same, -⟩
  · exact wrote
  · exact absurd same sends.2

/-- A request that has its turn while QUIT is in progress finds a socket. -/
theorem beginsQuit_of_repeatsQuit (sound : m.endpoint.Sound)
    (repeats : Step.repeatsQuit ⟨m, label⟩ = true) :
    Step.runsTasks ⟨m, label⟩ = true ∧ m.endpoint.beginsQuit = true := by
  rw [Step.repeatsQuit, Step.closes, Bool.and_eq_true, Bool.and_eq_true, beq_iff_eq] at repeats
  obtain ⟨⟨runs, closes⟩, quitting⟩ := repeats
  obtain ⟨⟨rest, oldest⟩, -⟩ := Endpoint.beginsClose_iff.mp closes
  have live : m.endpoint.conn.isLive = true := by
    rw [Connection.isLive, quitting]
    rfl
  refine ⟨runs, ?_⟩
  rw [Endpoint.beginsQuit, oldest]
  dsimp only
  rw [Endpoint.canQuit, live, sound.peer live]
  rfl

/-- QUIT is sent again only by a request that has its turn while QUIT is in progress. -/
theorem repeatsQuit_of_sendsQuit (trail : Trail initial steps m)
    (atMost : steps.countP Step.isDial ≤ 1) (closes : ∃ step ∈ steps, step.closes = true)
    (sends : Step.sendsQuit ⟨m, label⟩ = true) : Step.repeatsQuit ⟨m, label⟩ = true := by
  obtain ⟨closesAgain, live⟩ := closes_of_sendsQuit sends
  rw [Step.repeatsQuit, closesAgain, Bool.true_and, beq_iff_eq]
  exact (closing_of_closes trail atMost closes).quitting live

/-- QUIT is sent at most once where no request has its turn while it is in progress. -/
theorem countP_sendsQuit (trail : Trail initial steps m) (atMost : steps.countP Step.isDial ≤ 1)
    (calm : ∀ step ∈ steps, step.repeatsQuit = false) : steps.countP Step.sendsQuit ≤ 1 := by
  refine trail.invariant (P := fun steps _ => steps.countP Step.isDial ≤ 1 →
    (∀ step ∈ steps, step.repeatsQuit = false) → steps.countP Step.sendsQuit ≤ 1) ?_
    (fun _ _ => Nat.zero_le 1) atMost calm
  intro before a b l trail ih move atMost calm
  rw [List.countP_append, List.countP_singleton] at atMost ⊢
  cases hs : Step.sendsQuit ⟨a, l⟩ with
  | false =>
    rw [if_neg (by simp)]
    exact ih (by omega) fun step mem => calm step (List.mem_append_left _ mem)
  | true =>
    -- a request before this one would find QUIT in progress now
    rw [if_pos rfl]
    have none : before.countP Step.sendsQuit = 0 := by
      rw [List.countP_eq_zero]
      intro step mem sends
      have repeats := repeatsQuit_of_sendsQuit trail (by omega)
        ⟨step, mem, (closes_of_sendsQuit sends).1⟩ hs
      rw [calm _ (List.mem_append_right _ List.mem_cons_self)] at repeats
      exact absurd repeats (by simp)
    omega

/-- Only the QUIT step sets a deadline. -/
theorem timer_move (move : Move Operation.Any m label n) :
    n.endpoint.conn.timer = m.endpoint.conn.timer ∨ n.endpoint.conn.timer = none ∨
      Step.runsTasks ⟨m, label⟩ = true ∧ m.endpoint.beginsQuit = true := by
  cases move.turn with
  | @work _ _ w frames due =>
    refine (m.endpoint.timer_resume w).imp_right (Or.imp_right ?_)
    rintro ⟨rfl, begins⟩
    refine ⟨?_, begins⟩
    rw [Step.runsTasks, due.work?_eq]
  | call => exact .inl rfl
  | leave => exact .inl rfl
  | outside outside => exact .inl (by rw [outside.conn_eq])

/-- The deadline stays until the graceful close ends, unless a request has its turn. -/
theorem waitsUntil_move {deadline : Option Instant} (tidy : m.Tidy) (timed : n.endpoint.Timed)
    (waits : m.endpoint.WaitsUntil deadline) (hd : label.isDial = false)
    (move : Move Operation.Any m label n) (calm : Step.repeatsQuit ⟨m, label⟩ = false) :
    n.endpoint.WaitsUntil deadline := by
  have ended (terminal : n.endpoint.conn.state.isTerminal = true) :
      n.endpoint.WaitsUntil deadline := by
    exact .inr ⟨terminal, timed.timer_eq_none (Endpoint.ne_live_of_terminal terminal _)⟩
  rcases waits with ⟨quitting, same⟩ | ⟨terminal, -⟩
  · rcases closing_move tidy (.inl quitting) hd move with still | terminal
    · refine .inl ⟨still, ?_⟩
      have armed : n.endpoint.conn.timer.isSome = true := timed.now.mpr still
      rcases timer_move move with kept | none | ⟨runs, begins⟩
      · exact kept.trans same
      · rw [none] at armed
        exact absurd armed (by simp)
      · have repeats : Step.repeatsQuit ⟨m, label⟩ = true := by
          rw [Step.repeatsQuit, Step.closes, runs, (Endpoint.beginsClose_of_beginsQuit begins).1,
            quitting]
          rfl
        rw [calm] at repeats
        exact absurd repeats (by simp)
    · exact ended terminal
  · apply ended
    rw [(effects_move tidy move hd).state_of_terminal terminal]
    exact terminal

theorem waitsUntil_of_trail (trail : Trail initial steps m) (trail' : Trail m steps' n)
    (atMost : (steps ++ steps').countP Step.isDial ≤ 1)
    (calm : ∀ step ∈ steps', step.repeatsQuit = false)
    (quitting : m.endpoint.conn.state = .shuttingDown) :
    n.endpoint.WaitsUntil m.endpoint.conn.timer := by
  -- the connection was opened before the graceful close
  have dialled := dialled_of_not_terminal trail (by rw [quitting]; rfl)
  refine trail'.invariant (P := fun steps' n => (steps ++ steps').countP Step.isDial ≤ 1 →
    (∀ step ∈ steps', step.repeatsQuit = false) →
    n.endpoint.WaitsUntil m.endpoint.conn.timer) ?_ (fun _ _ => .inl ⟨quitting, rfl⟩) atMost calm
  intro before a b l trail' ih move atMost calm
  have whole := (trail.append (trail'.snoc move)).run
  have timed : b.endpoint.Timed := timed_of_run whole (by rw [countP_map_label]; exact atMost)
  rw [← List.append_assoc] at atMost
  have hd : Step.isDial ⟨a, l⟩ = false := by
    refine not_isDial_of_dialled ?_ atMost
    rw [List.countP_append]
    omega
  rw [List.countP_append] at atMost
  have waits := ih (by omega) fun step mem => calm step (List.mem_append_left _ mem)
  exact waitsUntil_move (tidy_of_run (trail.append trail').run) timed waits hd move
    (calm _ (List.mem_append_right _ List.mem_cons_self))

/-- **QUIT is sent at most once and its deadline stays**, in every run that opens the connection
at most once, exactly as long as no request has its turn while QUIT is in progress: then a
later request finds the connection closed and leaves a remark.  A request that does have its
turn while QUIT is in progress sends QUIT again and sets a new deadline, unless the transport
refuses it. -/
theorem quit_sent_once (trail : Trail initial steps m) (atMost : steps.countP Step.isDial ≤ 1) :
    ((∀ step ∈ steps, step.repeatsQuit = false) → steps.countP Step.sendsQuit ≤ 1) ∧
    (m.endpoint.conn.state = .shuttingDown → ∀ steps' n, Trail m steps' n →
      (steps ++ steps').countP Step.isDial ≤ 1 → (∀ step ∈ steps', step.repeatsQuit = false) →
      n.endpoint.WaitsUntil m.endpoint.conn.timer) ∧
    (∀ label n, Move Operation.Any m label n → Step.runsTasks ⟨m, label⟩ = true →
      ∀ rest, m.endpoint.conn.scheduled = .close :: rest → (∃ step ∈ steps, step.closes = true) →
      Step.repeatsQuit ⟨m, label⟩ = true ∨ n.endpoint = Endpoint.remark
        { m.endpoint with conn := { m.endpoint.conn with scheduled := rest } } .quitTooLate) ∧
    (∀ label n, Move Operation.Any m label n → Step.sendsQuit ⟨m, label⟩ = true →
      n.endpoint.written = m.endpoint.written ++ [Endpoint.lineBytes "QUIT"]) ∧
    (∀ label n, Move Operation.Any m label n → Step.repeatsQuit ⟨m, label⟩ = true →
      (Step.sendsQuit ⟨m, label⟩ = true ∧ n.endpoint.conn.timer =
          some (m.endpoint.clock.after m.endpoint.conn.quitTimeout)) ∨
      n.endpoint.conn.state = .broken) := by
  refine ⟨countP_sendsQuit trail atMost, fun quitting steps' n trail' atMost' calm =>
    waitsUntil_of_trail trail trail' atMost' calm quitting, ?_,
    fun label n move sends => written_of_sendsQuit sends move, ?_⟩
  · intro label n move runs rest oldest closes
    rcases closing_of_closes trail atMost closes with quitting | terminal
    · have begins : m.endpoint.beginsClose = true :=
        Endpoint.beginsClose_iff.mpr ⟨⟨rest, oldest⟩, by rw [quitting]; rfl⟩
      refine .inl ?_
      rw [Step.repeatsQuit, Step.closes, runs, begins, quitting]
      rfl
    · rw [endpoint_of_runsTasks runs move]
      exact .inr (Endpoint.runTasks_of_terminal terminal oldest)
  · intro label n move repeats
    obtain ⟨runs, begins⟩ := beginsQuit_of_repeatsQuit (sound_of_run trail.run) repeats
    rw [endpoint_of_runsTasks runs move]
    rcases Endpoint.runTasks_of_beginsQuit begins with ⟨wrote, -, timer⟩ | ⟨-, broken⟩
    · refine .inl ⟨?_, timer⟩
      rw [Step.sendsQuit, runs, Bool.true_and, bne_iff_ne, wrote]
      simp
    · exact .inr broken

/-- The connection is closed, asked to close once more, and QUIT is answered before the second
request has its turn. -/
def closedLate : List (Choice Nat) :=
  [.operate (.dial (Config.build "mail" []) 0 1), .operate (.connected (.manual {})),
    .operate .close, .operate .runScheduled, .proceed, .proceed, .operate .close,
    .operate (.input [50, 50, 49, 32, 98, 121, 101, 13, 10]), .proceed, .proceed,
    .operate .runScheduled, .proceed]

/-- The second request makes no difference. -/
theorem closed_late_sends_once : (initial.track closedLate).countP Step.sendsQuit = 1 := by
  have trail : Trail initial (initial.track closedLate) (initial.play closedLate).2 :=
    trail_play closedLate .nil
  have once := (quit_sent_once trail (by decide)).1 (by decide)
  have sent : 1 ≤ (initial.track closedLate).countP Step.sendsQuit := by decide
  exact Nat.le_antisymm once sent

/-- The connection is asked to close twice before the first request has its turn. -/
def closedTwice : List (Choice Nat) :=
  [.operate (.dial (Config.build "mail" []) 0 1), .operate (.connected (.manual {})),
    .operate .close, .operate .close, .operate .runScheduled, .proceed, .proceed]

/-- QUIT goes over the wire twice. -/
theorem quit_sent_twice : ∃ (steps : List (Step Nat)) (m : Machine Nat), Trail initial steps m ∧
    steps.countP Step.isDial ≤ 1 ∧ steps.countP Step.sendsQuit = 2 :=
  ⟨initial.track closedTwice, _, trail_play closedTwice .nil, by decide, by decide⟩

end Machine

end SmtpLink
