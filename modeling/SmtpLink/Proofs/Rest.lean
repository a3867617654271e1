import SmtpLink.Proofs.Completions
import SmtpLink.Proofs.Deferral
import SmtpLink.Proofs.GracefulClose
import SmtpLink.Proofs.SessionEnd
import SmtpLink.Proofs.Turns

/-!
# How a session comes to rest

The socket task and the connection live together.  A connection that can no longer be used has
closed its channel, so that an order to close stands there, and the task ends with that order at
the latest.  A task that ends tells the connection so before it runs the deferred tasks for the
last time, and so nothing is left of the connection but its end.

## Main definitions

* `Endpoint.Regular` — what is known of a connection at any time.
* `Endpoint.Bound` — the connection holds a transport, or can no longer be used.
* `Endpoint.Rests` — the connection can no longer be used, and knows that its socket has closed.
* `Endpoint.Unconnected` — the connection never had a socket.
* `SocketMachine.Sweeps` — no deferred task is left at the end of a turn.
* `SocketMachine.Tended` — what is known of a session at any time.

## Main results

* `SocketMachine.tended_of_run` — **sessions are tended.**
* `SocketMachine.rests_in_the_end` — **the task neither outlives nor abandons its connection.**
-/

namespace SmtpLink

variable {H : Type}

namespace Endpoint

variable {loud : Bool} {e e' : Endpoint H} {k : TransportId}

/-! ### What is known of a connection -/

/-- What is known of a connection at any time: the transport that it holds was handed over, each
transport is held or closed, the deadline is in step with QUIT, and nobody waits without a
socket. -/
structure Regular (e : Endpoint H) : Prop where
  /-- The connection is sound. -/
  sound : e.Sound
  /-- Every transport has its fate. -/
  owns : e.Owns
  /-- The deadline is in step with QUIT. -/
  timed : e.Timed
  /-- Nobody waits without a socket. -/
  bare : e.Bare

theorem Effect.regular (regular : e.Regular) (effect : Effect loud e e') : e'.Regular :=
  ⟨effect.sound regular.sound, effect.owns regular.sound regular.owns,
    effect.timed regular.timed, effect.bare regular.bare⟩

/-- Without a socket nobody waits for room or for an upgrade. -/
theorem Regular.nobody_waits (regular : e.Regular) (gone : e.conn.isLive = false) :
    e.conn.deferred = [] ∧ e.conn.upgradeHandler = none := by
  obtain ⟨deferred, upgrade⟩ := List.append_eq_nil_iff.mp (regular.bare gone)
  exact ⟨List.map_eq_nil_iff.mp deferred, by simpa using upgrade⟩

/-- The connection holds the transport, or can no longer be used. -/
def Bound (k : TransportId) (e : Endpoint H) : Prop :=
  e.conn.phase.transport? = some k ∨ e.conn.state.isTerminal = true

theorem Bound.of_same (bound : e.Bound k)
    (transport : e'.conn.phase.transport? = e.conn.phase.transport?)
    (state : e.conn.state.isTerminal = true → e'.conn.state = e.conn.state) : e'.Bound k := by
  rcases bound with held | terminal
  · exact .inl (transport.trans held)
  · exact .inr (by rw [state terminal]; exact terminal)

theorem Bound.not_connecting (bound : e.Bound k) : e.conn.state ≠ .connecting := by
  intro waiting
  rcases bound with held | terminal
  · obtain ⟨greeting, phase⟩ := phase_of_connecting waiting
    rw [phase] at held
    exact absurd held (by simp [Phase.transport?])
  · rw [waiting] at terminal
    exact absurd terminal (by simp [ConnectionState.isTerminal])

theorem terminal_setBroken (e : Endpoint H) : e.setBroken.conn.state.isTerminal = true := by
  rw [state_setBroken]
  split
  · assumption
  · rfl

theorem terminal_shutdown (e : Endpoint H) : e.shutdown.conn.state.isTerminal = true := by
  rw [state_shutdown]
  split <;> rfl

/-- **Effects leave a connection its transport, or end it.** -/
theorem Effect.bound (bound : e.Bound k) (effect : Effect loud e e') : e'.Bound k := by
  have state := effect.state_of_terminal
  cases effect with
  | outside outside => exact bound.of_same (by rw [outside.conn_eq]) state
  | fillSlot | emptySlot | giveBack => exact bound.of_same (transport?_setSlot _ _) state
  | send data held peer => exact bound.of_same (by rw [conn_sendBytes]) state
  | askFull held => exact bound.of_same (by rw [conn_askFull]) state
  | askUpgrade held => exact bound.of_same (by rw [conn_askUpgrade]) state
  | park | use => exact bound.of_same (transport?_changeUsage _ _ _) state
  | connected t =>
    have conn := conn_connected_of_not_connecting t bound.not_connecting
    exact bound.of_same (by rw [conn]) state
  | refused waiting => exact absurd waiting bound.not_connecting
  | setBroken | fault | hangUp | retire => exact .inr (terminal_setBroken _)
  | beginQuit peer live => exact bound.of_same (Phase.transport?_relabel _ _) state
  | finishQuit | shutdown => exact .inr (terminal_shutdown _)
  | _ => exact bound.of_same rfl state

/-! ### Rest -/

/-- The connection can no longer be used, and knows that its socket has closed. -/
structure Rests (e : Endpoint H) : Prop where
  /-- The connection can no longer be used. -/
  terminal : e.conn.state.isTerminal = true
  /-- The socket has closed. -/
  peer : e.conn.peerClosed = true

theorem peerClosed_setBroken (e : Endpoint H) :
    e.setBroken.conn.peerClosed = e.conn.peerClosed := by
  unfold setBroken
  split
  · rfl
  · show ((e.remark .breaking).release .broken).conn.peerClosed = _
    rw [conn_release]
    rfl

theorem peerClosed_shutdown (e : Endpoint H) :
    e.shutdown.conn.peerClosed = e.conn.peerClosed := by
  rw [shutdown, conn_release]

theorem rests_setBroken (peer : e.conn.peerClosed = true) : e.setBroken.Rests :=
  ⟨terminal_setBroken e, (peerClosed_setBroken e).trans peer⟩

/-- A connection that rests stays so. -/
theorem Effect.rests (rests : e.Rests) (effect : Effect loud e e') : e'.Rests := by
  obtain ⟨terminal, peer⟩ := rests
  refine ⟨by rw [effect.state_of_terminal terminal]; exact terminal, ?_⟩
  cases effect with
  | outside outside => rw [outside.conn_eq, peer]
  | send data held peer' => rw [conn_sendBytes, peer]
  | askFull held => rw [conn_askFull, peer]
  | askUpgrade held => rw [conn_askUpgrade, peer]
  | park | use => rw [changeUsage_of_not_live terminal, conn_remark, peer]
  | connected t =>
    have waits : e.conn.state ≠ .connecting := Bound.not_connecting (k := 0) (.inr terminal)
    rw [conn_connected_of_not_connecting t waits, peer]
  | setBroken | fault => exact (peerClosed_setBroken e).trans peer
  | hangUp | retire => exact peerClosed_setBroken _
  | finishQuit | shutdown => exact (peerClosed_shutdown _).trans peer
  | _ => first | exact peer | rfl

/-- **A connection that has its socket and hears that it has closed comes to rest.** -/
theorem rests_closed (bound : e.Bound k) : e.closed.1.Rests := by
  rw [closed_eq]
  split
  · have broken : (e.noteClosed.setBroken.remark .closedByServer).Rests :=
      ⟨terminal_setBroken _, peerClosed_setBroken _⟩
    have effects : Effects false _ _ := effects_deliverError (e.noteClosed.setBroken.remark
      .closedByServer) .closedByServer
    exact effects.invariant (P := Rests) (fun rests effect => effect.rests rests) broken
  · next notInFlight =>
    split
    · exact rests_setBroken (e := e.noteClosed.remark .closedWhileIdle) rfl
    · next notIdle =>
      refine ⟨?_, rfl⟩
      rcases bound with held | terminal
      · exact absurd (isInFlight_of_live (isLive_of_held held) (Bool.eq_false_iff.mpr notIdle))
          notInFlight
      · exact terminal

/-! ### Before the socket -/

/-- The connection never had a socket. -/
structure Unconnected (e : Endpoint H) : Prop where
  /-- What is known of a connection at any time. -/
  regular : e.Regular
  /-- It is bound to no task. -/
  context : e.conn.context = none
  /-- It has no socket. -/
  gone : e.conn.isLive = false

theorem Unconnected.wait (unconnected : e.Unconnected) {clock : Instant}
    (later : e.clock ≤ clock) : ({ e with clock } : Endpoint H).Unconnected := by
  have waits : Effect false e { e with clock } := .outside (.wait later)
  exact ⟨waits.regular unconnected.regular, unconnected.context, unconnected.gone⟩

/-- A connection is bound to the socket that is handed over, unless it was closed before. -/
theorem bound_connected (gone : e.conn.isLive = false) (t : Transport) :
    (e.connected t).Bound e.transports.length := by
  by_cases waiting : e.conn.state = .connecting
  · obtain ⟨greeting, phase⟩ := phase_of_connecting waiting
    rw [connected_of_connecting t phase]
    exact .inl rfl
  · refine .inr ?_
    rw [conn_connected_of_not_connecting t waiting]
    rw [Connection.isLive] at gone
    cases state : e.conn.state <;>
      simp_all [ConnectionState.isTerminal, ConnectionState.isLive]

theorem isOnContext_of_same (task : e'.task = e.task)
    (context : e'.conn.context = e.conn.context) : e'.isOnContext = e.isOnContext := by
  rw [isOnContext, isOnContext, task, context]

/-- A connection with a socket runs on the task that it was handed over on. -/
theorem isOnContext_connected (context : e.conn.context = none) (t : Transport) :
    (e.connected t).isOnContext = true := by
  by_cases waiting : e.conn.state = .connecting
  · obtain ⟨greeting, phase⟩ := phase_of_connecting waiting
    rw [connected_of_connecting t phase]
    show (e.task.isNone || e.task == e.task) = true
    simp
  · rw [isOnContext, conn_connected_of_not_connecting t waiting, context]
    rfl

end Endpoint

/-- A connection that was opened at most once has no socket until one is handed over. -/
theorem Machine.unconnected_of_run {m : Machine H} {labels : List (Label H)}
    (run : Run Operation.Any initial labels m) (atMost : labels.countP Label.isDial ≤ 1)
    (unconnected : ∀ l ∈ labels, l.isConnected = false) : m.endpoint.Unconnected := by
  obtain ⟨steps, rfl, trail⟩ := run.exists_trail
  have regular : m.endpoint.Regular := by
    refine ⟨sound_of_run run, owns_of_run run atMost, timed_of_run run atMost,
      bare_of_trail trail ?_⟩
    rwa [countP_map_label] at atMost
  refine ⟨regular, ?_, ?_⟩
  · clear trail atMost regular
    generalize steps.map Step.label = labels at run unconnected
    generalize hm : (initial : Machine H) = start at run
    induction run with
    | nil =>
      subst hm
      rfl
    | @snoc k n ls label run move ih =>
      subst hm
      obtain ⟨before, now⟩ := List.forall_mem_append.mp unconnected
      have context := ih before
      cases move.turn with
      | @work _ _ w frames due =>
        have other (t : Transport) : w ≠ .perform (.connected t) := by
          rintro rfl
          have label := eq_operate_of_due (tidy_of_run run) due
          exact absurd (now _ List.mem_cons_self) (by simp [label, Label.isConnected])
        exact (k.endpoint.deals_resume (k := 0) w other).context.trans context
      | call => exact context
      | leave => exact context
      | outside outside =>
        show Connection.context _ = none
        rw [outside.conn_eq]
        exact context
  · have none : m.endpoint.transports.length = 0 := by
      rw [length_transports_of_run run, List.countP_eq_zero]
      intro l mem
      rw [unconnected l mem]
      exact Bool.false_ne_true
    rw [Bool.eq_false_iff]
    intro live
    obtain ⟨id, held⟩ := Endpoint.isLive_iff.mp live
    exact absurd (none ▸ regular.sound.held id held) (Nat.not_lt_zero id)

namespace SocketMachine

variable {admitted : Operation H → Prop} {s t : SocketMachine H}
  {label : Label H ⊕ SocketReport} {labels : List (Label H ⊕ SocketReport)} {e : Endpoint H}
  {limit : UInt64} {secure : Bool}

/-! ### Deferred tasks -/

/-- The turn in progress ends with the deferred tasks, or none is left. -/
def Sweeps (s : SocketMachine H) : Prop :=
  (s.machine.frames = [] ∧ s.machine.endpoint.conn.scheduled = []) ∨
  ∃ inner w, s.machine.frames = inner ++ [.work w] ∧
    (w = .perform .runScheduled ∨ w = .runTasks)

/-- The deferred tasks are run until none is left. -/
theorem sweeps_last {w : Work H} {e : Endpoint H} (onContext : e.isOnContext = true)
    (sweeping : w = .perform .runScheduled ∨ w = .runTasks) :
    (e.resume w).2 = [] ∧ (e.resume w).1.conn.scheduled = [] ∨
      ∃ inner, (e.resume w).2 = inner ++ [.runTasks] := by
  rcases sweeping with rfl | rfl
  · refine .inr ⟨[], ?_⟩
    show e.runScheduled.2 = _
    rw [Endpoint.runScheduled, if_pos onContext]
    rfl
  · exact e.runTasks_last

theorem sweeps_answer (t : SocketTask) (e : Endpoint H) (report : SocketReport) :
    ∃ inner, framesOf report (t.answer e report).2 = inner ++ [.work (.perform .runScheduled)] := by
  obtain ⟨operations, work, -⟩ := t.exists_turn e report
  have frames : (t.answer e report).2.map Frame.work =
      operations.map (Frame.work ∘ Work.perform) ++ [.work (.perform .runScheduled)] := by
    simp [work, SocketTask.turn]
  cases report with
  | closure => exact ⟨.code :: _, congrArg (Frame.code :: ·) frames⟩
  | _ => exact ⟨_, frames⟩

/-- **Every turn ends with the deferred tasks.** -/
theorem sweeps_move (sweeps : s.Sweeps) (onContext : s.machine.endpoint.isOnContext = true)
    (move : Move admitted s label t) : t.Sweeps := by
  obtain ⟨task, ⟨e, frames⟩, handles, last⟩ := s
  cases move with
  | @inside m label move internal =>
    rcases sweeps with ⟨none, -⟩ | ⟨inner, w, below, sweeping⟩
    · obtain rfl : frames = [] := none
      exact absurd move (by rintro ⟨⟩ <;> exact absurd rfl internal)
    · obtain rfl : frames = inner ++ [.work w] := below
      -- what runs above the deferred tasks leaves them where they are
      by_cases first : inner = []
      · subst first
        cases move with
        | work noCall =>
          rcases sweeps_last onContext sweeping with ⟨none, swept⟩ | ⟨inner, left⟩
          · exact .inl ⟨by simp [none], swept⟩
          · exact .inr ⟨inner.map .work, .runTasks, by simp [left], .inr rfl⟩
        | call => rcases sweeping with h | h <;> exact absurd h (by simp)
        | _ => exact absurd rfl internal
      · obtain ⟨inner', frames'⟩ := move.frames_of_inner rfl first
        exact .inr ⟨inner', w, frames', sweeping⟩
  | wait later => exact sweeps
  | @turn report e' head due =>
    obtain ⟨inner, frames⟩ := sweeps_answer task e' report
    exact .inr ⟨inner, _, frames, .inl rfl⟩

/-! ### The order to close -/

/-- The channel stands at its task's disposal: if the connection has closed it, then the order to
close stands there until it is taken. -/
structure Served (s : SocketMachine H) (c : Channel) : Prop where
  /-- The channel is there. -/
  found : s.channel? = some c
  /-- The task takes its orders. -/
  receiver : c.receiverGone = false
  /-- What the connection has closed is closed. -/
  closed : (∃ id, .transportClosed id ∈ s.calls) → c.closed = true
  /-- The order to close ends the session. -/
  ending : s.last = false → c.closed = true → .close ∈ c.orders

theorem served_move {c : Channel} (served : s.Served c) (move : Move admitted s label t) :
    ∃ c', t.Served c' := by
  obtain ⟨found, receiver, closed, ending⟩ := served
  obtain ⟨c', calls, found', called, passes⟩ := channel_move found move
  cases label with
  | inl l =>
    obtain ⟨given, takes⟩ := passes
    refine ⟨c', found', takes.receiver.trans receiver, ?_, fun goesOn shut => ?_⟩
    · rintro ⟨id, mem⟩
      rw [called, List.mem_append] at mem
      exact takes.closed.mpr (mem.imp (fun mem => closed ⟨id, mem⟩) fun mem => ⟨id, mem⟩)
    · rw [takes.orders, List.mem_append]
      exact (takes.ending receiver shut).imp_left (ending (move.goesOn goesOn))
  | inr report =>
    obtain ⟨rfl, rfl, taken⟩ := passes
    refine ⟨_, found', (c.receiverGone_served _ report).trans receiver, ?_, fun goesOn shut => ?_⟩
    · rw [called, List.append_nil, c.closed_served]
      exact closed
    · rw [c.closed_served] at shut
      have mem := ending (move.goesOn goesOn) shut
      rw [taken goesOn, List.mem_append] at mem
      -- an order to close that is taken makes the turn the last
      refine mem.resolve_left fun first => ?_
      cases report <;> simp [SocketReport.order?] at first

theorem served_connected (fresh : e.callsOf e.transports.length = []) (limit : UInt64)
    (secure : Bool) : ∃ c, (connected e limit secure).Served c := by
  obtain ⟨c, calls, given, found, called, takes⟩ := channel?_connected e limit secure
  rw [fresh, List.nil_append] at called
  refine ⟨c, found, takes.receiver, fun shut => takes.closed.mpr (.inr (called ▸ shut)),
    fun _ shut => ?_⟩
  rw [takes.orders]
  exact List.mem_append_right _ ((takes.ending rfl shut).resolve_left (by simp))

/-! ### Tended sessions -/

/-- What is known of a session at any time. -/
structure Tended (s : SocketMachine H) : Prop where
  /-- Nothing hands over another socket. -/
  underway : s.Underway
  /-- What is known of a connection at any time. -/
  regular : s.machine.endpoint.Regular
  /-- The connection holds the channel of the task, or can no longer be used. -/
  bound : s.machine.endpoint.Bound s.task.channel
  /-- The task may run the deferred tasks. -/
  onContext : s.machine.endpoint.isOnContext = true
  /-- The task serves its channel. -/
  served : ∃ c, s.Served c
  /-- In the last turn the connection comes to rest. -/
  ending : s.last = true → .perform .closed ∈ s.dues ∨ s.machine.endpoint.Rests
  /-- No deferred task is left behind. -/
  sweeps : s.Sweeps

/-- In the last turn the connection hears that the socket has closed, or rests. -/
theorem ending_move (tended : s.Tended) (move : Move Operation.Public s label t)
    (last : t.last = true) : .perform .closed ∈ t.dues ∨ t.machine.endpoint.Rests := by
  cases before : s.last with
  | true =>
    rcases tended.ending before with due | rests
    · refine (move.due_or_done due).imp_right fun done => ?_
      rw [move.endpoint_of_work? done]
      exact Endpoint.rests_closed tended.bound
    · exact .inr ((effects_move tended.underway move).invariant
        (fun rests effect => effect.rests rests) rests)
  | false =>
    cases move.act with
    | work kind endpoint dues task same => exact absurd (same.symm.trans last) (by simp [before])
    | pause endpoint dues task same => exact absurd (same.symm.trans last) (by simp [before])
    | @turn _ report e head due endpoint dues task same =>
      exact .inl (dues ▸ s.task.closed_mem_answer e (same ▸ last))

theorem isOnContext_move (underway : s.Underway) (move : Move Operation.Public s label t) :
    t.machine.endpoint.isOnContext = s.machine.endpoint.isOnContext := by
  cases move.act with
  | @work _ _ w below kind endpoint =>
    have deals := s.machine.endpoint.deals_resume (k := s.task.channel) w
      (Work.ne_connected_of_not_opening (underway.not_opening kind))
    rw [endpoint]
    exact Endpoint.isOnContext_of_same deals.task deals.context
  | pause endpoint =>
    obtain ⟨clock, -, endpoint⟩ := endpoint
    rw [endpoint]
    rfl
  | turn head due endpoint =>
    rw [endpoint]
    exact Endpoint.isOnContext_of_same due.tends.task (by rw [due.tends.conn])

theorem tended_move (tended : s.Tended) (move : Move Operation.Public s label t) : t.Tended := by
  have effects := effects_move tended.underway move
  obtain ⟨c, served⟩ := tended.served
  exact {
    underway := tended.underway.move move
    regular := effects.invariant (fun regular effect => effect.regular regular) tended.regular
    bound := (task_move move).1 ▸ effects.invariant (P := Endpoint.Bound s.task.channel)
      (fun bound effect => effect.bound bound) tended.bound
    onContext := (isOnContext_move tended.underway move).trans tended.onContext
    served := served_move served move
    ending := ending_move tended move
    sweeps := sweeps_move tended.sweeps tended.onContext move }

/-- **Sessions are tended.** -/
theorem tended_of_run (tended : s.Tended) (run : Run Operation.Public s labels t) : t.Tended :=
  run.invariant tended_move tended

theorem tended_connected (unconnected : e.Unconnected) (limit : UInt64) (secure : Bool) :
    (connected e limit secure).Tended where
  underway := underway_connected e limit secure
  regular := Endpoint.Effect.regular unconnected.regular (.connected _)
  bound := Endpoint.bound_connected unconnected.gone _
  onContext := Endpoint.isOnContext_connected unconnected.context _
  served := served_connected (unconnected.regular.owns.fresh _ (Nat.le_refl _)) limit secure
  ending last := absurd last Bool.false_ne_true
  sweeps := .inr ⟨[], _, rfl, .inl rfl⟩

/-- A tended session that is at the end of a turn began with its socket. -/
theorem tended_of_start (unconnected : e.Unconnected)
    (run : Run Operation.Public (start e limit secure) labels s)
    (idle : s.machine.frames = []) : s.Tended := by
  obtain ⟨clock, rest, later, -, run⟩ := begins_of_run run idle
  exact tended_of_run (tended_connected (unconnected.wait later) limit secure) run

/-- A connection that has lost its socket has an order to close left. -/
theorem Tended.live_or_close (tended : s.Tended) (goesOn : s.last = false) :
    s.machine.endpoint.conn.isLive = true ∨ .close ∈ s.orders := by
  obtain ⟨c, served⟩ := tended.served
  have there := SocketTask.channel?_eq_some.mp served.found
  -- a transport that is not held was let go of, and to close it was the last call of it
  rcases tended.regular.owns.fate s.task.channel (List.getElem?_eq_some_iff.mp there).1 with
    holds | letGo
  · exact .inl (Endpoint.isLive_of_held holds.held)
  · obtain ⟨earlier, calls, -⟩ := letGo.closedLast
    have closed := served.closed ⟨s.task.channel, by rw [SocketMachine.calls, calls]; simp⟩
    rw [orders_of_found served.found]
    exact .inr (served.ending goesOn closed)

/-- **The task neither outlives nor abandons its connection.**  Whenever it waits for the next
report, the connection has its socket or an order to close stands on the channel; and when it has
ended, the connection can no longer be used and knows that its socket has closed, no deadline is
set, nobody waits for room or for an upgrade, and no deferred task is left. -/
theorem rests_in_the_end {m : Machine H} {earlier : List (Label H)}
    (history : Machine.Run Operation.Any Machine.initial earlier m)
    (atMost : earlier.countP Label.isDial ≤ 1)
    (unconnected : ∀ l ∈ earlier, l.isConnected = false)
    (run : Run Operation.Public (start m.endpoint limit secure) labels s) :
    (s.AtHead → s.machine.endpoint.conn.isLive = true ∨ .close ∈ s.orders) ∧
    (s.Ended → s.machine.endpoint.conn.state.isTerminal = true ∧
      s.machine.endpoint.conn.peerClosed = true ∧
      s.machine.endpoint.conn.timer = none ∧
      s.machine.endpoint.conn.deferred = [] ∧
      s.machine.endpoint.conn.upgradeHandler = none ∧
      s.machine.endpoint.conn.scheduled = []) := by
  have fresh := Machine.unconnected_of_run history atMost unconnected
  constructor
  · rintro ⟨idle, goesOn⟩
    exact (tended_of_start fresh run idle).live_or_close goesOn
  · rintro ⟨idle, last⟩
    have tended := tended_of_start fresh run idle
    have rests : s.machine.endpoint.Rests := (tended.ending last).resolve_left <| by
      simp [dues, idle]
    have timer := tended.regular.timed.timer_eq_none
      (Endpoint.ne_live_of_terminal rests.terminal .shuttingDown)
    obtain ⟨deferred, upgrade⟩ := tended.regular.nobody_waits
      (Endpoint.not_live_of_terminal rests.terminal)
    have swept : s.machine.endpoint.conn.scheduled = [] := by
      rcases tended.sweeps with ⟨-, none⟩ | ⟨inner, w, frames, -⟩
      · exact none
      · exact absurd (idle.symm.trans frames) (by simp)
    exact ⟨rests.terminal, rests.peer, timer, deferred, upgrade, swept⟩

/-- A connection that was just opened. -/
def dialled : Machine Nat :=
  (Machine.initial.play [.operate (.dial (Config.build "mail" []) 0 1)]).2

/-- Who is greeted asks for a graceful close; QUIT is sent and answered. -/
def answered : SocketMachine Nat :=
  (((((((start dialled.endpoint 1000 false).played [.proceed, .proceed, .proceed]).reported
    (.read [50, 50, 48, 32, 104, 105, 13, 10])).played (asks .close ++ [.proceed])).reported
    (.wrote [81, 85, 73, 84, 13, 10] (.ok ()))).played [.proceed, .proceed]).reported
    (.read [50, 50, 49, 32, 104, 105, 13, 10])).played
    [.proceed, .proceed, .proceed, .proceed, .proceed]

/-- The socket is closed as the connection has ordered. -/
def shutDown : SocketMachine Nat :=
  (answered.reported (.shutDown (.ok ()))).played [.proceed, .proceed, .proceed]

/-- The order to close stands there when QUIT is answered, and leads to the end. -/
theorem quit_comes_to_rest : ∃ labels labels',
    Run Operation.Public (start dialled.endpoint 1000 false) labels answered ∧ answered.AtHead ∧
    answered.machine.endpoint.conn.isLive = false ∧ .close ∈ answered.orders ∧
    Run Operation.Public (start dialled.endpoint 1000 false) labels' shutDown ∧ shutDown.Ended ∧
    shutDown.machine.endpoint.conn.state.isTerminal = true ∧
    shutDown.machine.endpoint.conn.peerClosed = true := by
  have history := Machine.run_play (Machine.initial (H := Nat))
    [.operate (.dial (Config.build "mail" []) 0 1)]
  have begins : Trail Operation.Public (start dialled.endpoint 1000 false) [] _ := .nil
  have waiting := begins.played [.proceed, .proceed, .proceed] (by decide)
  have asked := (waiting.reported (.read [50, 50, 48, 32, 104, 105, 13, 10]) (by decide)
    (.read (by simp) rfl)).played (asks .close ++ [.proceed]) (by decide)
  have sent := (asked.reported (.wrote [81, 85, 73, 84, 13, 10] (.ok ())) (by decide)
    (.wrote (.ok ()) rfl)).played [.proceed, .proceed] (by decide)
  have quit := (sent.reported (.read [50, 50, 49, 32, 104, 105, 13, 10]) (by decide)
    (.read (by simp) rfl)).played [.proceed, .proceed, .proceed, .proceed, .proceed] (by decide)
  have ended := (quit.reported (.shutDown (.ok ())) (by decide) (.closed (.ok ()) rfl)).played
    [.proceed, .proceed, .proceed] (by decide)
  have gone : answered.machine.endpoint.conn.isLive = false := by decide
  have head : answered.AtHead := by decide
  have close := ((rests_in_the_end history (by decide) (by decide) quit.run).1 head).resolve_left
    (Bool.eq_false_iff.mp gone)
  have rests := (rests_in_the_end history (by decide) (by decide) ended.run).2 (by decide)
  exact ⟨_, _, quit.run, head, gone, close, ended.run, by decide, rests.1, rests.2.1⟩

end SocketMachine

end SmtpLink
