import SmtpLink.Proofs.Keep
import SmtpLink.Proofs.Play

/-!
# Faults are delivered once

A connection meets a fault when its socket fails, when the peer closes the socket, when the
input makes no sense, or when the transport refuses a command.  If a command may be in flight
the fault breaks the connection and is delivered to the handler for errors; otherwise it is only
remarked.  A broken connection has no command in flight, so the first delivery is the last.

## Main definitions

* `Endpoint.deliveries` — how many faults were delivered.
* `Endpoint.Meets` — a piece of work meets a fault, and how it finds the connection.
* `Endpoint.Delivers` — what a fault has done before the handler for errors is called.

## Main results

* `Endpoint.deliveries_resume` — only faults that find a command in flight are delivered.
* `Endpoint.Meets.delivers` — **the connection is broken before the handler is called.**
* `Machine.fault_delivered_once` — **a fault is delivered at most once in a run**, exactly if it
  finds a command in flight, and no reply is handed out after it.
-/

namespace SmtpLink

variable {H : Type}

/-- The listener hears that an operation has ended. -/
def Event.isOperationEnded : Event → Bool
  | .operationEnded _ => true
  | _ => false

namespace Endpoint

variable {e e' found : Endpoint H} {err : Error} {w : Work H}

/-- How many faults were delivered. -/
def deliveries (e : Endpoint H) : Nat := e.trace.countP Event.isDelivery

/-- The transport refuses a command, and how this finds the connection. -/
structure Refusal (e : Endpoint H) (text : String) (mask : Option Nat) (handler : ReplyHandler H)
    (found : Endpoint H) (err : Error) : Prop where
  /-- The peer has not closed the socket. -/
  peer : e.conn.peerClosed = false
  /-- The transport that is held refuses the line. -/
  refused : ∃ id, e.conn.phase.transport? = some id ∧
    ((e.setSlot (some handler)).remark (.command (redact text mask))).sendBytes id
      (lineBytes text) = (found, .error err)

/-- A piece of work meets a fault, and how this finds the connection. -/
inductive Meets (e : Endpoint H) : Work H → Endpoint H → Error → Prop
  /-- The socket fails. -/
  | fault (err : Error) : Meets e (.perform (.fault err)) e err
  /-- The peer closes the socket. -/
  | closed : Meets e (.perform .closed) e.noteClosed .closedByServer
  /-- The input makes no sense. -/
  | malformed {err : Error} (h : e.conn.assembler.poll.2 = some (.error err)) :
      Meets e .dispatch { e with conn := { e.conn with assembler := e.conn.assembler.poll.1 } } err
  /-- A command is refused. -/
  | write {text : String} {mask : Option Nat} {handler : H} {found : Endpoint H} {err : Error}
      (h : e.Refusal text mask (.reply handler) found err) :
      Meets e (.perform (.write text mask handler)) found err
  /-- A group of commands is refused. -/
  | writeCommands {commands : List String} {handler : H} {found : Endpoint H} {err : Error}
      (ne : commands.isEmpty = false)
      (h : (e.expect commands.length).Refusal ("\r\n".intercalate commands) none
        (.replies handler commands.length) found err) :
      Meets e (.perform (.writeCommands commands handler)) found err
  /-- The QUIT of a graceful close is refused. -/
  | quit {rest : List (Task H)} {found : Endpoint H} {err : Error}
      (oldest : e.conn.scheduled = .close :: rest) (live : e.conn.isLive = true)
      (h : (remark { e with conn := { e.conn with scheduled := rest } }
        .shuttingDown).beginQuit.Refusal "QUIT" none .quit found err) : Meets e .runTasks found err

/-- What a fault has done before the handler for errors is called.  The fault has found the
connection as `found`; `r` is what it leaves. -/
structure Delivers (found : Endpoint H) (err : Error) (r : Reaction H) : Prop where
  /-- The connection is broken. -/
  state : r.1.conn.state = .broken
  /-- Nobody waits for a reply. -/
  slot : r.1.conn.phase.slot? = none
  /-- The transport that was held is closed, the listener has heard once that the operation has
  ended, and the fault is counted. -/
  events : ∃ id new, found.conn.phase.transport? = some id ∧ r.1.trace = found.trace ++ new ∧
    .transportClosed id ∈ new ∧ new.countP Event.isOperationEnded = 1 ∧
    new.countP Event.isDelivery = 1
  /-- The handler for errors, if it is one of the application, is called next, and no other
  call is left. -/
  calls : ∃ rest, (∀ v ∈ rest, v.isInner = true) ∧
    r.2 = errorCalls found.conn.errorHandler err ++ rest

/-! ### Counting deliveries -/

theorem deliveries_emit (e : Endpoint H) (event : Event) :
    (e.emit event).deliveries = e.deliveries + if event.isDelivery then 1 else 0 := by
  rw [deliveries, trace_emit, List.countP_append, List.countP_singleton]
  rfl

@[simp] theorem deliveries_emit_of_not {event : Event} (h : event.isDelivery = false) :
    (e.emit event).deliveries = e.deliveries := by
  rw [deliveries_emit, h]
  rfl

@[simp] theorem deliveries_remark_of_not {r : Remark} (h : (Event.remark r).isDelivery = false) :
    (e.remark r).deliveries = e.deliveries :=
  deliveries_emit_of_not h

theorem deliveries_of_trace (h : e'.trace = e.trace) : e'.deliveries = e.deliveries := by
  rw [deliveries, deliveries, h]

@[simp] theorem deliveries_setSlot (e : Endpoint H) (slot : Option (ReplyHandler H)) :
    (e.setSlot slot).deliveries = e.deliveries := rfl

@[simp] theorem deliveries_releaseTransport (e : Endpoint H) :
    e.releaseTransport.deliveries = e.deliveries := by
  unfold releaseTransport
  split <;> rfl

@[simp] theorem deliveries_closeTransport (e : Endpoint H) (id : TransportId) :
    (e.closeTransport id).deliveries = e.deliveries := by
  unfold closeTransport
  split
  · rfl
  · exact deliveries_emit_of_not rfl

@[simp] theorem deliveries_release (e : Endpoint H) (phase : Phase H) :
    (e.release phase).deliveries = e.deliveries := by
  unfold release
  dsimp only
  split
  · next id h =>
    show ((e.remark .closingSocket).closeTransport id).releaseTransport.deliveries = e.deliveries
    rw [deliveries_releaseTransport, deliveries_closeTransport, deliveries_remark_of_not rfl]
  · rfl

@[simp] theorem deliveries_shutdown (e : Endpoint H) : e.shutdown.deliveries = e.deliveries :=
  deliveries_release _ _

@[simp] theorem deliveries_finishQuit (e : Endpoint H) : e.finishQuit.deliveries = e.deliveries :=
  deliveries_shutdown _

@[simp] theorem deliveries_setBroken (e : Endpoint H) : e.setBroken.deliveries = e.deliveries := by
  unfold setBroken
  split
  · exact deliveries_remark_of_not rfl
  · rw [operationEnded, deliveries_emit_of_not rfl, deliveries_release,
      deliveries_remark_of_not rfl]

@[simp] theorem deliveries_changeUsage (e : Endpoint H) (origin usage : Usage) :
    (e.changeUsage origin usage).deliveries = e.deliveries := by
  unfold changeUsage
  split
  · rfl
  · exact deliveries_remark_of_not rfl

@[simp] theorem deliveries_sendBytes (e : Endpoint H) (id : TransportId) (data : Bytes) :
    (e.sendBytes id data).1.deliveries = e.deliveries := by
  unfold sendBytes
  split
  · rfl
  · split <;> exact deliveries_emit_of_not rfl

@[simp] theorem deliveries_askFull (e : Endpoint H) (id : TransportId) :
    (e.askFull id).2.deliveries = e.deliveries := by
  unfold askFull
  split <;> rfl

@[simp] theorem deliveries_askUpgrade (e : Endpoint H) (id : TransportId) :
    (e.askUpgrade id).1.deliveries = e.deliveries := by
  unfold askUpgrade
  split
  · rfl
  · split <;> exact deliveries_emit_of_not rfl

@[simp] theorem deliveries_noteClosed (e : Endpoint H) :
    e.noteClosed.deliveries = e.deliveries := by
  show ((e.remark .socketClosed).emit _).deliveries = e.deliveries
  rw [deliveries_emit_of_not rfl, deliveries_remark_of_not rfl]

/-- Quiet effects deliver no fault. -/
theorem Effect.deliveries_of_quiet (effect : Effect false e e') :
    e'.deliveries = e.deliveries := by
  cases effect with
  | @event _ _ event plain =>
    refine deliveries_emit_of_not ?_
    cases event <;> simp_all [Event.isPlain, Event.isDelivery]
  | outside outside => exact deliveries_of_trace outside.trace_eq
  | send data held peer => exact deliveries_sendBytes e _ data
  | askFull held => exact deliveries_askFull e _
  | askUpgrade held => exact deliveries_askUpgrade e _
  | park => exact deliveries_changeUsage e _ _
  | use => exact deliveries_changeUsage e _ _
  | setBroken => exact deliveries_setBroken e
  | retire idle =>
    rw [deliveries_setBroken, deliveries_remark_of_not rfl, deliveries_noteClosed]
  | closeExpected gone => exact deliveries_noteClosed e
  | finishQuit waits => exact deliveries_finishQuit e
  | shutdown gone notYet => exact deliveries_shutdown e
  | _ => rfl

theorem Effects.deliveries_of_quiet (effects : Effects false e e') :
    e'.deliveries = e.deliveries :=
  effects.invariant (P := fun d => d.deliveries = e.deliveries)
    (fun h effect => effect.deliveries_of_quiet.trans h) rfl

theorem deliveries_deliverError (e : Endpoint H) (err : Error) :
    (e.deliverError err).1.deliveries = e.deliveries :=
  (effects_deliverError e err).deliveries_of_quiet

theorem deliveries_dial (e : Endpoint H) (config : Config) (greeting onError : H) :
    (e.dial config greeting onError).deliveries = e.deliveries :=
  (deliveries_remark_of_not rfl).trans (deliveries_releaseTransport e)

theorem deliveries_connected (e : Endpoint H) (t : Transport) :
    (e.connected t).deliveries = e.deliveries := by
  unfold connected
  dsimp only
  split
  · exact deliveries_remark_of_not rfl
  · exact (deliveries_closeTransport _ _).trans (deliveries_remark_of_not rfl)

theorem deliveries_deliverReplies (e : Endpoint H) (batch : List Reply) :
    (e.deliverReplies batch).1.deliveries = e.deliveries := by
  have remarked (r : Remark) (h : (Event.remark r).isDelivery = false) :
      ((e.setSlot none).remark r).deliveries = e.deliveries := deliveries_remark_of_not h
  unfold deliverReplies
  dsimp only
  split
  · exact deliveries_remark_of_not rfl
  · rfl
  · split
    · exact remarked _ rfl
    · rfl
  · split
    · exact remarked _ rfl
    · rfl
  · split
    · exact remarked _ rfl
    · rw [done, deliveries_finishQuit]
      split
      · rfl
      · exact remarked _ rfl

theorem deliveries_input (e : Endpoint H) (data : Bytes) :
    (e.input data).1.deliveries = e.deliveries := by
  unfold input
  split
  · rfl
  · exact deliveries_remark_of_not rfl

theorem deliveries_upgraded (e : Endpoint H) (result : Outcome) :
    (e.upgraded result).1.deliveries = e.deliveries := by
  have dropped : (if result.isOk then e.dropInput else e).deliveries = e.deliveries := by
    split <;> rfl
  unfold upgraded
  dsimp only
  split
  · exact dropped
  · exact (deliveries_remark_of_not rfl).trans dropped

theorem deliveries_returnToPool (e : Endpoint H) :
    e.returnToPool.1.deliveries = e.deliveries := by
  unfold returnToPool
  split
  · exact (deliveries_deliverError _ _).trans (deliveries_remark_of_not rfl)
  · split
    · exact (effects_close _).deliveries_of_quiet.trans (deliveries_remark_of_not rfl)
    · exact (deliveries_emit_of_not rfl).trans (deliveries_remark_of_not (r := .returned) rfl)

/-! ### Meeting a fault -/

theorem deliveries_fault (e : Endpoint H) (err : Error) :
    (e.fault err).1.deliveries = e.deliveries ∨ e.conn.state.isInFlight = true := by
  cases h : e.conn.state.isInFlight with
  | true => exact .inr rfl
  | false =>
    rw [fault_of_not_inFlight h]
    exact .inl (deliveries_remark_of_not rfl)

namespace Refusal

variable {text : String} {mask : Option Nat} {handler : ReplyHandler H}

theorem conn_eq (h : e.Refusal text mask handler found err) :
    found.conn = (e.setSlot (some handler)).conn := by
  obtain ⟨id, held, sent⟩ := h.refused
  have conn := conn_sendBytes ((e.setSlot (some handler)).remark (.command (redact text mask))) id
    (lineBytes text)
  rw [sent] at conn
  exact conn

theorem length_transports (h : e.Refusal text mask handler found err) :
    found.transports.length = e.transports.length := by
  obtain ⟨id, held, sent⟩ := h.refused
  have length := length_transports_sendBytes
    ((e.setSlot (some handler)).remark (.command (redact text mask))) id (lineBytes text)
  rw [sent] at length
  exact length

theorem deliveries_found (h : e.Refusal text mask handler found err) :
    found.deliveries = e.deliveries := by
  obtain ⟨id, held, sent⟩ := h.refused
  have counted := deliveries_sendBytes
    ((e.setSlot (some handler)).remark (.command (redact text mask))) id (lineBytes text)
  rw [sent] at counted
  exact counted.trans (deliveries_remark_of_not rfl)

/-- What a refused command does is what the fault does. -/
theorem writeWith_eq (h : e.Refusal text mask handler found err) :
    e.writeWith text mask handler = (found.fault err, false) := by
  obtain ⟨id, held, sent⟩ := h.refused
  unfold writeWith
  rw [if_neg (by simp [h.peer]), held]
  dsimp only
  rw [sent]

end Refusal

/-- A command that is written delivers a fault only if it is refused with a command in flight. -/
theorem deliveries_writeWith (e : Endpoint H) (text : String) (mask : Option Nat)
    (handler : ReplyHandler H) :
    (e.writeWith text mask handler).1.1.deliveries = e.deliveries ∨
      ∃ found err, e.Refusal text mask handler found err ∧ found.conn.state.isInFlight = true := by
  unfold writeWith
  split
  · exact .inl ((deliveries_deliverError _ _).trans (deliveries_remark_of_not rfl))
  · next peer =>
    split
    · exact .inl ((deliveries_deliverError _ _).trans (deliveries_remark_of_not rfl))
    · next id held =>
      have sent := deliveries_sendBytes
        ((e.setSlot (some handler)).remark (.command (redact text mask))) id (lineBytes text)
      rw [deliveries_remark_of_not rfl, deliveries_setSlot] at sent
      dsimp only
      split
      · next e' h =>
        rw [h] at sent
        exact .inl sent
      · next found err h =>
        -- the fault meets the connection with the new handler in the slot already
        rw [h] at sent
        rcases deliveries_fault found err with same | inFlight
        · exact .inl (same.trans sent)
        · exact .inr ⟨found, err, ⟨by simpa using peer, id, held, h⟩, inFlight⟩

theorem deliveries_writeCommands (e : Endpoint H) (commands : List String) (handler : H) :
    (e.writeCommands commands handler).1.deliveries = e.deliveries ∨
      ∃ found err, e.Meets (.perform (.writeCommands commands handler)) found err ∧
        found.conn.state.isInFlight = true := by
  have written := deliveries_writeWith (e.expect commands.length)
    ("\r\n".intercalate commands) none (.replies handler commands.length)
  unfold writeCommands
  split
  · exact .inl (deliveries_deliverError _ _)
  · next ne =>
    have met := written.imp_right fun ⟨found, err, refusal, inFlight⟩ =>
      (⟨found, err, .writeCommands (by simpa using ne) refusal, inFlight⟩ :
        ∃ found err, e.Meets (.perform (.writeCommands commands handler)) found err ∧
          found.conn.state.isInFlight = true)
    dsimp only
    split
    · next h =>
      rw [h] at met
      exact met
    · next h =>
      rw [h] at met
      exact met

theorem deliveries_closed (e : Endpoint H) :
    e.closed.1.deliveries = e.deliveries ∨ e.noteClosed.conn.state.isInFlight = true := by
  cases h : e.noteClosed.conn.state.isInFlight with
  | true => exact .inr rfl
  | false =>
    left
    rw [closed_eq, h, if_neg (by simp)]
    split
    · rw [deliveries_setBroken, deliveries_remark_of_not rfl, deliveries_noteClosed]
    · rw [deliveries_remark_of_not rfl, deliveries_noteClosed]

theorem deliveries_dispatch (e : Endpoint H) : e.dispatch.1.deliveries = e.deliveries ∨
    ∃ found err, e.Meets .dispatch found err ∧ found.conn.state.isInFlight = true := by
  unfold dispatch
  dsimp only
  split
  · exact .inl rfl
  · next err h =>
    exact (deliveries_fault _ err).imp_right fun inFlight => ⟨_, err, .malformed h, inFlight⟩
  · exact .inl (deliveries_deliverReplies _ _)

theorem deliveries_runTasks (e : Endpoint H) : e.runTasks.1.deliveries = e.deliveries ∨
    ∃ found err, e.Meets .runTasks found err ∧ found.conn.state.isInFlight = true := by
  unfold runTasks
  split
  · exact .inl rfl
  · next task rest oldest =>
    dsimp only
    split
    · exact .inl rfl
    · dsimp only
      unfold runClose
      split
      · exact .inl (deliveries_remark_of_not rfl)
      · dsimp only
        split
        · refine .inl ((deliveries_shutdown _).trans ?_)
          exact (deliveries_remark_of_not rfl).trans (deliveries_remark_of_not rfl)
        · next h =>
          simp only [Bool.or_eq_true, Bool.not_eq_true', not_or, Bool.not_eq_true,
            Bool.not_eq_false] at h
          rcases deliveries_writeWith (remark { e with conn := { e.conn with scheduled := rest } }
            .shuttingDown).beginQuit "QUIT" none .quit with same | ⟨found, err, refusal, inFlight⟩
          · exact .inl (same.trans (deliveries_remark_of_not (r := .shuttingDown) rfl))
          · exact .inr ⟨found, err, .quit oldest h.2 refusal, inFlight⟩

theorem deliveries_perform (e : Endpoint H) (operation : Operation H) :
    (e.perform operation).1.deliveries = e.deliveries ∨
      ∃ found err, e.Meets (.perform operation) found err ∧
        found.conn.state.isInFlight = true := by
  cases operation with
  | dial config greeting onError => exact .inl (deliveries_dial e config greeting onError)
  | connected t => exact .inl (deliveries_connected e t)
  | input data => exact .inl (deliveries_input e data)
  | upgraded result => exact .inl (deliveries_upgraded e result)
  | fault err => exact (deliveries_fault e err).imp_right fun h => ⟨e, err, .fault err, h⟩
  | closed => exact (deliveries_closed e).imp_right fun h => ⟨_, _, .closed, h⟩
  | write text mask handler =>
    refine (deliveries_writeWith e text mask (.reply handler)).imp_right ?_
    rintro ⟨found, err, refusal, inFlight⟩
    exact ⟨found, err, .write refusal, inFlight⟩
  | writeCommands commands handler => exact deliveries_writeCommands e commands handler
  | returnToPool => exact .inl (deliveries_returnToPool e)
  | _ => exact .inl (effects_perform_of_quiet e rfl).deliveries_of_quiet

/-- **Only faults that find a command in flight are delivered.** -/
theorem deliveries_resume (e : Endpoint H) (w : Work H) :
    (e.resume w).1.deliveries = e.deliveries ∨
      ∃ found err, e.Meets w found err ∧ found.conn.state.isInFlight = true := by
  cases w with
  | call handler notice => exact .inl rfl
  | perform operation => exact deliveries_perform e operation
  | dispatch => exact deliveries_dispatch e
  | sendDeferred deferred => exact .inl (effects_writeLine e deferred.line).deliveries_of_quiet
  | expectOne => exact .inl rfl
  | runTasks => exact deliveries_runTasks e

/-! ### What a fault does -/

theorem trace_release_of_held {id : TransportId} (held : e.conn.phase.transport? = some id)
    (lt : id < e.transports.length) (phase : Phase H) :
    (e.release phase).trace = e.trace ++ [.remark .closingSocket, .transportClosed id] := by
  have found : e.transports[id]? = some e.transports[id] := List.getElem?_eq_getElem lt
  simp [release, held, closeTransport, found, releaseTransport, setTransport, emit, remark]

theorem trace_release_of_gone (gone : e.conn.phase.transport? = none) (phase : Phase H) :
    (e.release phase).trace = e.trace := by
  simp [release, gone]

theorem trace_finishQuit_of_gone (gone : e.conn.phase.transport? = none) :
    e.finishQuit.trace = e.trace :=
  trace_release_of_gone (e := { e with conn := { e.conn with timer := none } }) gone _

theorem errorHandler_setBroken (e : Endpoint H) :
    e.setBroken.conn.errorHandler = e.conn.errorHandler := by
  unfold setBroken
  split
  · rfl
  · show ((e.remark .breaking).release .broken).conn.errorHandler = e.conn.errorHandler
    unfold release closeTransport releaseTransport
    dsimp only
    split
    · split <;> split <;> rfl
    · rfl

theorem slot?_of_terminal {phase : Phase H} (h : phase.state.isTerminal = true) :
    phase.slot? = none := by
  cases phase with
  | live usage id slot => exact absurd h (by simp [Phase.state, ConnectionState.isTerminal])
  | _ => rfl

/-- An error that is handed to whoever hears of it leaves a broken connection broken, and tells
of no operation and no fault. -/
theorem deliverError_of_broken (h : e.conn.state = .broken) (err : Error) :
    (e.deliverError err).1.conn.state = .broken ∧ ∃ new,
      (e.deliverError err).1.trace = e.trace ++ new ∧
      new.countP Event.isOperationEnded = 0 ∧ new.countP Event.isDelivery = 0 := by
  have gone : e.conn.phase.transport? = none :=
    Phase.transport?_of_terminal (by rw [← Connection.state, h]; rfl)
  unfold deliverError
  split
  · exact ⟨h, [], by simp, rfl, rfl⟩
  · refine ⟨?_, [.remark .quitFaultIgnored], ?_, rfl, rfl⟩
    · rw [done, state_finishQuit, conn_remark, if_pos h]
    · rw [done, trace_finishQuit_of_gone (by exact gone), trace_remark]
  · exact ⟨h, [.remark .errorUnheard], rfl, rfl, rfl⟩

/-- What is seen of a connection with a socket that is made unusable. -/
theorem trace_setBroken_of_held {id : TransportId} (held : e.conn.phase.transport? = some id)
    (lt : id < e.transports.length) : ∃ view, e.setBroken.trace =
      e.trace ++ [.remark .breaking, .remark .closingSocket, .transportClosed id,
        .operationEnded view] := by
  have terminal : e.conn.state.isTerminal = false := by
    cases h : e.conn.state.isTerminal with
    | false => rfl
    | true =>
      rw [Phase.transport?_of_terminal h] at held
      exact absurd held (by simp)
  refine ⟨((e.remark .breaking).release .broken).conn.view, ?_⟩
  rw [setBroken_of_not_terminal terminal, operationEnded, trace_emit,
    trace_release_of_held (e := e.remark .breaking) held lt, trace_remark]
  simp

/-- A fault that finds a command in flight breaks the connection, and only then is it handed to
the handler for errors. -/
theorem delivers_of_inFlight {id : TransportId} (inFlight : found.conn.state.isInFlight = true)
    (held : found.conn.phase.transport? = some id) (lt : id < found.transports.length) {r : Remark}
    (hr : (Event.remark r).isDelivery = true) (err : Error) {rest : List (Work H)}
    (inner : ∀ v ∈ rest, v.isInner = true) :
    found.Delivers err (((found.setBroken.remark r).deliverError err).1,
      ((found.setBroken.remark r).deliverError err).2 ++ rest) := by
  have broken : (found.setBroken.remark r).conn.state = .broken :=
    state_setBroken_of_inFlight inFlight
  obtain ⟨view, breaking⟩ := trace_setBroken_of_held held lt
  obtain ⟨state, new, added, ended, counted⟩ := deliverError_of_broken broken err
  have events : ((found.setBroken.remark r).deliverError err).1.trace = found.trace ++
      ([.remark .breaking, .remark .closingSocket, .transportClosed id, .operationEnded view] ++
        (.remark r :: new)) := by
    rw [added, trace_remark, breaking]
    simp
  -- the listener hears of the end of the operation once, and of the fault once
  refine ⟨state, slot?_of_terminal ?_, ⟨id, _, held, events, by simp, ?_, ?_⟩, rest, inner, ?_⟩
  · rw [← Connection.state, state]
    rfl
  · rw [List.countP_append, List.countP_cons (a := Event.remark r), ended]
    rfl
  · rw [List.countP_append, List.countP_cons (a := Event.remark r), counted, hr]
    rfl
  · rw [work_deliverError, conn_remark, errorHandler_setBroken]

namespace Meets

theorem deliveries_found (h : e.Meets w found err) : found.deliveries = e.deliveries := by
  cases h with
  | fault => rfl
  | closed => exact deliveries_noteClosed e
  | malformed h => rfl
  | write h => exact h.deliveries_found
  | writeCommands ne h => exact h.deliveries_found
  | quit oldest live h =>
    exact h.deliveries_found.trans (deliveries_remark_of_not (r := .shuttingDown) rfl)

/-- A fault finds the connection with the transport that it holds. -/
theorem transport_found (h : e.Meets w found err) :
    found.conn.phase.transport? = e.conn.phase.transport? ∧
      found.transports.length = e.transports.length := by
  cases h with
  | fault => exact ⟨rfl, rfl⟩
  | closed => exact ⟨rfl, rfl⟩
  | malformed h => exact ⟨rfl, rfl⟩
  | write h => exact ⟨by rw [h.conn_eq, phase_setSlot, transport?_setSlot], h.length_transports⟩
  | writeCommands ne h =>
    exact ⟨by rw [h.conn_eq, phase_setSlot, transport?_setSlot]; rfl, h.length_transports⟩
  | quit oldest live h =>
    refine ⟨?_, h.length_transports⟩
    rw [h.conn_eq, phase_setSlot, transport?_setSlot]
    exact Phase.transport?_relabel _ _

/-- A fault that finds a command in flight finds the transport that is held. -/
theorem held (sound : e.Sound) (h : e.Meets w found err)
    (inFlight : found.conn.state.isInFlight = true) : e.conn.isLive = true ∧
      ∃ id, found.conn.phase.transport? = some id ∧ id < found.transports.length := by
  obtain ⟨id, hid⟩ := isLive_iff.mp (isLive_of_inFlight inFlight)
  obtain ⟨transport, length⟩ := h.transport_found
  refine ⟨isLive_of_held (transport ▸ hid), id, hid, ?_⟩
  rw [length]
  exact sound.held id (transport ▸ hid)

/-- The work does what the fault does, and leaves what has to follow; but for the peer's closing
of the socket, which is a fault of its own kind. -/
theorem resume_eq (h : e.Meets w found err) :
    (∃ rest, (∀ v ∈ rest, v.isInner = true) ∧ found.conn.peerClosed = e.conn.peerClosed ∧
      e.resume w = ((found.fault err).1, (found.fault err).2 ++ rest)) ∨
    (found = e.noteClosed ∧ err = .closedByServer ∧ e.resume w = e.closed) := by
  cases h with
  | fault =>
    refine .inl ⟨[], by simp, rfl, ?_⟩
    rw [List.append_nil]
    rfl
  | closed => exact .inr ⟨rfl, rfl, rfl⟩
  | malformed h =>
    refine .inl ⟨[], by simp, rfl, ?_⟩
    rw [List.append_nil, resume, dispatch]
    dsimp only
    rw [h]
  | write h =>
    refine .inl ⟨[], by simp, by rw [h.conn_eq]; rfl, ?_⟩
    rw [List.append_nil, resume, perform, Endpoint.write, h.writeWith_eq]
  | writeCommands ne h =>
    refine .inl ⟨[.expectOne], by simp [Work.isInner], by rw [h.conn_eq]; rfl, ?_⟩
    rw [resume, perform, Endpoint.writeCommands, if_neg (by simp [ne])]
    dsimp only
    rw [h.writeWith_eq]
  | quit oldest live h =>
    have peer : e.conn.peerClosed = false := h.peer
    have notTerminal : e.conn.state.isTerminal = false := by
      cases hs : e.conn.state.isTerminal with
      | false => rfl
      | true =>
        rw [not_live_of_terminal hs] at live
        exact absurd live (by simp)
    refine .inl ⟨[.runTasks], by simp [Work.isInner], by rw [h.conn_eq]; rfl, ?_⟩
    rw [resume, runTasks, oldest]
    dsimp only
    rw [runClose, if_neg (by exact Bool.eq_false_iff.mp notTerminal)]
    dsimp only
    rw [if_neg (by simp [peer]; exact live)]
    show (((beginQuit _).writeWith "QUIT" none .quit).1.1,
      ((beginQuit _).writeWith "QUIT" none .quit).1.2 ++ _) = _
    rw [h.writeWith_eq]

/-- **The connection is broken before the handler is called.** -/
theorem delivers (sound : e.Sound) (h : e.Meets w found err)
    (inFlight : found.conn.state.isInFlight = true) : found.Delivers err (e.resume w) := by
  obtain ⟨live, id, held, lt⟩ := h.held sound inFlight
  rcases h.resume_eq with ⟨rest, inner, peer, resumed⟩ | ⟨rfl, rfl, resumed⟩
  · rw [resumed, fault_of_inFlight (peer.trans (sound.peer live)) inFlight]
    exact delivers_of_inFlight inFlight held lt rfl err inner
  · rw [resumed, closed_eq, if_pos inFlight]
    have delivers : Delivers _ _ (_, _ ++ []) :=
      delivers_of_inFlight inFlight held lt (r := .closedByServer) rfl .closedByServer (by simp)
    rwa [List.append_nil] at delivers

/-- A fault that finds no command in flight is not delivered, and calls nobody. -/
theorem passes (h : e.Meets w found err) (notInFlight : found.conn.state.isInFlight = false) :
    (e.resume w).1.deliveries = e.deliveries ∧ ∀ v ∈ (e.resume w).2, v.isInner = true := by
  rcases h.resume_eq with ⟨rest, inner, peer, resumed⟩ | ⟨rfl, rfl, resumed⟩
  · rw [resumed, fault_of_not_inFlight notInFlight, List.nil_append]
    exact ⟨(deliveries_remark_of_not rfl).trans h.deliveries_found, inner⟩
  · have same := (deliveries_closed e).resolve_right (by simp [notInFlight])
    rw [resumed]
    refine ⟨same, ?_⟩
    rw [closed_eq, if_neg (by simp [notInFlight])]
    split <;> simp

end Meets

theorem Delivers.deliveries_eq {r : Reaction H} (h : found.Delivers err r) :
    r.1.deliveries = found.deliveries + 1 := by
  obtain ⟨id, new, held, trace, closed, ended, counted⟩ := h.events
  rw [deliveries, trace, List.countP_append, counted]
  rfl

end Endpoint

/-! ### Runs -/

namespace Machine

variable {m n : Machine H} {label : Label H} {labels labels' : List (Label H)}

/-- A move delivers a fault only if its work meets one with a command in flight. -/
theorem deliveries_move {admitted : Operation H → Prop} (move : Move admitted m label n) :
    n.endpoint.deliveries = m.endpoint.deliveries ∨
      ∃ w frames found err, Due m label w frames ∧ n = after m.endpoint w frames ∧
        m.endpoint.Meets w found err ∧ found.conn.state.isInFlight = true := by
  cases move.turn with
  | @work _ _ w frames due =>
    refine (m.endpoint.deliveries_resume w).imp_right ?_
    rintro ⟨found, err, meets, inFlight⟩
    exact ⟨w, frames, found, err, due, rfl, meets, inFlight⟩
  | call => exact .inl rfl
  | leave => exact .inl rfl
  | outside outside => exact .inl (Endpoint.deliveries_of_trace outside.trace_eq)

/-- What is known of the faults of a connection that is opened at most once. -/
structure Once (labels : List (Label H)) (m : Machine H) : Prop where
  /-- At most one fault was delivered. -/
  le_one : m.endpoint.deliveries ≤ 1
  /-- A connection with a delivered fault can no longer be used. -/
  terminal : m.endpoint.deliveries = 1 → m.endpoint.conn.state.isTerminal = true
  /-- Nothing was delivered before the connection was opened. -/
  unopened : labels.countP Label.isDial = 0 → m.endpoint.deliveries = 0

/-- A fault that finds a command in flight is the first that is delivered. -/
theorem Once.first (h : Once labels m) {w : Work H} {found : Endpoint H} {err : Error}
    (sound : m.endpoint.Sound) (meets : m.endpoint.Meets w found err)
    (inFlight : found.conn.state.isInFlight = true) : m.endpoint.deliveries = 0 := by
  have live := (meets.held sound inFlight).1
  rcases Nat.le_one_iff_eq_zero_or_eq_one.mp h.le_one with none | one
  · exact none
  · rw [Endpoint.not_live_of_terminal (h.terminal one)] at live
    exact absurd live (by simp)

theorem once_move (h : Once labels m) (tidy : m.Tidy) (sound : m.endpoint.Sound)
    (closed : labels.countP Label.isDial = 0 → m.endpoint.conn.state = .closed)
    (atMost : (labels ++ [label]).countP Label.isDial ≤ 1) {admitted : Operation H → Prop}
    (move : Move admitted m label n) : Once (labels ++ [label]) n := by
  rw [List.countP_append, List.countP_singleton] at atMost
  rcases deliveries_move move with same | ⟨w, frames, found, err, due, rfl, meets, inFlight⟩
  · have unopened : (labels ++ [label]).countP Label.isDial = 0 → n.endpoint.deliveries = 0 := by
      intro h0
      rw [List.countP_append, Nat.add_eq_zero_iff] at h0
      rw [same, h.unopened h0.1]
    cases dial : label.isDial with
    | true =>
      -- the connection was never opened before, so there is nothing to forget
      have none : m.endpoint.deliveries = 0 := by
        rw [dial, if_pos rfl] at atMost
        exact h.unopened (by omega)
      exact ⟨by omega, by omega, unopened⟩
    | false =>
      refine ⟨by rw [same]; exact h.le_one, fun one => ?_, unopened⟩
      rw [same] at one
      rw [(effects_move tidy move dial).state_of_terminal (h.terminal one)]
      exact h.terminal one
  · have delivers := meets.delivers sound inFlight
    have one : (after m.endpoint w frames).endpoint.deliveries = 1 := by
      show (m.endpoint.resume w).1.deliveries = 1
      rw [delivers.deliveries_eq, meets.deliveries_found, h.first sound meets inFlight]
    refine ⟨by omega, fun _ => ?_, fun h0 => ?_⟩
    · show (m.endpoint.resume w).1.conn.state.isTerminal = true
      rw [delivers.state]
      rfl
    · -- a connection that was never opened holds no socket
      rw [List.countP_append, Nat.add_eq_zero_iff] at h0
      have live := (meets.held sound inFlight).1
      rw [Connection.isLive, closed h0.1] at live
      exact absurd live (by simp [ConnectionState.isLive])

theorem once_of_run {admitted : Operation H → Prop} (run : Run admitted initial labels m)
    (atMost : labels.countP Label.isDial ≤ 1) : Once labels m := by
  generalize hs : (initial : Machine H) = start at run
  induction run with
  | nil =>
    subst hs
    exact ⟨Nat.zero_le 1, fun h => absurd h Nat.zero_ne_one, fun _ => rfl⟩
  | @snoc k _ ls _ run move ih =>
    subst hs
    have fewer : ls.countP Label.isDial ≤ 1 := by
      rw [List.countP_append] at atMost
      omega
    refine once_move (ih fewer) (tidy_of_run run) (sound_of_run run) (fun h0 => ?_) atMost move
    refine closed_of_run run fun l hl => ?_
    rw [List.countP_eq_zero] at h0
    exact Bool.eq_false_iff.mpr (h0 l hl)

/-- A connection that can no longer be used, and is not opened anew, hands out no replies. -/
theorem not_isReplyCall_of_terminal {admitted : Operation H → Prop} (tidy : m.Tidy)
    (terminal : m.endpoint.conn.state.isTerminal = true) (run : Run admitted m labels n)
    (h : ∀ l ∈ labels, l.isDial = false) : ∀ l ∈ labels, l.isReplyCall = false := by
  induction run with
  | nil => simp
  | @snoc k _ ls label run move ih =>
    have before : ∀ l ∈ ls, l.isDial = false := fun l hl => h l (List.mem_append_left _ hl)
    intro l hl
    rcases List.mem_append.mp hl with hl | hl
    · exact ih before l hl
    · rw [List.mem_singleton.mp hl]
      obtain ⟨effects, tidyk⟩ := effects_run tidy run before
      have ended : k.endpoint.conn.state.isTerminal = true := by
        rw [effects.state_of_terminal terminal]
        exact terminal
      cases move.turn with
      | work due => cases due <;> rfl
      | @call e handler notice frames =>
        -- calls with replies are left by live connections only
        cases reply : notice.isReplies with
        | false => exact reply
        | true =>
          have live := tidyk.replies_live (.call handler notice) List.mem_cons_self reply
          rw [Endpoint.not_live_of_terminal ended] at live
          exact absurd live (by simp)
      | leave => rfl
      | outside => rfl

/-- **A fault is delivered at most once** in a run that opens the connection at most once.  A
fault that finds a command in flight is delivered, and the connection is broken before the
handler is called; one that does not is not delivered; nothing else is.  After the delivery no
reply is handed out. -/
theorem fault_delivered_once (run : Run Operation.Any initial labels m)
    (atMost : labels.countP Label.isDial ≤ 1) :
    m.endpoint.deliveries ≤ 1 ∧
    (∀ label w frames found err, Due m label w frames → m.endpoint.Meets w found err →
      (found.conn.state.isInFlight = true → m.endpoint.deliveries = 0 ∧
        found.Delivers err (m.endpoint.resume w)) ∧
      (found.conn.state.isInFlight = false →
        (m.endpoint.resume w).1.deliveries = m.endpoint.deliveries ∧
        ∀ v ∈ (m.endpoint.resume w).2, v.isCall = false)) ∧
    (∀ label n, Move Operation.Any m label n →
      n.endpoint.deliveries = m.endpoint.deliveries ∨
      ∃ w frames found err, Due m label w frames ∧ n = after m.endpoint w frames ∧
        m.endpoint.Meets w found err ∧ found.conn.state.isInFlight = true) ∧
    (m.endpoint.deliveries = 1 → ∀ labels' n, Run Operation.Any m labels' n →
      (labels ++ labels').countP Label.isDial ≤ 1 → ∀ l ∈ labels', l.isReplyCall = false) := by
  have once := once_of_run run atMost
  have sound := sound_of_run run
  refine ⟨once.le_one, ?_, fun label n move => deliveries_move move, ?_⟩
  · intro label w frames found err due meets
    refine ⟨fun inFlight => ⟨once.first sound meets inFlight, meets.delivers sound inFlight⟩,
      fun notInFlight => ?_⟩
    obtain ⟨same, inner⟩ := meets.passes notInFlight
    refine ⟨same, fun v hv => ?_⟩
    have := inner v hv
    cases v <;> simp_all [Work.isInner, Work.isCall]
  · intro one labels' n run' atMost'
    -- the one opening came before the fault
    have opened : labels.countP Label.isDial ≠ 0 := fun h0 => by
      rw [once.unopened h0] at one
      exact absurd one (by simp)
    rw [List.countP_append] at atMost'
    have noDial : labels'.countP Label.isDial = 0 := by omega
    rw [List.countP_eq_zero] at noDial
    exact not_isReplyCall_of_terminal (tidy_of_run run) (once.terminal one) run'
      fun l hl => Bool.eq_false_iff.mpr (noDial l hl)

/-- The greeting has come, its handler is running, and the socket fails; then the handler for
errors is called and tries to write. -/
def faultInGreeting : List (Choice Nat) :=
  [.operate (.dial (Config.build "mail" []) 0 1), .operate (.connected (.manual {})),
    .operate (.input [50, 50, 48, 32, 104, 105, 13, 10]), .proceed, .proceed,
    .operate (.fault .closedByServer), .proceed, .operate (.write "NOOP" none 2)]

/-- The reply to the command that was written last is never heard of. -/
theorem fault_in_greeting_delivered :
    (initial.play faultInGreeting).2.endpoint.deliveries = 1 ∧
    ∀ labels' n, Run Operation.Any (initial.play faultInGreeting).2 labels' n →
      ((initial.play faultInGreeting).1 ++ labels').countP Label.isDial ≤ 1 →
      ∀ l ∈ labels', l.isReplyCall = false := by
  have run := run_play initial faultInGreeting
  have atMost : (initial.play faultInGreeting).1.countP Label.isDial ≤ 1 := by decide
  have one : (initial.play faultInGreeting).2.endpoint.deliveries = 1 := by decide
  exact ⟨one, (fault_delivered_once run atMost).2.2.2 one⟩

end Machine

end SmtpLink
