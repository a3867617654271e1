import SmtpLink.Proofs.Run

/-!
# What operations are made of

Every operation of a connection, and every piece of work, is a sequence of *effects* out of a
short list.  Each effect comes with the circumstances under which it is met, and is as large as
it must be for what holds of a connection to hold again after it: a peer's closing of the socket
and the release of the socket that follows it are one effect.  What all effects keep, all
operations keep, whatever the order in which they are asked for.

## Main definitions

* `Event.isPlain` — the event tells nothing of the socket, of faults or of the end of an
  operation.
* `Endpoint.Quitting` — somebody of the graceful close waits.
* `Endpoint.Effect`, `Endpoint.Effects` — one effect, and effects one after the other.
* `Endpoint.Leaves` — the shapes of the work that may be left.

## Main results

* `Endpoint.effects_perform`, `Endpoint.effects_resume` — **operations and work are made of
  effects**; only the beginning to open a connection is not.
* `Endpoint.leaves_perform`, `Endpoint.leaves_resume` — **at most one call is left, and it comes
  first**; replies are handed out only by connections that are live still.
* `Machine.tidy_of_run` — so calls stand before all other work in every run.
-/

namespace SmtpLink

variable {H : Type}

namespace Event

/-- A fault or the peer's closing is handed to the handler for errors. -/
def isDelivery : Event → Bool
  | .remark .fault | .remark .closedByServer => true
  | _ => false

/-- The event tells nothing of the socket, of faults or of the end of an operation. -/
def isPlain : Event → Bool
  | .remark r => !(Event.remark r).isDelivery
  | .connectFailed | .lineResult _ | .offContext => true
  | _ => false

end Event

namespace Phase

theorem state_relabel_of_live {phase : Phase H} (h : phase.state.isLive = true) (usage : Usage) :
    (phase.relabel usage).state = .live usage := by
  cases phase with
  | live old id slot => rfl
  | _ => exact absurd h (by simp [state, ConnectionState.isLive])

end Phase

namespace Endpoint

/-- Somebody of the graceful close waits: for an error, for the reply to QUIT, or for the
deadline. -/
def Quitting (e : Endpoint H) : Prop :=
  e.conn.errorHandler = some .quit ∨ e.conn.phase.slot? = some .quit ∨ e.conn.timer.isSome

/-- The listener hears that the socket has closed, and the connection takes note of it. -/
def noteClosed (e : Endpoint H) : Endpoint H :=
  let e := e.remark .socketClosed
  let e := e.emit (.connectionClosed e.conn.view)
  { e with conn := { e.conn with peerClosed := true } }

/-- The graceful close takes over: the socket is in use again, errors end the close, and the
wait for the reply is bounded. -/
def beginQuit (e : Endpoint H) : Endpoint H :=
  let e := (e.setPhase (e.conn.phase.relabel .shuttingDown)).overrideErrorHandler .quit
  { e with conn := { e.conn with timer := some (e.clock.after e.conn.quitTimeout) } }

/-- The graceful close of a socket is in progress from its beginning. -/
theorem state_beginQuit {e : Endpoint H} (live : e.conn.isLive = true) :
    e.beginQuit.conn.state = .shuttingDown :=
  Phase.state_relabel_of_live live _

/-- The operation ends with the connection usable. -/
def giveBack (e : Endpoint H) : Endpoint H :=
  let e := (e.setSlot none).operationEnded
  { e with conn := { e.conn with errorHandler := none } }

/-- One effect on an endpoint.  An effect is loud if it delivers a fault, or touches the slot or
the input of a connection that goes on; effects that do neither may stand among loud ones. -/
inductive Effect : Bool → Endpoint H → Endpoint H → Prop
  /-- Something is remarked or reported. -/
  | event {loud : Bool} {e : Endpoint H} {event : Event} (plain : event.isPlain = true) :
      Effect loud e (e.emit event)
  /-- Something changes around the connection. -/
  | outside {loud : Bool} {e e' : Endpoint H} (outside : e.Outside e') : Effect loud e e'
  /-- Input comes, is read or is dropped; the size of a batch stays. -/
  | read {e : Endpoint H} {assembler : Assembler}
      (same : assembler.expected = e.conn.assembler.expected) :
      Effect true e { e with conn := { e.conn with assembler } }
  /-- The size of a batch changes. -/
  | expect {e : Endpoint H} (n : Nat) : Effect true e (e.expect n)
  /-- A handler waits for replies.  The graceful close does not wait before it has begun. -/
  | fillSlot {e : Endpoint H} {id : TransportId} (handler : ReplyHandler H)
      (held : e.conn.phase.transport? = some id) (peer : e.conn.peerClosed = false)
      (begun : handler = .quit → e.conn.state = .shuttingDown) :
      Effect true e (e.setSlot (some handler))
  /-- The handler that waited is taken out. -/
  | emptySlot {e : Endpoint H} : Effect true e (e.setSlot none)
  /-- The transport that is held is asked to take bytes. -/
  | send {loud : Bool} {e : Endpoint H} {id : TransportId} (data : Bytes)
      (held : e.conn.phase.transport? = some id) (peer : e.conn.peerClosed = false) :
      Effect loud e (e.sendBytes id data).1
  /-- The transport that is held is asked whether its queue is full. -/
  | askFull {loud : Bool} {e : Endpoint H} {id : TransportId}
      (held : e.conn.phase.transport? = some id) : Effect loud e (e.askFull id).2
  /-- The transport that is held is asked to become secure. -/
  | askUpgrade {loud : Bool} {e : Endpoint H} {id : TransportId}
      (held : e.conn.phase.transport? = some id) : Effect loud e (e.askUpgrade id).1
  /-- A handler waits for the socket to become secure. -/
  | awaitUpgrade {loud : Bool} {e : Endpoint H} {id : TransportId} (handler : H)
      (held : e.conn.phase.transport? = some id) :
      Effect loud e { e with conn := { e.conn with upgradeHandler := some handler } }
  /-- Nobody waits for the socket to become secure any more. -/
  | endUpgrade {loud : Bool} {e : Endpoint H} :
      Effect loud e { e with conn := { e.conn with upgradeHandler := none } }
  /-- A line is held back. -/
  | hold {loud : Bool} {e : Endpoint H} {id : TransportId} (line : Deferred H)
      (held : e.conn.phase.transport? = some id) :
      Effect loud e { e with conn := { e.conn with deferred := e.conn.deferred ++ [line] } }
  /-- No line is held back any more. -/
  | letGo {loud : Bool} {e : Endpoint H} :
      Effect loud e { e with conn := { e.conn with deferred := [] } }
  /-- The server's capabilities are learned. -/
  | learn {loud : Bool} {e : Endpoint H} (capabilities : Capabilities) :
      Effect loud e { e with conn := { e.conn with capabilities } }
  /-- The connection is parked in the pool. -/
  | park {loud : Bool} {e : Endpoint H} : Effect loud e (e.changeUsage .active .idle)
  /-- The connection is taken out of the pool. -/
  | use {loud : Bool} {e : Endpoint H} : Effect loud e (e.changeUsage .idle .active)
  /-- A task is put at the end of those that are deferred. -/
  | schedule {loud : Bool} {e : Endpoint H} (task : Task H) : Effect loud e (e.schedule task)
  /-- The oldest deferred task has its turn. -/
  | unschedule {loud : Bool} {e : Endpoint H} {task : Task H} {rest : List (Task H)}
      (oldest : e.conn.scheduled = task :: rest) :
      Effect loud e { e with conn := { e.conn with scheduled := rest } }
  /-- A graceful close is due when the connection is next given back. -/
  | requestShutdown {loud : Bool} {e : Endpoint H} :
      Effect loud e { e with conn := { e.conn with shutdownRequested := true } }
  /-- The application overrides the handler for errors. -/
  | override {loud : Bool} {e : Endpoint H} (handler : H) :
      Effect loud e (e.overrideErrorHandler (.app handler))
  /-- The remembered handler for errors comes back. -/
  | reset {loud : Bool} {e : Endpoint H} : Effect loud e e.resetErrorHandler
  /-- A socket is connected. -/
  | connected {e : Endpoint H} (t : Transport) : Effect true e (e.connected t)
  /-- Connecting failed. -/
  | refused {loud : Bool} {e : Endpoint H} (waiting : e.conn.state = .connecting) :
      Effect loud e (e.setPhase .broken)
  /-- The connection is made unusable without a fault. -/
  | setBroken {loud : Bool} {e : Endpoint H} : Effect loud e e.setBroken
  /-- A fault breaks the connection. -/
  | fault {e : Endpoint H} (peer : e.conn.peerClosed = false)
      (inFlight : e.conn.state.isInFlight = true) : Effect true e (e.setBroken.remark .fault)
  /-- The peer closes the socket while a command may be in flight. -/
  | hangUp {e : Endpoint H} (inFlight : e.conn.state.isInFlight = true) :
      Effect true e (e.noteClosed.setBroken.remark .closedByServer)
  /-- The peer closes the socket of an idle connection. -/
  | retire {loud : Bool} {e : Endpoint H} (idle : e.conn.isIdle = true) :
      Effect loud e (e.noteClosed.remark .closedWhileIdle).setBroken
  /-- The socket closes after the connection has let go of it. -/
  | closeExpected {loud : Bool} {e : Endpoint H} (gone : e.conn.isLive = false) :
      Effect loud e e.noteClosed
  /-- The operation ends with the connection usable. -/
  | giveBack {e : Endpoint H} (notIdle : e.conn.isIdle = false)
      (notRequested : e.conn.shutdownRequested = false) : Effect true e e.giveBack
  /-- The graceful close begins. -/
  | beginQuit {loud : Bool} {e : Endpoint H} (peer : e.conn.peerClosed = false)
      (live : e.conn.isLive = true) : Effect loud e e.beginQuit
  /-- The graceful close ends. -/
  | finishQuit {loud : Bool} {e : Endpoint H} (waits : e.Quitting) : Effect loud e e.finishQuit
  /-- The graceful close has nothing to close. -/
  | shutdown {loud : Bool} {e : Endpoint H}
      (gone : e.conn.peerClosed = true ∨ e.conn.isLive = false)
      (notYet : e.conn.state.isTerminal = false) : Effect loud e e.shutdown
/-- Effects one after the other. -/
abbrev Effects (loud : Bool) : Endpoint H → Endpoint H → Prop :=
  Relation.ReflTransGen (Effect loud)

section

variable {loud : Bool} {e e' e'' : Endpoint H}

theorem Effect.single (h : Effect loud e e') : Effects loud e e' := Relation.ReflTransGen.single h

theorem Effects.refl (e : Endpoint H) : Effects loud e e := Relation.ReflTransGen.refl

theorem Effects.then (h : Effects loud e e') (h' : Effect loud e' e'') : Effects loud e e'' :=
  h.tail h'

theorem Effects.append (h : Effects loud e e') (h' : Effects loud e' e'') : Effects loud e e'' :=
  Relation.ReflTransGen.trans h h'

/-- What every effect keeps, effects one after the other keep. -/
theorem Effects.invariant {P : Endpoint H → Prop} (h : Effects loud e e')
    (keep : ∀ {a b : Endpoint H}, P a → Effect loud a b → P b) (he : P e) : P e' := by
  induction h with
  | refl => exact he
  | tail _ effect ih => exact keep ih effect

end

variable {loud : Bool}

theorem effects_remark {e : Endpoint H} {r : Remark}
    (h : (Event.remark r).isPlain = true) : Effects loud e (e.remark r) :=
  (Effect.event h).single

/-- The slot makes no difference to the end of the graceful close. -/
theorem finishQuit_setSlot (e : Endpoint H) (slot : Option (ReplyHandler H)) :
    (e.setSlot slot).finishQuit = e.finishQuit := by
  obtain ⟨⟨_, _, phase, _, _, _, _, _, _, _, _, _, _, _⟩, transports, _, _, _⟩ := e
  cases phase with
  | live usage id old =>
    cases h : transports[id]? <;>
      simp [finishQuit, shutdown, release, closeTransport, releaseTransport, setSlot, setPhase,
        setTransport, emit, remark, Phase.setSlot, Phase.transport?, Connection.state,
        Phase.state, h]
  | _ => rfl

/-! ### Faults and errors -/

theorem effects_deliverError (e : Endpoint H) (err : Error) :
    Effects loud e (e.deliverError err).1 := by
  unfold deliverError
  split
  · exact .refl e
  · next h => exact (effects_remark rfl).then (.finishQuit (.inl h))
  · exact effects_remark rfl

theorem effects_fault (e : Endpoint H) (err : Error) : Effects true e (e.fault err).1 := by
  unfold fault
  split
  · exact effects_remark rfl
  · next h =>
    simp only [Bool.or_eq_true, Bool.not_eq_true', not_or, Bool.not_eq_true,
      Bool.not_eq_false] at h
    exact (Effect.fault h.1 h.2).single.append (effects_deliverError _ err)

theorem closed_eq (e : Endpoint H) : e.closed =
    if e.noteClosed.conn.state.isInFlight then
      (e.noteClosed.setBroken.remark .closedByServer).deliverError .closedByServer
    else if e.noteClosed.conn.isIdle then ((e.noteClosed.remark .closedWhileIdle).setBroken, [])
    else (e.noteClosed.remark .closeExpected, []) := rfl

theorem effects_closed (e : Endpoint H) : Effects true e e.closed.1 := by
  have state : e.noteClosed.conn.state = e.conn.state := rfl
  have idle : e.noteClosed.conn.isIdle = e.conn.isIdle := rfl
  rw [closed_eq, state, idle]
  split
  · next h => exact (Effect.hangUp h).single.append (effects_deliverError _ _)
  · split
    · next h => exact (Effect.retire h).single
    · next hflight hidle =>
      refine (Effect.closeExpected ?_).single.append (effects_remark rfl)
      rw [Connection.isLive]
      rw [Connection.isIdle] at hidle
      cases hs : e.conn.state with
      | live usage => cases usage <;> simp_all [ConnectionState.isInFlight]
      | _ => rfl

/-! ### Opening and input -/

theorem effects_connectFailed (e : Endpoint H) (err : Error) :
    Effects loud e (e.connectFailed err).1 := by
  unfold connectFailed
  refine Effects.append ?_ (effects_deliverError _ err)
  refine Effects.then ?_ (.event rfl)
  split
  · next h => exact (effects_remark rfl).then (.refused h)
  · exact effects_remark rfl

theorem effects_deliverReplies (e : Endpoint H) (batch : List Reply) :
    Effects true e (e.deliverReplies batch).1 := by
  unfold deliverReplies
  dsimp only
  split
  · exact effects_remark rfl
  · exact Effect.emptySlot.single.then (.expect 1)
  · split
    · exact Effect.emptySlot.single.append (effects_remark rfl)
    · exact Effect.emptySlot.single
  · split
    · exact Effect.emptySlot.single.append (effects_remark rfl)
    · exact Effect.emptySlot.single
  · next h =>
    split
    · exact Effect.emptySlot.single.append (effects_remark rfl)
    · dsimp only [done]
      split
      · rw [finishQuit_setSlot]
        exact (Effect.finishQuit (.inr (.inl h))).single
      · show Effects true e ((e.remark .quitRefused).setSlot none).finishQuit
        rw [finishQuit_setSlot]
        exact (effects_remark rfl).then (.finishQuit (.inr (.inl h)))

theorem effects_dispatch (e : Endpoint H) : Effects true e e.dispatch.1 := by
  have polled : Effects true e
      { e with conn := { e.conn with assembler := e.conn.assembler.poll.1 } } :=
    (Effect.read (Assembler.expected_poll _)).single
  unfold dispatch
  dsimp only
  split
  · exact polled
  · exact polled.append (effects_fault _ _)
  · exact polled.append (effects_deliverReplies _ _)

theorem effects_input (e : Endpoint H) (data : Bytes) : Effects true e (e.input data).1 := by
  unfold input
  split
  · exact (Effect.read (Assembler.expected_feed _ _)).single
  · exact effects_remark rfl

theorem effects_drained (e : Endpoint H) : Effects loud e e.drained.1 :=
  Effect.letGo.single.append (effects_remark rfl)

theorem effects_upgraded (e : Endpoint H) (result : Outcome) :
    Effects true e (e.upgraded result).1 := by
  have dropped : Effects true e (if result.isOk then e.dropInput else e) := by
    split
    · exact (Effect.read (Assembler.expected_reset _)).single
    · exact .refl e
  unfold upgraded
  dsimp only
  split
  · exact dropped.then .endUpgrade
  · exact dropped.append (effects_remark rfl)

theorem effects_timeout (e : Endpoint H) (now : Instant) : Effects loud e (e.timeout now) := by
  unfold timeout
  split
  · next deadline h =>
    split
    · show Effects loud e (e.remark .quitTimedOut).finishQuit
      exact (effects_remark rfl).then (.finishQuit (.inr (.inr (by simp [h]))))
    · exact .refl e
  · exact .refl e

/-! ### Writing -/

theorem conn_sendBytes (e : Endpoint H) (id : TransportId) (data : Bytes) :
    (e.sendBytes id data).1.conn = e.conn := by
  unfold sendBytes
  split
  · rfl
  · split <;> rfl

theorem conn_askFull (e : Endpoint H) (id : TransportId) : (e.askFull id).2.conn = e.conn := by
  unfold askFull
  split <;> rfl

theorem conn_askUpgrade (e : Endpoint H) (id : TransportId) :
    (e.askUpgrade id).1.conn = e.conn := by
  unfold askUpgrade
  split
  · rfl
  · split <;> rfl

theorem transport?_setSlot (phase : Phase H) (slot : Option (ReplyHandler H)) :
    (phase.setSlot slot).transport? = phase.transport? := by
  cases phase <;> rfl

theorem effects_writeWith (e : Endpoint H) (text : String) (mask : Option Nat)
    (handler : ReplyHandler H) (begun : handler = .quit → e.conn.state = .shuttingDown) :
    Effects true e (e.writeWith text mask handler).1.1 := by
  unfold writeWith
  split
  · exact (effects_remark rfl).append (effects_deliverError _ _)
  · next hpeer =>
    have peer : e.conn.peerClosed = false := by simpa using hpeer
    split
    · exact (effects_remark rfl).append (effects_deliverError _ _)
    · next id held =>
      -- the slot is filled before the transport is asked, whatever it answers
      have held' : (e.conn.phase.setSlot (some handler)).transport? = some id := by
        rw [transport?_setSlot, held]
      have sent := (((Effect.fillSlot handler held peer begun).single.append
        (effects_remark (r := .command (redact text mask)) rfl)).then
        (.send (lineBytes text) held' peer))
      dsimp only
      split
      · next e' h =>
        rw [h] at sent
        exact sent
      · next e' err h =>
        rw [h] at sent
        exact sent.append (effects_fault e' err)

theorem effects_writeCommands (e : Endpoint H) (commands : List String) (handler : H) :
    Effects true e (e.writeCommands commands handler).1 := by
  unfold writeCommands
  split
  · exact effects_deliverError _ _
  · have written := (Effect.expect commands.length).single.append
      (effects_writeWith (e.expect commands.length) ("\r\n".intercalate commands) none
        (.replies handler commands.length) (fun quit => absurd quit (by simp)))
    dsimp only
    split
    · next reaction h =>
      rw [h] at written
      exact written
    · next e' work h =>
      rw [h] at written
      exact written

theorem effects_writeLine (e : Endpoint H) (line : String) :
    Effects loud e (e.writeLine line).1 := by
  unfold writeLine
  split
  · exact .refl e
  · next hpeer =>
    split
    · exact .refl e
    · next id held =>
      exact (effects_remark rfl).then (.send (lineBytes line) held (by simpa using hpeer))

theorem effects_defer {e : Endpoint H} {id : TransportId} (line : String) (handler : H)
    (held : e.conn.phase.transport? = some id) : Effects loud e (e.defer line handler) :=
  (effects_remark rfl).then (.hold { line, handler } held)

theorem effects_writeLineWithRoom (e : Endpoint H) (line : String) (handler : H) :
    Effects loud e (e.writeLineWithRoom line handler).1 := by
  unfold writeLineWithRoom
  split
  · exact .refl e
  · next hpeer =>
    have peer : e.conn.peerClosed = false := by simpa using hpeer
    split
    · exact .refl e
    · next id held =>
      have asked : Effects loud e (e.askFull id).2 := (Effect.askFull held).single
      have conn := conn_askFull e id
      split
      · exact effects_defer line handler held
      · split
        · next e' h =>
          rw [h] at asked conn
          exact asked.append (effects_defer line handler (by rw [conn, held]))
        · next e' h =>
          rw [h] at asked conn
          exact (asked.append (effects_remark rfl)).then
            (.send (lineBytes line) (by rw [conn_remark, conn, held])
              (by rw [conn_remark, conn, peer]))

theorem effects_upgrade (e : Endpoint H) (handler : H) : Effects loud e (e.upgrade handler).1 := by
  unfold upgrade
  split
  · exact .refl e
  · next id held =>
    have asked : Effects loud e (e.askUpgrade id).1 := (Effect.askUpgrade held).single
    have conn := conn_askUpgrade e id
    split
    · next e' h =>
      rw [h] at asked conn
      exact asked.then (.awaitUpgrade handler (by rw [conn, held]))
    · next e' err h =>
      rw [h] at asked
      exact asked

/-! ### The pool and deferred tasks -/

theorem effects_close (e : Endpoint H) : Effects loud e e.close := by
  unfold close
  split
  · exact effects_remark rfl
  · exact (Effect.schedule .close).single

theorem effects_returnToPool (e : Endpoint H) : Effects true e e.returnToPool.1 := by
  unfold returnToPool
  split
  · exact (effects_remark rfl).append (effects_deliverError _ _)
  · next hidle =>
    split
    · exact (effects_remark rfl).append (effects_close _)
    · next hrequested =>
      exact (effects_remark rfl).then (.giveBack (by simpa using hidle) (by simpa using hrequested))

theorem effects_runClose (e : Endpoint H) : Effects true e e.runClose.1 := by
  unfold runClose
  split
  · exact effects_remark rfl
  · next hterminal =>
    have terminal : e.conn.state.isTerminal = false := by simpa using hterminal
    dsimp only
    split
    · next h =>
      refine ((effects_remark rfl).append (effects_remark rfl)).then (.shutdown ?_ terminal)
      simpa using h
    · next h =>
      simp only [Bool.or_eq_true, Bool.not_eq_true', not_or, Bool.not_eq_true,
        Bool.not_eq_false] at h
      have quitting : (e.remark .shuttingDown).beginQuit.conn.state = .shuttingDown :=
        state_beginQuit h.2
      exact ((effects_remark rfl).then (.beginQuit h.1 h.2)).append
        (effects_writeWith _ "QUIT" none .quit fun _ => quitting)

theorem effects_runTasks (e : Endpoint H) : Effects true e e.runTasks.1 := by
  unfold runTasks
  split
  · exact .refl e
  · next task rest h =>
    have taken : Effects true e { e with conn := { e.conn with scheduled := rest } } :=
      (Effect.unschedule h).single
    dsimp only
    split
    · exact taken
    · exact taken.append (effects_runClose _)

theorem effects_runScheduled (e : Endpoint H) : Effects loud e e.runScheduled.1 := by
  unfold runScheduled
  split
  · exact .refl e
  · exact (Effect.event rfl).single

/-! ### Operations and work -/

/-- Quiet operations are made of quiet effects. -/
theorem effects_perform_of_quiet (e : Endpoint H) {operation : Operation H}
    (h : operation.isQuiet = true) : Effects loud e (e.perform operation).1 := by
  cases operation with
  | connectFailed err => exact effects_connectFailed e err
  | drained => exact effects_drained e
  | timeout now => exact effects_timeout e now
  | writeLine line => exact (effects_writeLine e line).then (.event rfl)
  | writeLineWithRoom line handler => exact effects_writeLineWithRoom e line handler
  | upgrade handler => exact effects_upgrade e handler
  | learnCapabilities reply => exact (Effect.learn _).single.append (effects_remark rfl)
  | setIdle => exact Effect.park.single
  | useConnection => exact Effect.use.single
  | requestShutdown => exact (effects_remark rfl).then .requestShutdown
  | setBroken => exact Effect.setBroken.single
  | close => exact effects_close e
  | setErrorHandler handler => exact (Effect.override handler).single
  | resetErrorHandler => exact Effect.reset.single
  | runOnContext handler => exact (Effect.schedule (.app handler)).single
  | runScheduled => exact effects_runScheduled e
  | _ => exact absurd h (by simp [Operation.isQuiet])

/-- **Operations are made of effects**; only the beginning to open a connection is not. -/
theorem effects_perform (e : Endpoint H) (operation : Operation H)
    (h : (Work.perform operation).isDial = false) : Effects true e (e.perform operation).1 := by
  cases operation with
  | dial config greeting onError => exact absurd h (by simp [Work.isDial])
  | connected t => exact (Effect.connected t).single
  | input data => exact effects_input e data
  | fault err => exact effects_fault e err
  | closed => exact effects_closed e
  | upgraded result => exact effects_upgraded e result
  | write text mask handler =>
    exact effects_writeWith e text mask (.reply handler) fun quit => absurd quit (by simp)
  | writeCommands commands handler => exact effects_writeCommands e commands handler
  | returnToPool => exact effects_returnToPool e
  | _ => exact effects_perform_of_quiet e rfl

/-- **Work is made of effects**; only the beginning to open a connection is not. -/
theorem effects_resume (e : Endpoint H) (w : Work H) (h : w.isDial = false) :
    Effects true e (e.resume w).1 := by
  cases w with
  | call handler notice => exact .refl e
  | perform operation => exact effects_perform e operation h
  | dispatch => exact effects_dispatch e
  | sendDeferred deferred => exact effects_writeLine e deferred.line
  | expectOne => exact (Effect.expect 1).single
  | runTasks => exact effects_runTasks e

/-! ### The work that is left -/

/-- The handler for errors, if it is one of the application, called with an error. -/
def errorCalls (handler : Option (ErrorHandler H)) (err : Error) : List (Work H) :=
  match handler with
  | some (.app handler) => [.call handler (.error err)]
  | _ => []

theorem work_deliverError (e : Endpoint H) (err : Error) :
    (e.deliverError err).2 = errorCalls e.conn.errorHandler err := by
  unfold deliverError errorCalls
  split <;> simp_all [done]

/-- The shapes of the work that may be left: at most one call, and that first.  Whether the call
may hand out replies is told by `replies`. -/
inductive Leaves (replies : Bool) : List (Work H) → Prop
  /-- No call. -/
  | inner {work : List (Work H)} (h : ∀ w ∈ work, w.isInner = true) : Leaves replies work
  /-- A call, and work without one. -/
  | call {handler : H} {notice : Notice} {rest : List (Work H)}
      (h : ∀ w ∈ rest, w.isInner = true) (hn : notice.isReplies = true → replies = true) :
      Leaves replies (.call handler notice :: rest)

namespace Leaves

variable {replies : Bool} {work : List (Work H)}

theorem nil : Leaves replies ([] : List (Work H)) := .inner (by simp)

theorem single {handler : H} {notice : Notice} (h : notice.isReplies = false) :
    Leaves replies [.call handler notice] :=
  .call (by simp) (by simp [h])

theorem append (h : Leaves replies work) {rest : List (Work H)}
    (hrest : ∀ w ∈ rest, w.isInner = true) : Leaves replies (work ++ rest) := by
  cases h with
  | inner h => exact .inner fun w hw => (List.mem_append.mp hw).elim (h w) (hrest w)
  | call h hn => exact .call (fun w hw => (List.mem_append.mp hw).elim (h w) (hrest w)) hn

theorem mono (h : Leaves false work) : Leaves replies work := by
  cases h with
  | inner h => exact .inner h
  | call h hn => exact .call h fun hr => absurd (hn hr) (by simp)

theorem not_perform (h : Leaves replies work) {w : Work H} (hw : w ∈ work) :
    w.isPerform = false := by
  have inner : ∀ v : Work H, v.isInner = true → v.isPerform = false := by
    intro v hv
    cases v <;> simp_all [Work.isInner, Work.isPerform]
  cases h with
  | inner h => exact inner w (h w hw)
  | call h hn =>
    rcases List.mem_cons.mp hw with rfl | hw
    · rfl
    · exact inner w (h w hw)

theorem not_call_of_mem_tail (h : Leaves replies work) {w : Work H} (hw : w ∈ work.tail) :
    w.isCall = false := by
  have inner : ∀ v : Work H, v.isInner = true → v.isCall = false := by
    intro v hv
    cases v <;> simp_all [Work.isInner, Work.isCall]
  cases h with
  | inner h => exact inner w (h w (List.mem_of_mem_tail hw))
  | call h hn => exact inner w (h w hw)

theorem replies_of_isReplyCall (h : Leaves replies work) {w : Work H} (hw : w ∈ work)
    (hr : w.isReplyCall = true) : replies = true := by
  have inner : ∀ v : Work H, v.isInner = true → v.isReplyCall = false := by
    intro v hv
    cases v <;> simp_all [Work.isInner, Work.isReplyCall]
  cases h with
  | inner h => simp [inner w (h w hw)] at hr
  | call h hn =>
    rcases List.mem_cons.mp hw with rfl | hw
    · exact hn hr
    · simp [inner w (h w hw)] at hr

end Leaves

theorem leaves_deliverError (e : Endpoint H) (err : Error) :
    Leaves false (e.deliverError err).2 := by
  rw [work_deliverError]
  unfold errorCalls
  split
  · exact .single rfl
  · exact .nil

theorem leaves_fault (e : Endpoint H) (err : Error) : Leaves false (e.fault err).2 := by
  unfold fault
  split
  · exact .nil
  · exact leaves_deliverError _ err

theorem leaves_input (e : Endpoint H) (data : Bytes) : Leaves false (e.input data).2 := by
  unfold input
  split
  · exact .inner (by simp [Work.isInner])
  · exact .nil

theorem leaves_closed (e : Endpoint H) : Leaves false e.closed.2 := by
  unfold closed
  dsimp only
  split
  · exact leaves_deliverError _ _
  · split <;> exact .nil

theorem leaves_upgraded (e : Endpoint H) (result : Outcome) :
    Leaves false (e.upgraded result).2 := by
  unfold upgraded
  dsimp only
  split
  · exact .single rfl
  · exact .nil

theorem leaves_writeWith (e : Endpoint H) (text : String) (mask : Option Nat)
    (handler : ReplyHandler H) : Leaves false (e.writeWith text mask handler).1.2 := by
  unfold writeWith
  split
  · exact leaves_deliverError _ _
  · split
    · exact leaves_deliverError _ _
    · dsimp only
      split
      · exact .nil
      · exact leaves_fault _ _

theorem leaves_writeCommands (e : Endpoint H) (commands : List String) (handler : H) :
    Leaves false (e.writeCommands commands handler).2 := by
  have written := leaves_writeWith (e.expect commands.length) ("\r\n".intercalate commands) none
    (.replies handler commands.length)
  unfold writeCommands
  split
  · exact leaves_deliverError _ _
  · dsimp only
    split
    · next h =>
      rw [h] at written
      exact written
    · next h =>
      rw [h] at written
      exact written.append (by simp [Work.isInner])

theorem leaves_writeLineWithRoom (e : Endpoint H) (line : String) (handler : H) :
    Leaves false (e.writeLineWithRoom line handler).2 := by
  unfold writeLineWithRoom
  split
  · exact .single rfl
  · split
    · exact .single rfl
    · split
      · exact .nil
      · split
        · exact .nil
        · exact .single rfl

theorem leaves_upgrade (e : Endpoint H) (handler : H) : Leaves false (e.upgrade handler).2 := by
  unfold upgrade
  split
  · exact .single rfl
  · split
    · exact .nil
    · exact .single rfl

theorem leaves_returnToPool (e : Endpoint H) : Leaves false e.returnToPool.2 := by
  unfold returnToPool
  split
  · exact leaves_deliverError _ _
  · split <;> exact .nil

theorem leaves_runClose (e : Endpoint H) : Leaves false e.runClose.2 := by
  unfold runClose
  split
  · exact .nil
  · dsimp only
    split
    · exact .nil
    · exact leaves_writeWith _ _ _ _

theorem leaves_runTasks (e : Endpoint H) : Leaves false e.runTasks.2 := by
  unfold runTasks
  split
  · exact .nil
  · dsimp only
    split
    · exact .call (by simp [Work.isInner]) (by simp [Notice.isReplies])
    · exact (leaves_runClose _).append (by simp [Work.isInner])

theorem leaves_runScheduled (e : Endpoint H) : Leaves false e.runScheduled.2 := by
  unfold runScheduled
  split
  · exact .inner (by simp [Work.isInner])
  · exact .nil

/-- Operations leave at most one call, and hand out no replies themselves. -/
theorem leaves_perform (e : Endpoint H) (operation : Operation H) :
    Leaves false (e.perform operation).2 := by
  cases operation with
  | connectFailed err => exact leaves_deliverError _ err
  | input data => exact leaves_input e data
  | fault err => exact leaves_fault e err
  | closed => exact leaves_closed e
  | drained => exact .inner (by simp [perform, drained, Work.isInner])
  | upgraded result => exact leaves_upgraded e result
  | write text mask handler => exact leaves_writeWith e text mask (.reply handler)
  | writeCommands commands handler => exact leaves_writeCommands e commands handler
  | writeLineWithRoom line handler => exact leaves_writeLineWithRoom e line handler
  | upgrade handler => exact leaves_upgrade e handler
  | returnToPool => exact leaves_returnToPool e
  | runScheduled => exact leaves_runScheduled e
  | _ => exact .nil

theorem isLive_setSlot_of_slot? {e : Endpoint H} {handler : ReplyHandler H}
    (h : e.conn.phase.slot? = some handler) : (e.setSlot none).conn.isLive = true := by
  unfold Connection.isLive Connection.state setSlot setPhase
  cases hp : e.conn.phase <;>
    simp_all [Phase.slot?, Phase.setSlot, Phase.state, ConnectionState.isLive]

theorem leaves_deliverReplies (e : Endpoint H) (batch : List Reply) :
    Leaves (e.deliverReplies batch).1.conn.isLive (e.deliverReplies batch).2 := by
  unfold deliverReplies
  dsimp only
  split
  · exact .nil
  · next h => exact .call (by simp) fun _ => isLive_setSlot_of_slot? h
  · next h =>
    split
    · exact .nil
    · exact .call (by simp) fun _ => isLive_setSlot_of_slot? h
  · next h =>
    split
    · exact .nil
    · exact .call (by simp) fun _ => isLive_setSlot_of_slot? h
  · split <;> exact .nil

theorem leaves_dispatch (e : Endpoint H) : Leaves e.dispatch.1.conn.isLive e.dispatch.2 := by
  have handed := leaves_deliverReplies
    { e with conn := { e.conn with assembler := e.conn.assembler.poll.1 } }
  unfold dispatch
  dsimp only
  split
  · exact .nil
  · exact (leaves_fault _ _).mono
  · next batch _ => exact (handed batch).append (by simp [Work.isInner])

/-- **At most one call is left, and it comes first**; replies are handed out only by connections
that are live still. -/
theorem leaves_resume (e : Endpoint H) (w : Work H) :
    Leaves (e.resume w).1.conn.isLive (e.resume w).2 := by
  cases w with
  | call handler notice => exact .nil
  | perform operation => exact (leaves_perform e operation).mono
  | dispatch => exact leaves_dispatch e
  | sendDeferred deferred => exact .single rfl
  | expectOne => exact .nil
  | runTasks => exact (leaves_runTasks e).mono

end Endpoint

namespace Machine

variable {admitted : Operation H → Prop} {m n : Machine H} {label : Label H}
  {labels : List (Label H)}

/-- A call stands before all other work, replies are handed out by live connections, and no
operation is left as work. -/
structure Tidy (m : Machine H) : Prop where
  /-- No operation is left as work. -/
  no_perform : ∀ w, .work w ∈ m.frames → w.isPerform = false
  /-- A call stands before all other work. -/
  no_call : ∀ w, .work w ∈ m.frames.tail → w.isCall = false
  /-- Replies are handed out by live connections. -/
  replies_live : ∀ w, .work w ∈ m.frames → w.isReplyCall = true → m.endpoint.conn.isLive = true

theorem tidy_initial : (initial : Machine H).Tidy where
  no_perform w hw := by simp [initial] at hw
  no_call w hw := by simp [initial] at hw
  replies_live w hw := by simp [initial] at hw

/-- The frames below the work that a move does. -/
theorem Due.frames_of_mem {w v : Work H} {frames : List (Frame H)} (due : Due m label w frames)
    (hv : .work v ∈ frames) : .work v ∈ m.frames ∧ (m.Tidy → v.isCall = false) := by
  cases due with
  | work noCall => exact ⟨List.mem_cons_of_mem _ hv, fun h => h.no_call v hv⟩
  | operate =>
    refine ⟨hv, fun h => h.no_call v ?_⟩
    simpa using hv

theorem Due.not_dial {w : Work H} {frames : List (Frame H)} (due : Due m label w frames)
    (h : m.Tidy) (hl : label.isDial = false) : w.isDial = false := by
  cases due with
  | work noCall =>
    rw [Bool.eq_false_iff]
    intro hd
    have := h.no_perform w List.mem_cons_self
    rw [Work.isPerform_of_isDial hd] at this
    exact absurd this (by simp)
  | @operate e operation frames =>
    cases operation <;> simp_all [Label.isDial, Work.isDial]

theorem tidy_move (h : m.Tidy) (move : Move admitted m label n) : n.Tidy := by
  cases move.turn with
  | @work _ _ w frames due =>
    have leaves := m.endpoint.leaves_resume w
    constructor
    · intro v hv
      simp only [after, List.mem_append, List.mem_map, Frame.work.injEq, exists_eq_right] at hv
      exact hv.elim leaves.not_perform fun hv => h.no_perform v (due.frames_of_mem hv).1
    · intro v hv
      simp only [after] at hv
      -- what was second is first now if the work leaves nothing, and further down otherwise
      cases hw : (m.endpoint.resume w).2 with
      | nil =>
        rw [hw] at hv
        exact (due.frames_of_mem (List.mem_of_mem_tail hv)).2 h
      | cons first rest =>
        rw [hw] at hv leaves
        simp only [List.map_cons, List.cons_append, List.tail_cons, List.mem_append, List.mem_map,
          Frame.work.injEq, exists_eq_right] at hv
        exact hv.elim leaves.not_call_of_mem_tail fun hv => (due.frames_of_mem hv).2 h
    · intro v hv hr
      simp only [after, List.mem_append, List.mem_map, Frame.work.injEq, exists_eq_right] at hv
      -- a call with replies is new, since none was waiting below
      rcases hv with hv | hv
      · exact leaves.replies_of_isReplyCall hv hr
      · have := (due.frames_of_mem hv).2 h
        rw [Work.isCall_of_isReplyCall hr] at this
        exact absurd this (by simp)
  | call =>
    refine ⟨fun v hv => h.no_perform v ?_, fun v hv => h.no_call v hv,
      fun v hv => h.replies_live v ?_⟩
    · exact List.mem_cons_of_mem _ (by simpa using hv)
    · exact List.mem_cons_of_mem _ (by simpa using hv)
  | leave =>
    exact ⟨fun v hv => h.no_perform v (List.mem_cons_of_mem _ hv),
      fun v hv => h.no_call v (List.mem_of_mem_tail (by simpa using hv)),
      fun v hv => h.replies_live v (List.mem_cons_of_mem _ hv)⟩
  | outside outside =>
    refine ⟨h.no_perform, h.no_call, fun v hv hr => ?_⟩
    show Connection.isLive _ = true
    rw [outside.conn_eq]
    exact h.replies_live v hv hr

/-- **Calls stand before all other work in every run.** -/
theorem tidy_of_run (run : Run admitted initial labels m) : m.Tidy :=
  run.invariant tidy_move tidy_initial

end Machine

end SmtpLink
