import SmtpLink.Connection.Endpoint

/-!
# Operations of a connection

What the application, the pool and the socket task can ask of a connection, and what it does.
No operation calls a handler itself. It does its part up to the first call, and leaves the call
and whatever has to follow it as work; each piece of work does the same when its turn comes. So
a handler may use the connection freely, and no operation is ever entered in the middle.

## Main definitions

* `Endpoint.deliverError`, `fault`, `writeWith` — the parts that operations share.
* `Endpoint.perform` — what an operation does.
* `Endpoint.resume` — what a piece of work does, calls apart.
-/

namespace SmtpLink

variable {H : Type}

namespace Endpoint

/-! ### Errors -/

/-- Hands an error to the handler for errors. -/
def deliverError (e : Endpoint H) (err : Error) : Reaction H :=
  match e.conn.errorHandler with
  | some (.app handler) => (e, [.call handler (.error err)])
  | some .quit => (e.remark .quitFaultIgnored).finishQuit.done
  | none => (e.remark .errorUnheard).done

/-- A fault of the socket. It breaks the connection and is delivered if a command may be in
flight; otherwise it is only remarked. -/
def fault (e : Endpoint H) (err : Error) : Reaction H :=
  if e.conn.peerClosed || !e.conn.state.isInFlight then (e.remark .faultNotReturned).done
  else (e.setBroken.remark .fault).deliverError err

/-! ### Opening -/

/-- Begins to open the connection. A socket still held is let go of as it is. -/
def dial (e : Endpoint H) (config : Config) (greeting onError : H) : Endpoint H :=
  let e := e.releaseTransport
  remark { e with conn := { e.conn with
      address := config.address
      quitTimeout := config.quitTimeout
      errorHandler := some (.app onError)
      peerClosed := false
      phase := .connecting greeting } } .opening

/-- A socket is connected. The connection is bound to the task that runs now, and the greeting
handler waits for the first reply. A socket that nobody waits for is closed at once. -/
def connected (e : Endpoint H) (t : Transport) : Endpoint H :=
  let id := e.transports.length
  let e := { e with transports := e.transports ++ [t] }
  match e.conn.phase with
  | .connecting greeting =>
    remark { e with conn := { e.conn with
        context := e.task
        peerClosed := false
        assembler := e.conn.assembler.reset.expect 1
        phase := .live .active id (some (.greeting greeting)) } } .connected
  | _ =>
    let e := (e.remark .lateSocket).closeTransport id
    { e with transports := e.transports.modify id Transport.release }

/-- Connecting failed. -/
def connectFailed (e : Endpoint H) (err : Error) : Reaction H :=
  let e := e.remark .connectFailed
  let e := if e.conn.state = .connecting then e.setPhase .broken else e
  (e.emit .connectFailed).deliverError err

/-! ### Input -/

/-- Hands a batch of replies to the handler in the slot, which is emptied first. -/
def deliverReplies (e : Endpoint H) (batch : List Reply) : Reaction H :=
  let e' := e.setSlot none
  match e.conn.phase.slot? with
  | none => (e.remark .replyDropped).done
  | some (.replies handler _) => (e'.expect 1, [.call handler (.replies batch)])
  | some (.greeting handler) => match batch with
    | [] => (e'.remark .emptyBatch).done
    | reply :: _ => (e', [.call handler (.greeting reply)])
  | some (.reply handler) => match batch with
    | [] => (e'.remark .emptyBatch).done
    | reply :: _ => (e', [.call handler (.reply reply)])
  | some .quit => match batch with
    | [] => (e'.remark .emptyBatch).done
    | reply :: _ =>
      (if reply.isSuccess then e' else e'.remark .quitRefused).finishQuit.done

/-- Hands out the next batch of replies that has come, and leaves the batches after it as work.
Malformed input is a fault, and ends the handing out. -/
def dispatch (e : Endpoint H) : Reaction H :=
  let (assembler, polled) := e.conn.assembler.poll
  let e := { e with conn := { e.conn with assembler } }
  match polled with
  | none => e.done
  | some (.error err) => e.fault err
  | some (.ok batch) =>
    let (e, work) := e.deliverReplies batch
    (e, work ++ [.dispatch])

/-- Bytes came from the socket. -/
def input (e : Endpoint H) (data : Bytes) : Reaction H :=
  if e.conn.isLive then
    ({ e with conn := { e.conn with assembler := e.conn.assembler.feed data } }, [.dispatch])
  else (e.remark .inputDropped).done

/-- The socket has closed. The listener hears of it in any case. While a command may be in
flight it is an error; while idle it retires the connection. -/
def closed (e : Endpoint H) : Reaction H :=
  let e := e.remark .socketClosed
  let e := e.emit (.connectionClosed e.conn.view)
  let e := { e with conn := { e.conn with peerClosed := true } }
  if e.conn.state.isInFlight then
    (e.setBroken.remark .closedByServer).deliverError .closedByServer
  else if e.conn.isIdle then (e.remark .closedWhileIdle).setBroken.done
  else (e.remark .closeExpected).done

/-- The outbound queue has room again: all lines held back are written, in order. -/
def drained (e : Endpoint H) : Reaction H :=
  let waiting := e.conn.deferred
  (remark { e with conn := { e.conn with deferred := [] } } .drained,
    waiting.map .sendDeferred)

/-- The upgrade of the socket has ended. Nothing that was read before a successful one is
kept. -/
def upgraded (e : Endpoint H) (result : Outcome) : Reaction H :=
  let e := if result.isOk then e.dropInput else e
  match e.conn.upgradeHandler with
  | some handler =>
    ({ e with conn := { e.conn with upgradeHandler := none } },
      [.call handler (.upgrade result)])
  | none => (e.remark .upgradeUnawaited).done

/-- Time has passed. Ends the wait for the reply to QUIT if its deadline is not after `now`. -/
def timeout (e : Endpoint H) (now : Instant) : Endpoint H :=
  match e.conn.timer with
  | some deadline =>
    if deadline ≤ now then
      (remark { e with conn := { e.conn with timer := none } } .quitTimedOut).finishQuit
    else e
  | none => e

/-! ### Writing -/

/-- Writes a command and puts its handler into the slot. Tells also whether the transport took
the command. -/
def writeWith (e : Endpoint H) (text : String) (mask : Option Nat) (handler : ReplyHandler H) :
    Reaction H × Bool :=
  if e.conn.peerClosed then ((e.remark .peerGone).deliverError .closedByServer, false)
  else match e.conn.phase.transport? with
    | none => ((e.remark .socketGone).deliverError .notConnected, false)
    | some id =>
      let e := (e.setSlot (some handler)).remark (.command (redact text mask))
      match e.sendBytes id (lineBytes text) with
      | (e, .ok ()) => (e.done, true)
      | (e, .error err) => (e.fault err, false)

/-- Writes one command. -/
def write (e : Endpoint H) (text : String) (mask : Option Nat) (handler : H) : Reaction H :=
  (e.writeWith text mask (.reply handler)).1

/-- Writes a group of commands at once and expects one reply for each. -/
def writeCommands (e : Endpoint H) (commands : List String) (handler : H) : Reaction H :=
  if commands.isEmpty then e.deliverError (.invalidState .noCommands)
  else
    let e := e.expect commands.length
    match e.writeWith ("\r\n".intercalate commands) none (.replies handler commands.length) with
    | (reaction, true) => reaction
    | ((e, work), false) => (e, work ++ [.expectOne])

/-- Writes a line that no reply answers. -/
def writeLine (e : Endpoint H) (line : String) : Endpoint H × Outcome :=
  if e.conn.peerClosed then (e, .error .closedByServer)
  else match e.conn.phase.transport? with
    | none => (e, .error .notConnected)
    | some id => (e.remark (.content line)).sendBytes id (lineBytes line)

/-- Holds a line back until the queue has drained. -/
def defer (e : Endpoint H) (line : String) (handler : H) : Endpoint H :=
  let e := e.remark .queueFull
  { e with conn := { e.conn with deferred := e.conn.deferred ++ [{ line, handler }] } }

/-- Writes a line that no reply answers, unless lines are held back already or the queue is
full; then the line is held back. -/
def writeLineWithRoom (e : Endpoint H) (line : String) (handler : H) : Reaction H :=
  if e.conn.peerClosed then (e, [.call handler (.line (.error .closedByServer))])
  else match e.conn.phase.transport? with
    | none => (e, [.call handler (.line (.error .notConnected))])
    | some id =>
      if !e.conn.deferred.isEmpty then (e.defer line handler).done
      else match e.askFull id with
        | (true, e) => (e.defer line handler).done
        | (false, e) =>
          let (e, result) := (e.remark (.content line)).sendBytes id (lineBytes line)
          (e, [.call handler (.line result)])

/-- Writes a line that was held back, and tells its handler what became of it. -/
def sendDeferred (e : Endpoint H) (d : Deferred H) : Reaction H :=
  let (e, result) := e.writeLine d.line
  (e, [.call d.handler (.line result)])

/-- Asks for the socket to be made secure. -/
def upgrade (e : Endpoint H) (handler : H) : Reaction H :=
  match e.conn.phase.transport? with
  | none => (e, [.call handler (.upgrade (.error .notConnected))])
  | some id =>
    match e.askUpgrade id with
    | (e, .ok ()) => done { e with conn := { e.conn with upgradeHandler := some handler } }
    | (e, .error err) => (e, [.call handler (.upgrade (.error err))])

/-- Learns the server's capabilities from a reply. -/
def learnCapabilities (e : Endpoint H) (reply : Reply) : Endpoint H :=
  remark { e with conn := { e.conn with capabilities := .ofReply reply } } .capabilitiesLearned

/-! ### The pool -/

/-- Changes the use of the socket from `origin` to `usage`; ignored in any other state. -/
def changeUsage (e : Endpoint H) (origin usage : Usage) : Endpoint H :=
  if e.conn.state = .live origin then e.setPhase (e.conn.phase.relabel usage)
  else e.remark (.useUnchanged (.live origin))

/-- Puts a task at the end of those that are deferred. -/
def schedule (e : Endpoint H) (task : Task H) : Endpoint H :=
  { e with conn := { e.conn with scheduled := e.conn.scheduled ++ [task] } }

/-- Asks for a graceful close, which is a deferred task. -/
def close (e : Endpoint H) : Endpoint H :=
  if e.conn.state.isTerminal then e.remark .alreadyShutDown else e.schedule .close

/-- Ends the current operation. A shutdown that was requested is now begun; otherwise the slot
is emptied, the listener is told, and the handler for errors is dropped. -/
def returnToPool (e : Endpoint H) : Reaction H :=
  if e.conn.isIdle then
    (e.remark .idleReturned).deliverError (.invalidState .idleReturned)
  else if e.conn.shutdownRequested then (e.remark .shutdownOnReturn).close.done
  else
    let e := ((e.remark .returned).setSlot none).operationEnded
    done { e with conn := { e.conn with errorHandler := none } }

/-- Asks for a graceful close when the connection is next given back. -/
def requestShutdown (e : Endpoint H) : Endpoint H :=
  let e := e.remark .shutdownRequested
  { e with conn := { e.conn with shutdownRequested := true } }

/-! ### Handlers for errors -/

/-- Overrides the handler for errors. The handler before the first override is remembered. -/
def overrideErrorHandler (e : Endpoint H) (handler : ErrorHandler H) : Endpoint H :=
  { e with conn := { e.conn with
      baseErrorHandler := e.conn.baseErrorHandler <|> e.conn.errorHandler
      errorHandler := some handler } }

/-- Goes back to the remembered handler for errors. -/
def resetErrorHandler (e : Endpoint H) : Endpoint H :=
  { e with conn := { e.conn with errorHandler := e.conn.baseErrorHandler } }

/-! ### Deferred tasks -/

/-- Sends QUIT and bounds the wait for its reply. From here on any error, the reply and the
deadline all end with the socket released. -/
def startQuit (e : Endpoint H) : Reaction H :=
  let e := e.overrideErrorHandler .quit
  let e := { e with conn := { e.conn with timer := some (e.clock.after e.conn.quitTimeout) } }
  (e.writeWith "QUIT" none .quit).1

/-- The graceful close, when its turn has come. -/
def runClose (e : Endpoint H) : Reaction H :=
  if e.conn.state.isTerminal then (e.remark .quitTooLate).done
  else
    let e := e.remark .shuttingDown
    if e.conn.peerClosed || !e.conn.isLive then (e.remark .quitUnneeded).shutdown.done
    else (e.setPhase (e.conn.phase.relabel .shuttingDown)).startQuit

/-- Starts the oldest deferred task and leaves the others as work. -/
def runTasks (e : Endpoint H) : Reaction H :=
  match e.conn.scheduled with
  | [] => e.done
  | task :: rest =>
    let e := { e with conn := { e.conn with scheduled := rest } }
    match task with
    | .app handler => (e, [.call handler .task, .runTasks])
    | .close =>
      let (e, work) := e.runClose
      (e, work ++ [.runTasks])

/-- Runs the deferred tasks, those deferred meanwhile included. Only the task that the
connection is bound to may do so. -/
def runScheduled (e : Endpoint H) : Reaction H :=
  if e.isOnContext then (e, [.runTasks]) else (e.emit .offContext).done

/-! ### Operations and work as values -/

/-- What an operation does, up to its first call to a handler. -/
def perform (e : Endpoint H) : Operation H → Reaction H
  | .dial config greeting onError => (e.dial config greeting onError).done
  | .connected transport => (e.connected transport).done
  | .connectFailed err => e.connectFailed err
  | .input data => e.input data
  | .fault err => e.fault err
  | .closed => e.closed
  | .drained => e.drained
  | .upgraded result => e.upgraded result
  | .timeout now => (e.timeout now).done
  | .write text mask handler => e.write text mask handler
  | .writeCommands commands handler => e.writeCommands commands handler
  | .writeLine line =>
    let (e, result) := e.writeLine line
    (e.emit (.lineResult result)).done
  | .writeLineWithRoom line handler => e.writeLineWithRoom line handler
  | .upgrade handler => e.upgrade handler
  | .learnCapabilities reply => (e.learnCapabilities reply).done
  | .setIdle => (e.changeUsage .active .idle).done
  | .useConnection => (e.changeUsage .idle .active).done
  | .returnToPool => e.returnToPool
  | .requestShutdown => e.requestShutdown.done
  | .setBroken => e.setBroken.done
  | .close => e.close.done
  | .setErrorHandler handler => (e.overrideErrorHandler (.app handler)).done
  | .resetErrorHandler => e.resetErrorHandler.done
  | .runOnContext handler => (e.schedule (.app handler)).done
  | .runScheduled => e.runScheduled

/-- What a piece of work does. A call is not done here: it belongs to the application. -/
def resume (e : Endpoint H) : Work H → Reaction H
  | .call _ _ => e.done
  | .perform operation => e.perform operation
  | .dispatch => e.dispatch
  | .sendDeferred deferred => e.sendDeferred deferred
  | .expectOne => (e.expect 1).done
  | .runTasks => e.runTasks

end Endpoint

end SmtpLink
