import SmtpLink.Connection.Work

/-!
# Endpoints

An endpoint is a connection with what surrounds it: the transports that were handed over, the
clock, the task that runs now, and the trace of what happened. The functions here are the
single effects that the operations of a connection are made of.

## Main definitions

* `Endpoint`, `Reaction` — an endpoint, and an endpoint with the work that is left.
* `Endpoint.emit`, `remark`, `sendBytes`, `release` — the single effects.
-/

namespace SmtpLink

variable {H : Type}

/-- A connection with what surrounds it. -/
structure Endpoint (H : Type) where
  /-- The connection. -/
  conn : Connection H := {}
  /-- All transports that were handed over, in order. -/
  transports : List Transport := []
  /-- The time. -/
  clock : Instant := ⟨0⟩
  /-- The task that runs now, if any. -/
  task : Option TaskId := none
  /-- What happened, oldest first. -/
  trace : List Event := []

/-- An endpoint with the work that is left, first things first. -/
abbrev Reaction (H : Type) := Endpoint H × List (Work H)

namespace Endpoint

/-- Nothing is left to do. -/
def done (e : Endpoint H) : Reaction H := (e, [])

/-- Adds to the trace. -/
def emit (e : Endpoint H) (event : Event) : Endpoint H := { e with trace := e.trace ++ [event] }

/-- Writes a remark into the log. -/
def remark (e : Endpoint H) (r : Remark) : Endpoint H := e.emit (.remark r)

@[simp] theorem conn_emit (e : Endpoint H) (event : Event) : (e.emit event).conn = e.conn := rfl

@[simp] theorem transports_emit (e : Endpoint H) (event : Event) :
    (e.emit event).transports = e.transports := rfl

@[simp] theorem trace_emit (e : Endpoint H) (event : Event) :
    (e.emit event).trace = e.trace ++ [event] := rfl

@[simp] theorem conn_remark (e : Endpoint H) (r : Remark) : (e.remark r).conn = e.conn := rfl

@[simp] theorem transports_remark (e : Endpoint H) (r : Remark) :
    (e.remark r).transports = e.transports := rfl

@[simp] theorem trace_remark (e : Endpoint H) (r : Remark) :
    (e.remark r).trace = e.trace ++ [.remark r] := rfl

/-- Changes the phase of the connection. -/
def setPhase (e : Endpoint H) (phase : Phase H) : Endpoint H :=
  { e with conn := { e.conn with phase } }

/-- Sets the slot for a reply handler, if the connection holds a socket. -/
def setSlot (e : Endpoint H) (slot : Option (ReplyHandler H)) : Endpoint H :=
  e.setPhase (e.conn.phase.setSlot slot)

/-- Sets how many replies make a batch. -/
def expect (e : Endpoint H) (n : Nat) : Endpoint H :=
  { e with conn := { e.conn with assembler := e.conn.assembler.expect n } }

/-- Drops all input that was not answered. -/
def dropInput (e : Endpoint H) : Endpoint H :=
  { e with conn := { e.conn with assembler := e.conn.assembler.reset } }

/-- Replaces a transport. -/
def setTransport (e : Endpoint H) (id : TransportId) (t : Transport) : Endpoint H :=
  { e with transports := e.transports.set id t }

@[simp] theorem conn_setTransport (e : Endpoint H) (id : TransportId) (t : Transport) :
    (e.setTransport id t).conn = e.conn := rfl

/-- The connection runs on the task that it is bound to, or is not bound yet. -/
def isOnContext (e : Endpoint H) : Bool :=
  e.conn.context.isNone || e.task == e.conn.context

/-- The socket is secure. -/
def isSecure (e : Endpoint H) : Bool :=
  match e.conn.phase.transport?.bind (e.transports[·]?) with
  | some t => t.isSecure
  | none => false

/-! ### The transport -/

/-- A line as it goes over the wire. -/
def lineBytes (line : String) : Bytes := Utf8.encode line ++ [13, 10]

/-- Hands bytes to a transport. -/
def sendBytes (e : Endpoint H) (id : TransportId) (data : Bytes) : Endpoint H × Outcome :=
  match e.transports[id]? with
  | none => (e, .error .notConnected)
  | some t => match t.write data with
    | .ok t => ((e.setTransport id t).emit (.wrote id data), .ok ())
    | .error err => (e.emit (.writeRefused id), .error err)

/-- Asks whether the outbound queue of a transport is full. -/
def askFull (e : Endpoint H) (id : TransportId) : Bool × Endpoint H :=
  match e.transports[id]? with
  | none => (false, e)
  | some t => (t.full.1, e.setTransport id t.full.2)

/-- Asks a transport to become secure. -/
def askUpgrade (e : Endpoint H) (id : TransportId) : Endpoint H × Outcome :=
  match e.transports[id]? with
  | none => (e, .error .notConnected)
  | some t => match t.upgrade with
    | .ok t => ((e.setTransport id t).emit (.upgradeAsked id), .ok ())
    | .error err => (e.emit (.upgradeAsked id), .error err)

/-- Closes a transport. -/
def closeTransport (e : Endpoint H) (id : TransportId) : Endpoint H :=
  match e.transports[id]? with
  | none => e
  | some t => (e.setTransport id t.close).emit (.transportClosed id)

/-- Lets go of the transport that the connection holds, if it holds one. -/
def releaseTransport (e : Endpoint H) : Endpoint H :=
  match e.conn.phase.transport? with
  | none => e
  | some id => { e with transports := e.transports.modify id Transport.release }

/-! ### Ending -/

/-- Moves to a phase without a socket. A socket that was held is closed, and the lines held
back, the upgrade that was waited for and the timer are dropped. -/
def release (e : Endpoint H) (phase : Phase H) : Endpoint H :=
  let closed := match e.conn.phase.transport? with
    | some id => ((e.remark .closingSocket).closeTransport id).releaseTransport
    | none => e
  { closed with conn := { closed.conn with
      phase, deferred := [], upgradeHandler := none, timer := none } }

/-- A connection that has released its socket is in the phase it moved to. -/
@[simp] theorem phase_release (e : Endpoint H) (phase : Phase H) :
    (e.release phase).conn.phase = phase := rfl

@[simp] theorem deferred_release (e : Endpoint H) (phase : Phase H) :
    (e.release phase).conn.deferred = [] := rfl

@[simp] theorem upgradeHandler_release (e : Endpoint H) (phase : Phase H) :
    (e.release phase).conn.upgradeHandler = none := rfl

@[simp] theorem timer_release (e : Endpoint H) (phase : Phase H) :
    (e.release phase).conn.timer = none := rfl

/-- Tells the listener that the operation has ended. -/
def operationEnded (e : Endpoint H) : Endpoint H := e.emit (.operationEnded e.conn.view)

/-- Releases the socket after a close that we began. A broken connection stays broken. -/
def shutdown (e : Endpoint H) : Endpoint H :=
  e.release (if e.conn.state = .broken then .broken else .closed)

/-- Ends the wait for the reply to QUIT and releases the socket. -/
def finishQuit (e : Endpoint H) : Endpoint H :=
  shutdown { e with conn := { e.conn with timer := none } }

/-- Makes the connection unusable and releases the socket. Does nothing to a connection that
can no longer be used. -/
def setBroken (e : Endpoint H) : Endpoint H :=
  if e.conn.state.isTerminal then e.remark .alreadyBroken
  else ((e.remark .breaking).release .broken).operationEnded

end Endpoint

end SmtpLink
