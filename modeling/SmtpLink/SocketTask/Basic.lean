import SmtpLink.Connection.Operation

/-!
# The socket task

One task owns a socket and the connection that uses it. It carries out the orders that stand on
the channel, and tells the connection what happened to the socket. All that it does comes in
*turns*: one report, the operations that answer it, and the deferred tasks.

Orders go before closures of the application, those before input, and that before the timer.

## Main definitions

* `SocketReport` — what a turn starts from.
* `SocketReport.isLast` — the reports after which the task ends.
* `SocketStream`, `SocketTask` — a task, and which stream it reads from and writes to.
* `SocketTask.start`, `SocketTask.answer`, `SocketTask.connectFailed` — what the task does when
  the socket is there, in a turn, and when no socket comes about.
* `SocketTask.after` — the task after a turn.
-/

namespace SmtpLink

variable {H : Type}

/-- What a turn of the socket task starts from. -/
inductive SocketReport
  /-- An order to send bytes was carried out, or failed. -/
  | wrote (data : Bytes) (result : Except IoFault Unit)
  /-- An order to make the socket secure was carried out, or failed. -/
  | upgraded (result : Outcome)
  /-- An order to close was carried out, or failed; or no further order can come. -/
  | shutDown (result : Except IoFault Unit)
  /-- A closure of the application runs. -/
  | closure
  /-- No closure can come any more. -/
  | handlesDropped
  /-- Bytes were read. -/
  | read (data : Bytes)
  /-- The peer's stream has ended. -/
  | readEnd
  /-- Reading failed. -/
  | readFailed (fault : IoFault)
  /-- The deadline has passed. -/
  | deadline (now : Instant)

namespace SocketReport

/-- The task ends with this turn: the socket is closed or useless. -/
def isLast : SocketReport → Bool
  | .upgraded (.error _) | .shutDown _ | .readEnd | .readFailed _ => true
  | _ => false

end SocketReport

/-- The stream that a socket task reads from and writes to. -/
inductive SocketStream
  /-- The one that the task began with. -/
  | opened
  /-- The one that a handshake has returned. -/
  | upgraded
deriving DecidableEq, Repr

/-- A socket task: the channel that it serves, the limit of the channel and the stream in use. -/
structure SocketTask where
  /-- The place of the channel among the transports. -/
  channel : TransportId
  /-- How many counted bytes make the channel's queue full. -/
  limit : UInt64
  /-- The stream in use. -/
  stream : SocketStream := .opened

namespace SocketTask

/-- The task after a turn. The stream that a handshake has returned takes the place of the one that
was used. -/
def after (t : SocketTask) : SocketReport → SocketTask
  | .upgraded (.ok ()) => { t with stream := .upgraded }
  | _ => t

@[simp] theorem channel_after (t : SocketTask) (report : SocketReport) :
    (t.after report).channel = t.channel := by
  unfold after
  split <;> rfl

@[simp] theorem limit_after (t : SocketTask) (report : SocketReport) :
    (t.after report).limit = t.limit := by
  unfold after
  split <;> rfl

/-- Operations one after the other, and then the deferred tasks. -/
def turn (operations : List (Operation H)) : List (Work H) :=
  operations.map .perform ++ [.perform .runScheduled]

/-- The channel that the task serves. -/
def channel? (t : SocketTask) (e : Endpoint H) : Option Channel :=
  match e.transports[t.channel]? with
  | some (.channel c) => some c
  | _ => none

/-- Replaces the channel that the task serves. -/
def setChannel (t : SocketTask) (e : Endpoint H) (c : Channel) : Endpoint H :=
  e.setTransport t.channel (.channel c)

/-- The socket is there: a channel to it is handed to the connection, and the task serves it. -/
def start (e : Endpoint H) (limit : UInt64) (secure : Bool) :
    SocketTask × List (Work H) :=
  ({ channel := e.transports.length, limit },
    turn [.connected (.channel { limit, secure })])

/-- No socket came about. -/
def connectFailed (err : Error) : List (Work H) := turn [.connectFailed err]

/-- Takes the oldest order from the channel. Without a channel nothing can come any more. -/
def takeOrder (t : SocketTask) (e : Endpoint H) : Receipt × Endpoint H :=
  match t.channel? e with
  | none => (.disconnected, e)
  | some c => (c.receive.1, t.setChannel e c.receive.2)

/-- Acknowledges written bytes. Half the limit is low enough to report a drain. -/
def acknowledge (t : SocketTask) (e : Endpoint H) (data : Bytes) : Bool × Endpoint H :=
  match t.channel? e with
  | none => (false, e)
  | some c =>
    let (drained, c) := c.written (Channel.lengthWord data) (t.limit / 2)
    (drained, t.setChannel e c)

/-- The socket has become secure. -/
def secure (t : SocketTask) (e : Endpoint H) : Endpoint H :=
  match t.channel? e with
  | none => e
  | some c => t.setChannel e c.setSecure

/-- What the task does in a turn. The steps of a closure come before the work. -/
def answer (t : SocketTask) (e : Endpoint H) : SocketReport → Reaction H
  | .wrote data result =>
    let (drained, e) := t.acknowledge e data
    match result with
    | .ok () => (e, turn (if drained then [.drained] else []))
    | .error fault => (e, turn [.fault (.io fault)])
  | .upgraded (.ok ()) => ((t.secure e).remark .secured, turn [.upgraded (.ok ())])
  | .upgraded (.error err) =>
    (e.remark .upgradeFailed, turn [.upgraded (.error err), .setBroken, .closed])
  | .shutDown (.ok ()) => (e, turn [.closed])
  | .shutDown (.error _) => (e.remark .socketShutdownFailed, turn [.closed])
  | .closure => (e, turn [])
  | .handlesDropped => (e.remark .handlesDropped, turn [.close])
  | .read data => (e, turn [.input data])
  | .readEnd => (e, turn [.closed])
  | .readFailed fault => (e, turn [.fault (.io fault), .closed])
  | .deadline now => (e, turn [.timeout now])

end SocketTask

end SmtpLink
