import SmtpLink.Connection.Machine
import SmtpLink.SocketTask.Basic

/-!
# Runs of the socket task

What a session looks like from the first attempt to connect to its end, whatever the socket, the
peer, the clock and the application do. The order of precedence is kept: a report that is no
order comes only when no order stands on the channel.

## Main definitions

* `SocketTask.Due` — the reports that a turn may start from.
* `SocketMachine` — a socket task with its connection in the middle of a session.
* `SocketMachine.Move`, `SocketMachine.Run` — one move, and the moves of a session.
-/

namespace SmtpLink

variable {H : Type}

/-- The reports that a turn may start from, with the endpoint after an order is taken.
`handles` tells whether the application may still send closures. -/
inductive SocketTask.Due (t : SocketTask) (handles : Bool) :
    Endpoint H → SocketReport → Endpoint H → Prop
  /-- Bytes were to be sent. -/
  | wrote {e e' : Endpoint H} {data : Bytes} (result : Except IoFault Unit)
      (taken : t.takeOrder e = (.order (.write data), e')) :
      Due t handles e (.wrote data result) e'
  /-- The socket was to be made secure. -/
  | upgraded {e e' : Endpoint H} (result : Outcome)
      (taken : t.takeOrder e = (.order .upgrade, e')) : Due t handles e (.upgraded result) e'
  /-- The socket was to be closed. -/
  | closed {e e' : Endpoint H} (result : Except IoFault Unit)
      (taken : t.takeOrder e = (.order .close, e')) : Due t handles e (.shutDown result) e'
  /-- No order can come any more. -/
  | disconnected {e e' : Endpoint H} (result : Except IoFault Unit)
      (taken : t.takeOrder e = (.disconnected, e')) : Due t handles e (.shutDown result) e'
  /-- The application has sent a closure. -/
  | closure {e e' : Endpoint H} (mayCome : handles = true)
      (taken : t.takeOrder e = (.nothing, e')) : Due t handles e .closure e'
  /-- The application has dropped its last handle. -/
  | handlesDropped {e e' : Endpoint H} (mayCome : handles = true)
      (taken : t.takeOrder e = (.nothing, e')) : Due t handles e .handlesDropped e'
  /-- The peer has sent bytes. -/
  | read {e e' : Endpoint H} {data : Bytes} (nonempty : data ≠ [])
      (taken : t.takeOrder e = (.nothing, e')) : Due t handles e (.read data) e'
  /-- The peer has ended its stream. -/
  | readEnd {e e' : Endpoint H} (taken : t.takeOrder e = (.nothing, e')) :
      Due t handles e .readEnd e'
  /-- The socket cannot be read. -/
  | readFailed {e e' : Endpoint H} (fault : IoFault)
      (taken : t.takeOrder e = (.nothing, e')) : Due t handles e (.readFailed fault) e'
  /-- The deadline has passed. -/
  | deadline {e e' : Endpoint H} {time : Instant} (timer : e.conn.timer = some time)
      (passed : time ≤ e.clock) (taken : t.takeOrder e = (.nothing, e')) :
      Due t handles e (.deadline e.clock) e'

/-- A socket task with its connection in the middle of a session. -/
structure SocketMachine (H : Type) where
  /-- The task. -/
  task : SocketTask
  /-- The connection, and what is due before the next turn. -/
  machine : Machine H
  /-- The application may still send closures. -/
  handles : Bool
  /-- The turn in progress is the last. -/
  last : Bool

namespace SocketMachine

/-- A session at its beginning: the socket has just connected. -/
def start (e : Endpoint H) (limit : UInt64) (secure : Bool) : SocketMachine H where
  task := (SocketTask.start e limit secure).1
  machine := ⟨e, (SocketTask.start e limit secure).2.map .work⟩
  handles := true
  last := false

/-- A session that no socket came about for: its first turn is its last. -/
def refused (e : Endpoint H) (err : Error) : SocketMachine H where
  task := (SocketTask.start e 1 false).1
  machine := ⟨e, (SocketTask.connectFailed err).map .work⟩
  handles := true
  last := true

/-- The task waits for the next report. -/
def AtHead (s : SocketMachine H) : Prop := s.machine.frames = [] ∧ s.last = false

/-- The task has ended. -/
def Ended (s : SocketMachine H) : Prop := s.machine.frames = [] ∧ s.last = true

/-- The frames of a turn: a closure runs before the work that follows it. -/
def framesOf (report : SocketReport) (work : List (Work H)) : List (Frame H) :=
  match report with
  | .closure => .code :: work.map .work
  | _ => work.map .work

/-- The application may send closures after a report. -/
def handlesAfter (handles : Bool) : SocketReport → Bool
  | .handlesDropped => false
  | _ => handles

/-- One move of a session. Code of the application may ask for the admitted operations. The
label of a move is what the connection shows, or the report that a turn starts from. -/
inductive Move (admitted : Operation H → Prop) :
    SocketMachine H → Label H ⊕ SocketReport → SocketMachine H → Prop
  /-- The turn in progress goes on. -/
  | inside {s : SocketMachine H} {m : Machine H} {label : Label H}
      (move : Machine.Move admitted s.machine label m)
      (internal : label ≠ .outside) : Move admitted s (.inl label) { s with machine := m }
  /-- Time passes. -/
  | wait {s : SocketMachine H} {now : Instant} (later : s.machine.endpoint.clock ≤ now) :
      Move admitted s (.inl .outside)
        { s with machine := { s.machine with
            endpoint := { s.machine.endpoint with clock := now } } }
  /-- A turn begins. -/
  | turn {s : SocketMachine H} {report : SocketReport} {e : Endpoint H} (head : s.AtHead)
      (due : s.task.Due s.handles s.machine.endpoint report e) :
      Move admitted s (.inr report)
        { task := s.task.after report
          machine := ⟨(s.task.answer e report).1, framesOf report (s.task.answer e report).2⟩
          handles := handlesAfter s.handles report
          last := report.isLast }

/-- A session: the labels of its moves, oldest first. -/
inductive Run (admitted : Operation H → Prop) :
    SocketMachine H → List (Label H ⊕ SocketReport) → SocketMachine H → Prop
  /-- No move. -/
  | nil (s : SocketMachine H) : Run admitted s [] s
  /-- One move after others. -/
  | snoc {s t u : SocketMachine H} {labels : List (Label H ⊕ SocketReport)}
      {label : Label H ⊕ SocketReport} (run : Run admitted s labels t)
      (move : Move admitted t label u) : Run admitted s (labels ++ [label]) u

end SocketMachine

end SmtpLink
