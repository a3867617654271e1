import SmtpLink.Connection.Endpoint
import SmtpLink.Text.Literal

/-!
# Descriptions of a connection

## Main definitions

* `Snapshot` — all that can be asked of a connection at one time.
* `Connection.describe` — a connection as one line, for people who search for faults.
-/

namespace SmtpLink

variable {H : Type}

/-- All that can be asked of a connection at one time. -/
structure Snapshot where
  /-- The state. -/
  state : ConnectionState
  /-- The connection can never be used again. -/
  broken : Bool
  /-- The connection is parked in the pool. -/
  idle : Bool
  /-- The peer has closed the socket. -/
  peerClosed : Bool
  /-- A graceful close is due when the connection is next given back. -/
  shutdownRequested : Bool
  /-- Some handler waits for a reply. -/
  pendingReply : Bool
  /-- The socket is secure. -/
  secure : Bool
  /-- Deferred tasks are waiting. -/
  scheduled : Bool
  /-- How long it is to the deadline, if one is set. -/
  timer : Option Duration
  /-- The connection is bound to a task. -/
  bound : Bool
  /-- The connection runs on the task that it is bound to, or is not bound yet. -/
  onContext : Bool
deriving DecidableEq, Repr

/-- How long it is from one instant to another; nothing if the other is past. -/
def Instant.until (now deadline : Instant) : Duration := ⟨(deadline.nanos - now.nanos).toNat⟩

/-- All that can be asked of the connection now. -/
def Endpoint.snapshot (e : Endpoint H) : Snapshot where
  state := e.conn.state
  broken := e.conn.isBroken
  idle := e.conn.isIdle
  peerClosed := e.conn.peerClosed
  shutdownRequested := e.conn.shutdownRequested
  pendingReply := e.conn.hasPendingReply
  secure := e.isSecure
  scheduled := e.conn.hasScheduled
  timer := e.conn.timer.map e.clock.until
  bound := e.conn.context.isSome
  onContext := e.isOnContext

/-- The words for the two truth values. -/
def flagText (b : Bool) : String := if b then "true" else "false"

/-- A connection as one line. Connections are numbered elsewhere, so the number is given. -/
def Connection.describe (c : Connection H) (number : Nat) : String :=
  "Connection \x7b id: ConnectionId(" ++ toString number
    ++ "), address: " ++ Text.literal c.address
    ++ ", state: " ++ c.state.label
    ++ ", socket_closed: " ++ flagText c.peerClosed
    ++ ", pending_shutdown: " ++ flagText c.shutdownRequested
    ++ ", pending_reply: " ++ flagText c.hasPendingReply
    ++ ", .. \x7d"

end SmtpLink
