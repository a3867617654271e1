import SmtpLink.Capabilities
import SmtpLink.Config
import SmtpLink.Connection.Remark
import SmtpLink.Redaction
import SmtpLink.Reply.Assembler
import SmtpLink.Transport.Basic

/-!
# Connections

A connection owns one socket, through a transport, and matches commands with the replies that
answer them. It performs no input or output and never waits: the task that owns the socket
tells it what happened, and all that the connection wants done is an order on its transport or
a call to a handler of the application.

Handlers are values of a type `H` that this library does not look into. A connection is data:
whom to call is stored in it, and calls are made by whoever runs it.

## Main definitions

* `ReplyHandler`, `ErrorHandler`, `Task` — who is called; besides the application's handlers
  these are the steps of a graceful close.
* `Phase` — the state with its data. The transport and the one slot for a reply handler live
  inside the states that hold a socket, so that a broken or closed connection has neither.
* `Connection` — the state machine's data, with what can be asked of it.
* `View` — what the pool's listener sees of a connection.
-/

namespace SmtpLink

variable {H : Type}

/-- Who is called with the replies to a command. -/
inductive ReplyHandler (H : Type)
  /-- The application, with the server's greeting. -/
  | greeting (handler : H)
  /-- The application, with the reply to one command. -/
  | reply (handler : H)
  /-- The application, with the replies to a pipelined group of so many commands. -/
  | replies (handler : H) (count : Nat)
  /-- The graceful close, with the reply to QUIT. -/
  | quit
deriving Repr

/-- Who is called with an error. -/
inductive ErrorHandler (H : Type)
  /-- The application. -/
  | app (handler : H)
  /-- The graceful close, which ends with any error. -/
  | quit
deriving Repr

/-- Work deferred until the current event has been handled. -/
inductive Task (H : Type)
  /-- A task of the application. -/
  | app (handler : H)
  /-- A graceful close. -/
  | close
deriving Repr

/-- A line held back until the transport has room, and who is told of its fate. -/
structure Deferred (H : Type) where
  /-- The line. -/
  line : String
  /-- The handler told of its fate. -/
  handler : H
deriving Repr

/-- Names a transport by its place among all transports that were handed over. -/
abbrev TransportId := Nat

/-- Names a task of the surrounding scheduler. -/
abbrev TaskId := Nat

/-- The state of a connection with its data. -/
inductive Phase (H : Type)
  /-- Never opened, or closed by us. -/
  | closed
  /-- Waiting for a socket; the greeting handler is set. -/
  | connecting (greeting : H)
  /-- Holding a transport and the one slot for a reply handler. -/
  | live (usage : Usage) (transport : TransportId) (slot : Option (ReplyHandler H))
  /-- Unusable. -/
  | broken
deriving Repr

namespace Phase

/-- The state as seen from outside. -/
def state : Phase H → ConnectionState
  | .closed => .closed
  | .connecting _ => .connecting
  | .live usage _ _ => .live usage
  | .broken => .broken

/-- The transport, in the states that hold one. -/
def transport? : Phase H → Option TransportId
  | .live _ transport _ => some transport
  | _ => none

/-- The handler that waits for a reply. -/
def slot? : Phase H → Option (ReplyHandler H)
  | .live _ _ slot => slot
  | _ => none

/-- Some handler waits for a reply. -/
def hasPendingReply : Phase H → Bool
  | .connecting _ => true
  | .live _ _ slot => slot.isSome
  | _ => false

/-- Sets the slot, in the states that have one. -/
def setSlot (slot : Option (ReplyHandler H)) : Phase H → Phase H
  | .live usage transport _ => .live usage transport slot
  | phase => phase

/-- Changes the use of the socket, in the states that hold one. -/
def relabel (usage : Usage) : Phase H → Phase H
  | .live _ transport slot => .live usage transport slot
  | phase => phase

end Phase

/-- One connection to a server. -/
structure Connection (H : Type) where
  /-- The server's name and port, once opened. -/
  address : String := ""
  /-- How long the reply to QUIT is waited for. -/
  quitTimeout : Duration := .ofSeconds 10
  /-- The state with its data. -/
  phase : Phase H := .closed
  /-- The peer has closed the socket. -/
  peerClosed : Bool := false
  /-- A graceful close is due when the connection is next given back. -/
  shutdownRequested : Bool := false
  /-- Input that is not answered yet. -/
  assembler : Assembler := {}
  /-- What the server announced last. -/
  capabilities : Capabilities := {}
  /-- Who is called with errors now. -/
  errorHandler : Option (ErrorHandler H) := none
  /-- Who was called with errors before the first override. -/
  baseErrorHandler : Option (ErrorHandler H) := none
  /-- The task that the connection is bound to. -/
  context : Option TaskId := none
  /-- Lines held back until the transport has room, oldest first. -/
  deferred : List (Deferred H) := []
  /-- Who waits for the socket to become secure. -/
  upgradeHandler : Option H := none
  /-- When the wait for the reply to QUIT ends. -/
  timer : Option Instant := none
  /-- Tasks deferred until the current event has been handled, oldest first. -/
  scheduled : List (Task H) := []

/-- What the pool's listener sees of a connection. -/
structure View where
  /-- The state. -/
  state : ConnectionState
  /-- The connection can never be used again. -/
  broken : Bool
  /-- The peer has closed the socket. -/
  peerClosed : Bool
  /-- Some handler waits for a reply. -/
  pendingReply : Bool
  /-- When the wait for the reply to QUIT ends. -/
  timer : Option Instant
deriving DecidableEq, Repr

namespace Connection

/-- The state as seen from outside. -/
def state (c : Connection H) : ConnectionState := c.phase.state

/-- The connection can never be used again. -/
def isBroken (c : Connection H) : Bool := c.state.isTerminal

/-- The connection is parked in the pool. -/
def isIdle (c : Connection H) : Bool := c.state == .idle

/-- The connection holds a socket. -/
def isLive (c : Connection H) : Bool := c.state.isLive

/-- Some handler waits for a reply. -/
def hasPendingReply (c : Connection H) : Bool := c.phase.hasPendingReply

/-- Deferred tasks are waiting. -/
def hasScheduled (c : Connection H) : Bool := !c.scheduled.isEmpty

/-- What the pool's listener sees. -/
def view (c : Connection H) : View where
  state := c.state
  broken := c.isBroken
  peerClosed := c.peerClosed
  pendingReply := c.hasPendingReply
  timer := c.timer

end Connection

end SmtpLink
