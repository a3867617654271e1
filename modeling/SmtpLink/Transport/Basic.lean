import SmtpLink.Transport.Channel

/-!
# Transports

What a connection writes to. The real one is a channel to the task that owns the socket. The
other kind answers as its switches say, so that a connection can be exercised without a socket
and under every behaviour of one.

## Main definitions

* `Switches` — a transport that is its own answers.
* `Transport` — either kind, with the five calls that a connection makes.
-/

namespace SmtpLink

/-- A transport whose answers are set by hand. -/
structure Switches where
  /-- The queue is full. -/
  full : Bool := false
  /-- The socket is secure. -/
  secure : Bool := false
  /-- The error that every write fails with, if writes are to fail. -/
  failWrites : Option Error := none
  /-- The error that every upgrade fails with, if upgrades are to fail. -/
  failUpgrade : Option Error := none
deriving DecidableEq, Repr

/-- What a connection writes to. -/
inductive Transport
  /-- Answers set by hand. -/
  | manual (switches : Switches)
  /-- A queue to the task that owns the socket. -/
  | channel (channel : Channel)
deriving DecidableEq, Repr

namespace Transport

/-- Hands over bytes to send. -/
def write (data : Bytes) : Transport → Except Error Transport
  | .manual s => match s.failWrites with
    | some err => .error err
    | none => .ok (.manual s)
  | .channel c => (c.write data).map .channel

/-- Asks whether the outbound queue is full. -/
def full : Transport → Bool × Transport
  | .manual s => (s.full, .manual s)
  | .channel c => (c.full.1, .channel c.full.2)

/-- The socket is secure. -/
def isSecure : Transport → Bool
  | .manual s => s.secure
  | .channel c => c.secure

/-- Asks for the socket to be made secure. -/
def upgrade : Transport → Except Error Transport
  | .manual s => match s.failUpgrade with
    | some err => .error err
    | none => .ok (.manual s)
  | .channel c => c.upgrade.map .channel

/-- Closes the socket. -/
def close : Transport → Transport
  | .manual s => .manual s
  | .channel c => .channel c.close

/-- The connection lets go of the transport. -/
def release : Transport → Transport
  | .manual s => .manual s
  | .channel c => .channel c.release

end Transport

end SmtpLink
