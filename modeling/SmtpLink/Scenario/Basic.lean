import SmtpLink.Connection.Description
import SmtpLink.Connection.Operation

/-!
# Scenarios

A scenario is an application written down: a list of steps, each a use of a connection, whose
handlers are again lists of steps. Running it yields a record of everything that could be seen.

## Main definitions

* `Step` — one use of a connection, or one look at it or at what surrounds it.
* `Callback` — a handler that records its call and then takes steps.
* `Entry` — one line of the record.
-/

namespace SmtpLink

/-- Changes to the switches of a transport whose answers are set by hand. Switches that are not
mentioned stay. -/
structure Rewiring where
  /-- The queue is full. -/
  full : Option Bool := none
  /-- The socket is secure. -/
  secure : Option Bool := none
  /-- The error that every write fails with. -/
  failWrites : Option (Option Error) := none
  /-- The error that every upgrade fails with. -/
  failUpgrade : Option (Option Error) := none

/-- The switches after a change. -/
def Rewiring.apply (r : Rewiring) (s : Switches) : Switches where
  full := r.full.getD s.full
  secure := r.secure.getD s.secure
  failWrites := r.failWrites.getD s.failWrites
  failUpgrade := r.failUpgrade.getD s.failUpgrade

/-- One step of a scenario, with handlers of type `C`. -/
inductive Step (C : Type)
  /-- Use the connection. -/
  | perform (operation : Operation C)
  /-- Let time pass until so many nanoseconds after the deadline, or, if there is no deadline,
  after now. -/
  | timeoutAfter (nanos : Int)
  /-- Learn the capabilities from the last reply that a handler was called with. -/
  | learnLast
  /-- Change the switches of the newest transport that has switches. -/
  | rewire (change : Rewiring)
  /-- Take an order from the newest channel. -/
  | receive
  /-- Look at the counter of the newest channel. -/
  | showQueued
  /-- Acknowledge bytes on the newest channel. -/
  | acknowledge (length low : UInt64)
  /-- Drop the socket's end of the newest channel and forget the channel. -/
  | dropReceiver
  /-- Break off the peer's side of the socket. -/
  | resetPeer
  /-- Look at the state. -/
  | showState
  /-- Look at the address. -/
  | showAddress
  /-- Look at how long the reply to QUIT is waited for. -/
  | showQuitTimeout
  /-- Look at the capabilities. -/
  | showCapabilities
  /-- Describe the connection. -/
  | describe

/-- A handler that records its call under a tag and then takes steps. -/
inductive Callback
  | mk (tag : String) (steps : List (Step Callback))

namespace Callback

/-- The tag of the records. -/
def tag : Callback → String
  | .mk tag _ => tag

/-- The steps taken after the record. -/
def steps : Callback → List (Step Callback)
  | .mk _ steps => steps

end Callback

/-- One line of the record. Transports with switches are numbered on their own. -/
inductive Entry
  /-- A remark in the log. -/
  | remark (remark : Remark)
  /-- A transport took bytes. -/
  | wrote (transport : Nat) (data : Bytes)
  /-- A transport refused bytes. -/
  | writeRefused (transport : Nat)
  /-- A transport was asked to become secure. -/
  | upgradeAsked (transport : Nat)
  /-- A transport was closed. -/
  | transportClosed (transport : Nat)
  /-- The listener heard that connecting failed. -/
  | connectFailed
  /-- The listener heard that the socket has closed. -/
  | connectionClosed (view : View)
  /-- The listener heard that an operation has ended. -/
  | operationEnded (view : View)
  /-- A handler was called, with the state of the connection at that moment. -/
  | called (tag : String) (notice : Notice) (state : ConnectionState) (pending : Bool)
  /-- A handler was called too deep inside others to take its steps. -/
  | depthLimit
  /-- A step was left out, because too many were taken. -/
  | stepLimit
  /-- What became of a line that was written at once. -/
  | lineResult (result : Outcome)
  /-- Deferred tasks were to be run from a foreign task. -/
  | offContext
  /-- There was no reply to learn from. -/
  | noReply
  /-- What taking an order found, if there is a channel. -/
  | received (receipt : Option Receipt)
  /-- The counter of the channel, if there is one. -/
  | queued (count : Option UInt64)
  /-- Whether the acknowledgement drained the channel, if there is one. -/
  | acknowledged (drained : Option Bool)
  /-- The state of the connection. -/
  | state (snapshot : Snapshot)
  /-- The address of the server. -/
  | address (text : String)
  /-- How long the reply to QUIT is waited for. -/
  | quitTimeout (limit : Duration)
  /-- The capabilities of the server. -/
  | capabilities (table : Capabilities)
  /-- The connection in one line. -/
  | description (text : String)
  /-- A batch of steps was begun. -/
  | batch

end SmtpLink
