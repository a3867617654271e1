import SmtpLink.Error
import SmtpLink.Text.Utf8

/-!
# The queue between a connection and its socket

A connection never touches a socket. It queues *orders* on a channel; the task that owns the
socket takes them, carries them out and acknowledges the bytes that it wrote. Both ends share a
counter of bytes that are queued and not acknowledged.

## Main definitions

* `Order` — what a connection asks of the socket.
* `Channel` — the queue, its counter and its two ends.
* `Channel.write`, `full`, `upgrade`, `close`, `release` — the connection's end.
* `Channel.receive`, `written`, `setSecure`, `dropReceiver` — the socket's end.
-/

namespace SmtpLink

/-- What a connection asks of its socket. -/
inductive Order
  /-- Send bytes. -/
  | write (data : Bytes)
  /-- Make the socket secure. -/
  | upgrade
  /-- Close the socket. -/
  | close
deriving DecidableEq, Repr

/-- A queue of orders with a counter of the bytes in it. -/
structure Channel where
  /-- How many counted bytes make the queue full. -/
  limit : UInt64
  /-- The socket is secure. -/
  secure : Bool := false
  /-- The orders not taken yet, oldest first. -/
  orders : List Order := []
  /-- The bytes queued and not acknowledged, as a word. -/
  queued : UInt64 := 0
  /-- The queue was found full, and no drain has been reported since. -/
  reportedFull : Bool := false
  /-- The close order was given. -/
  closed : Bool := false
  /-- The connection's end is gone. -/
  senderGone : Bool := false
  /-- The socket's end is gone. -/
  receiverGone : Bool := false
deriving DecidableEq, Repr

/-- What taking an order may find. -/
inductive Receipt
  /-- The oldest order. -/
  | order (order : Order)
  /-- No order is queued. -/
  | nothing
  /-- No order is queued, and none will come. -/
  | disconnected
deriving DecidableEq, Repr

namespace Channel

/-- The length of a byte string as a word. -/
def lengthWord (data : Bytes) : UInt64 := UInt64.ofNat data.length

/-! ### The connection's end -/

/-- Queues bytes. Refused after the close order, and if nobody can take them. -/
def write (c : Channel) (data : Bytes) : Except Error Channel :=
  if c.closed || c.receiverGone then .error .notConnected
  else .ok { c with orders := c.orders ++ [.write data], queued := c.queued + lengthWord data }

/-- The queue holds as many bytes as its limit. An empty queue is never full, or no write would
be left to drain it. -/
def isFull (c : Channel) : Bool := 0 < c.queued && c.limit ≤ c.queued

/-- Asks whether the queue is full, and remembers that it was found so. -/
def full (c : Channel) : Bool × Channel :=
  (c.isFull, { c with reportedFull := c.reportedFull || c.isFull })

/-- Queues the order to make the socket secure. Refused after the close order, on a secure
socket, and if nobody can take it. -/
def upgrade (c : Channel) : Except Error Channel :=
  if c.closed then .error .notConnected
  else if c.secure then .error (.protocol .alreadySecure)
  else if c.receiverGone then .error .notConnected
  else .ok { c with orders := c.orders ++ [.upgrade] }

/-- Gives the close order, the first time only. -/
def close (c : Channel) : Channel :=
  if c.closed then c
  else { c with
    closed := true
    orders := if c.receiverGone then c.orders else c.orders ++ [.close] }

/-- The connection lets go of its end. -/
def release (c : Channel) : Channel := { c with senderGone := true }

/-! ### The socket's end -/

/-- Takes the oldest order. -/
def receive (c : Channel) : Receipt × Channel :=
  match c.orders with
  | order :: rest => (.order order, { c with orders := rest })
  | [] => (if c.senderGone then .disconnected else .nothing, c)

/-- Acknowledges written bytes. Answers whether the connection is to be told that the queue has
drained: the queue was found full since the last drain, and no more than `low` bytes are
left. -/
def written (c : Channel) (length low : UInt64) : Bool × Channel :=
  let left := if length ≤ c.queued then c.queued - length else 0
  let counted := { c with queued := c.queued - length }
  if left ≤ low then (c.reportedFull, { counted with reportedFull := false })
  else (false, counted)

/-- The socket has become secure. -/
def setSecure (c : Channel) : Channel := { c with secure := true }

/-- The socket's end goes away, with all that is queued. -/
def dropReceiver (c : Channel) : Channel := { c with receiverGone := true, orders := [] }

end Channel

end SmtpLink
