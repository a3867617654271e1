import SmtpLink.Error
import SmtpLink.Text.Blank
import SmtpLink.Text.Utf8

/-!
# The wire between a client and a server

What is on the way between the two, and how far securing the socket has come. Bytes sent
before the socket is secure and bytes sent after it are told apart.

## Main definitions

* `Parcel` — what the server put on the wire.
* `Wire` — both directions and the server's side of the socket.
* `Wire.read` — what the client finds when it reads.
* `Wire.shakeHands` — how the client's side of making the socket secure goes.
-/

namespace SmtpLink

/-- What the server put on the wire. -/
inductive Parcel
  /-- Bytes, sent on a secure socket or a plain one. -/
  | bytes (secure : Bool) (data : Bytes)
  /-- The end of the stream, announced on the secure socket or not. -/
  | finish (announced : Bool)
deriving DecidableEq, Repr

/-- What the client finds when it reads. -/
inductive Found
  | nothing
  | bytes (data : Bytes)
  | finish
  | fault (fault : IoFault)
deriving DecidableEq, Repr

/-- Both directions of a socket. -/
structure Wire where
  /-- On the way to the client, oldest first. -/
  toClient : List Parcel := []
  /-- What the client sent and the server has not read. -/
  toServer : Bytes := []
  /-- The client's stream has ended. -/
  clientEnded : Bool := false
  /-- The server has accepted the connection. -/
  accepted : Bool := false
  /-- The server's side of the socket is secure. -/
  serverSecure : Bool := false
  /-- The client's side of the socket is secure. -/
  clientSecure : Bool := false
  /-- The client has begun to make the socket secure. -/
  handshakeBegun : Bool := false
  /-- The server broke the connection off, and the client has not noticed. -/
  reset : Bool := false
  /-- The client has noticed that the server broke the connection off. -/
  dead : Bool := false
  /-- The secure layer's fault for a stream that ends without announcement. -/
  unannouncedEnd : IoFault

/-- The most bytes that one read takes. -/
def readSize : Nat := 8192

namespace Wire

/-- The server puts something on the wire. -/
def put (w : Wire) (parcel : Parcel) : Wire := { w with toClient := w.toClient ++ [parcel] }

/-- The client notices that the server broke the connection off. Nothing can be sent any more,
and the stream has ended. -/
def notice (w : Wire) : Wire :=
  { w with reset := false, dead := true, toClient := [.finish false] }

/-- What the client finds when it reads: the oldest parcel, and at most `readSize` bytes of
it. -/
def read (w : Wire) : Found × Wire :=
  if w.reset then (.fault .resetByPeer, w.notice)
  else match w.toClient with
    | [] => (.nothing, w)
    | .finish announced :: rest =>
      (if w.clientSecure && !announced then .fault w.unannouncedEnd else .finish,
        { w with toClient := rest })
    | .bytes secure data :: rest =>
      (.bytes (data.take readSize),
        { w with toClient :=
            if data.length ≤ readSize then rest
            else .bytes secure (data.drop readSize) :: rest })

/-- The client sends bytes. They are lost, with a fault, if the server broke off. -/
def send (w : Wire) (data : Bytes) : Except IoFault Unit × Wire :=
  if w.reset then (.error .resetByPeer, w.notice)
  else if w.dead then (.error .brokenPipe, w)
  else (.ok (), { w with toServer := w.toServer ++ data })

/-- A label of a domain name: letters, digits, hyphens and low lines, with no hyphen at its
ends. -/
def isHostLabel (label : List Char) : Bool :=
  !label.isEmpty && label.length ≤ 63
    && label.all (fun c => c.isAlphanum || c == '-' || c == '_')
    && label.head? != some '-' && label.getLast? != some '-'

/-- A part of an address of four bytes: a number below 256 without leading noughts. -/
def isByteLabel (label : List Char) : Bool :=
  !label.isEmpty && label.length ≤ 3 && label.all Text.isDigit
    && (label.length == 1 || label.head? != some '0') && Text.digitsValue label < 256

/-- A certificate can be checked against the name: it is an address of four bytes, or a domain
name, whose last label is not a number. -/
def isServerName (host : String) : Bool :=
  let labels := Text.pieces (· == '.') host.toList
  (labels.length == 4 && labels.all isByteLabel)
    || (labels.all isHostLabel && !(labels.getLast?.getD []).all Text.isDigit)

/-- How the client's side of making the socket secure goes, once it has begun: nothing while it
waits for the server. A server that sends plain bytes, ends its stream or breaks off before it
has done its side makes it fail. -/
def shakeHands (w : Wire) : Option Outcome × Wire :=
  if w.reset then (some (.error (.io .resetByPeer)), w.notice)
  else match w.toClient with
    | .bytes false _ :: _ =>
      (some (.error (.io (.described "received corrupt message of type InvalidContentType"))), w)
    | .finish _ :: _ => (some (.error (.io (.described "tls handshake eof"))), w)
    | _ => if w.serverSecure then (some (.ok ()), { w with clientSecure := true }) else (none, w)

/-- The byte that ends a line. -/
def lineEnd : UInt8 := 10

/-- The first so many lines that the server can read, with their ends, and what is left. -/
def takeLines : Nat → Bytes → List Bytes × Bytes
  | 0, data => ([], data)
  | n + 1, data =>
    if data.contains lineEnd then
      let line := data.takeWhile (· != lineEnd) ++ [lineEnd]
      let (lines, rest) := takeLines n (data.drop line.length)
      (line :: lines, rest)
    else ([], data)

/-- How many lines the server can read. -/
def lineCount (w : Wire) : Nat := w.toServer.count lineEnd

end Wire

end SmtpLink
