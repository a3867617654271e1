import SmtpLink.Duration
import SmtpLink.Reply.Basic

/-!
# Errors

What can go wrong with a connection, by cause. The wording is in one place.

## Main definitions

* `IoFault` — a fault of the operating system or of the socket.
* `ProtocolFault` — what a server or a caller did against the protocol.
* `Misuse` — a call that the state of a connection does not admit.
* `Error` — all errors, and `Error.message`, their text.
* `Outcome` — success, or an error.
-/

namespace SmtpLink

/-- The kinds of socket fault that have a text of their own. -/
inductive IoKind
  | connectionRefused
  | connectionReset
  | brokenPipe
  | timedOut
  | unexpectedEof
  | other
deriving DecidableEq, Repr

/-- A text for each kind of socket fault. -/
def IoKind.text : IoKind → String
  | .connectionRefused => "connection refused"
  | .connectionReset => "connection reset"
  | .brokenPipe => "broken pipe"
  | .timedOut => "timed out"
  | .unexpectedEof => "unexpected end of file"
  | .other => "other error"

/-- A fault of the operating system or of the socket. -/
inductive IoFault
  /-- An error number of the operating system. -/
  | system (number : Nat)
  /-- A fault known by its kind alone. -/
  | plain (kind : IoKind)
  /-- A fault with a text of its own. -/
  | described (text : String)
deriving DecidableEq, Repr

namespace IoFault

/-- The operating system's text for its error numbers. -/
def systemText : Nat → String
  | 32 => "Broken pipe"
  | 101 => "Network is unreachable"
  | 104 => "Connection reset by peer"
  | 110 => "Connection timed out"
  | 111 => "Connection refused"
  | number => "Unknown error " ++ toString number

/-- The text of a socket fault. -/
def text : IoFault → String
  | .system number => systemText number ++ " (os error " ++ toString number ++ ")"
  | .plain kind => kind.text
  | .described text => text

/-- The peer's end of a socket is gone. -/
def brokenPipe : IoFault := .system 32

/-- No route leads to the server. -/
def networkUnreachable : IoFault := .system 101

/-- The peer broke the connection off. -/
def resetByPeer : IoFault := .system 104

/-- Nothing listens at the address. -/
def refused : IoFault := .system 111

end IoFault

/-- What went against the protocol. -/
inductive ProtocolFault
  /-- A line that does not begin with a code and a mark. -/
  | malformedLine (line : String)
  /-- A line whose code is not the code of its block. -/
  | codeChanged (line : String)
  /-- A block without a line. -/
  | emptyReply
  /-- A line that goes on beyond the limit without an end. -/
  | lineTooLong
  /-- An upgrade of a socket that is secure already. -/
  | alreadySecure
  /-- Any other fault, in words. -/
  | other (text : String)
deriving DecidableEq, Repr

/-- The text of a protocol fault. -/
def ProtocolFault.text : ProtocolFault → String
  | .malformedLine line => "Malformed reply line: " ++ line
  | .codeChanged line => "Reply code changed inside block: " ++ line
  | .emptyReply => "Empty reply"
  | .lineTooLong => "reply line too long"
  | .alreadySecure => "Already using TLS"
  | .other text => text

/-- A call that the state of a connection does not admit. -/
inductive Misuse
  /-- A pipelined group without a command. -/
  | noCommands
  /-- An idle connection was given back a second time. -/
  | idleReturned
  /-- Any other misuse, in words. -/
  | other (text : String)
deriving DecidableEq, Repr

/-- The text of a misuse. -/
def Misuse.text : Misuse → String
  | .noCommands => "no commands to write"
  | .idleReturned => "idle connection returned to pool"
  | .other text => text

/-- What can go wrong with a connection. -/
inductive Error
  /-- The socket failed. -/
  | io (fault : IoFault)
  /-- The secure layer failed. -/
  | tls (text : String)
  /-- The server refused a command. -/
  | smtp (code : ReplyCode) (text : String)
  /-- The protocol was violated. -/
  | protocol (fault : ProtocolFault)
  /-- The peer closed the socket while the connection was in use. -/
  | closedByServer
  /-- There is no live socket. -/
  | notConnected
  /-- No connection came about in time. -/
  | connectTimeout (limit : Duration)
  /-- A host name that no certificate can be checked against. -/
  | invalidHostname (host : String)
  /-- The state of the connection does not admit the call. -/
  | invalidState (misuse : Misuse)
deriving DecidableEq, Repr

namespace Error

/-- The text of an error. -/
def message : Error → String
  | .io fault => "I/O error: " ++ fault.text
  | .tls text => "TLS error: unexpected error: " ++ text
  | .smtp code text => "SMTP error " ++ code.text ++ ": " ++ text
  | .protocol fault => "Protocol error: " ++ fault.text
  | .closedByServer => "connection was closed by server"
  | .notConnected => "connection is not open"
  | .connectTimeout limit => "connect timed out after " ++ limit.text
  | .invalidHostname host => "Invalid hostname: " ++ host
  | .invalidState misuse => "state error: " ++ misuse.text

/-- A refusal for good. -/
def isPermanent : Error → Bool
  | .smtp code _ => code.isPermanent
  | _ => false

/-- A refusal for now. -/
def isTransient : Error → Bool
  | .smtp code _ => code.isTransient
  | _ => false

/-- The error came from the network and not from a misuse of the connection. -/
def isNetworkFault : Error → Bool
  | .io _ | .tls _ | .closedByServer | .connectTimeout _ => true
  | _ => false

end Error

/-- Success, or an error. -/
abbrev Outcome := Except Error Unit

end SmtpLink
