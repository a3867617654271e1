import SmtpLink.Connection.State

/-!
# Remarks in the log

Everything that a connection or its socket task writes into the log, by what it reports.

## Main definitions

* `Level` — how severe a remark is.
* `Remark` — what is remarked, with `Remark.level` and `Remark.text`.
-/

namespace SmtpLink

/-- The severity of a remark, most severe first. -/
inductive Level
  | error
  | warn
  | info
  | debug
  | trace
deriving DecidableEq, Repr

namespace Level

/-- Rank in the order of severity; the most severe has rank nought. -/
def rank : Level → Nat
  | .error => 0
  | .warn => 1
  | .info => 2
  | .debug => 3
  | .trace => 4

/-- The name of a level. -/
def text : Level → String
  | .error => "ERROR"
  | .warn => "WARN"
  | .info => "INFO"
  | .debug => "DEBUG"
  | .trace => "TRACE"

/-- A log that is kept down to level `kept` holds remarks of level `l`. -/
def admits (kept l : Level) : Bool := l.rank ≤ kept.rank

end Level

/-- What is remarked in the log. -/
inductive Remark
  | opening
  | connected
  /-- A socket came when none was waited for any more. -/
  | lateSocket
  | connectFailed
  | inputDropped
  | replyDropped
  | emptyBatch
  | faultNotReturned
  | fault
  | socketClosed
  | closedByServer
  | closedWhileIdle
  | closeExpected
  | drained
  | upgradeUnawaited
  | peerGone
  | socketGone
  /-- A command in its loggable form. -/
  | command (text : String)
  /-- A line of content. -/
  | content (text : String)
  | queueFull
  | capabilitiesLearned
  /-- A change of use was asked for that does not start at the present state. -/
  | useUnchanged (origin : ConnectionState)
  | idleReturned
  | shutdownOnReturn
  | returned
  | shutdownRequested
  | alreadyBroken
  | breaking
  | alreadyShutDown
  | quitTooLate
  | shuttingDown
  | quitUnneeded
  | closingSocket
  | errorUnheard
  | quitFaultIgnored
  | quitTimedOut
  | quitRefused
  | secured
  | upgradeFailed
  | socketShutdownFailed
  | handlesDropped
  | taskFinished
deriving DecidableEq, Repr

namespace Remark

/-- How severe a remark is. -/
def level : Remark → Level
  | .connectFailed => .error
  | .quitTimedOut | .quitRefused => .warn
  | .idleReturned => .info
  | .inputDropped | .drained | .content _ | .queueFull | .socketShutdownFailed => .trace
  | _ => .debug

/-- The wording of a remark. -/
def text : Remark → String
  | .opening => "opening connection"
  | .connected => "connected"
  | .lateSocket => "connect completed after close, dropping socket"
  | .connectFailed => "exception on connect"
  | .inputDropped => "dropping data on a closed connection"
  | .replyDropped => "dropping reply arriving after we stopped processing"
  | .emptyBatch => "empty reply batch"
  | .faultNotReturned => "not returning follow-up exception"
  | .fault => "got an exception on the socket"
  | .socketClosed => "socket has been closed"
  | .closedByServer => "connection has been closed by the server"
  | .closedWhileIdle => "closed while connection has been idle (timeout on server?)"
  | .closeExpected => "close has been expected"
  | .drained => "drain"
  | .upgradeUnawaited => "upgrade completed with no one waiting"
  | .peerGone => "connection was closed by server"
  | .socketGone => "not sending command since the socket is gone"
  | .command text => "command: " ++ text
  | .content text => text
  | .queueFull => "write queue full, waiting for drain"
  | .capabilitiesLearned => "parsed capabilities"
  | .useUnchanged origin => "ignoring state change from " ++ origin.text
  | .idleReturned => "state error: idle connection returned to pool"
  | .shutdownOnReturn => "shutting connection down"
  | .returned => "returning connection to pool"
  | .shutdownRequested =>
    "will shut down connection after the current operation finishes"
  | .alreadyBroken => "connection is already set to broken"
  | .breaking => "setting connection to broken"
  | .alreadyShutDown => "connection is already shut down"
  | .quitTooLate => "connection shut down before QUIT could be sent"
  | .shuttingDown => "shutting down connection"
  | .quitUnneeded => "connection is already closed, only doing shutdown"
  | .closingSocket => "closing socket"
  | .errorUnheard => "no error handler installed, dropping error"
  | .quitFaultIgnored => "QUIT failed, ignoring"
  | .quitTimedOut => "timeout waiting for QUIT reply, closing"
  | .quitRefused => "QUIT failed"
  | .secured => "upgraded to TLS"
  | .upgradeFailed => "TLS upgrade failed"
  | .socketShutdownFailed => "socket shutdown failed"
  | .handlesDropped => "all handles dropped, closing"
  | .taskFinished => "connection task finished"

end Remark

end SmtpLink
