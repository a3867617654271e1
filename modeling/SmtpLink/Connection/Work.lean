import SmtpLink.Connection.Basic

/-!
# Operations, work and events

The vocabulary of a running connection: what can be asked of it, what is left to do when it has
done its part, whom it calls with what, and what others can see.

## Main definitions

* `Event` — what others can see of an operation.
* `Notice` — what a handler of the application is called with.
* `Operation` — what can be asked of a connection.
* `Work` — what is left to do when an operation has done its first part. Calls to handlers are
  work, and so is everything that has to wait until a call has returned.
-/

namespace SmtpLink

/-- What others can see of an operation. -/
inductive Event
  /-- A remark in the log. -/
  | remark (remark : Remark)
  /-- A transport took bytes. -/
  | wrote (transport : TransportId) (data : Bytes)
  /-- A transport refused bytes. -/
  | writeRefused (transport : TransportId)
  /-- A transport was asked to become secure. -/
  | upgradeAsked (transport : TransportId)
  /-- A transport was closed. -/
  | transportClosed (transport : TransportId)
  /-- The listener heard that connecting failed. -/
  | connectFailed
  /-- The listener heard that the socket has closed. -/
  | connectionClosed (view : View)
  /-- The listener heard that an operation has ended. -/
  | operationEnded (view : View)
  /-- What became of a line that was written at once. -/
  | lineResult (result : Outcome)
  /-- Deferred tasks were to be run from a foreign task. -/
  | offContext

/-- What a handler of the application is called with. -/
inductive Notice
  /-- The server's greeting. -/
  | greeting (reply : Reply)
  /-- The reply to one command. -/
  | reply (reply : Reply)
  /-- The replies to a pipelined group, one for each command. -/
  | replies (replies : List Reply)
  /-- An error. -/
  | error (error : Error)
  /-- What became of a line. -/
  | line (result : Outcome)
  /-- What became of an upgrade. -/
  | upgrade (result : Outcome)
  /-- The turn of a deferred task. -/
  | task

/-- What can be asked of a connection. -/
inductive Operation (H : Type)
  /-- Begin to open the connection. -/
  | dial (config : Config) (greeting onError : H)
  /-- A socket is connected. -/
  | connected (transport : Transport)
  /-- Connecting failed. -/
  | connectFailed (error : Error)
  /-- Bytes came from the socket. -/
  | input (data : Bytes)
  /-- The socket failed. -/
  | fault (error : Error)
  /-- The socket has closed. -/
  | closed
  /-- The outbound queue has room again. -/
  | drained
  /-- The upgrade of the socket has ended. -/
  | upgraded (result : Outcome)
  /-- Time has passed. -/
  | timeout (now : Instant)
  /-- Write one command. -/
  | write (text : String) (mask : Option Nat) (handler : H)
  /-- Write a group of commands at once. -/
  | writeCommands (commands : List String) (handler : H)
  /-- Write a line that no reply answers. -/
  | writeLine (line : String)
  /-- Write a line that no reply answers, when there is room for it. -/
  | writeLineWithRoom (line : String) (handler : H)
  /-- Make the socket secure. -/
  | upgrade (handler : H)
  /-- Learn the server's capabilities from a reply. -/
  | learnCapabilities (reply : Reply)
  /-- Park the connection in the pool. -/
  | setIdle
  /-- Take the connection out of the pool. -/
  | useConnection
  /-- End the current operation. -/
  | returnToPool
  /-- Close when the connection is next given back. -/
  | requestShutdown
  /-- Make the connection unusable. -/
  | setBroken
  /-- Close with QUIT. -/
  | close
  /-- Override the handler for errors. -/
  | setErrorHandler (handler : H)
  /-- Go back to the remembered handler for errors. -/
  | resetErrorHandler
  /-- Defer a task. -/
  | runOnContext (handler : H)
  /-- Run the deferred tasks. -/
  | runScheduled

/-- What is left to do when an operation has done its first part. -/
inductive Work (H : Type)
  /-- Call a handler of the application. -/
  | call (handler : H) (notice : Notice)
  /-- Perform an operation. -/
  | perform (operation : Operation H)
  /-- Hand out the replies that have come. -/
  | dispatch
  /-- Write a line that was held back. -/
  | sendDeferred (deferred : Deferred H)
  /-- Go back to batches of one reply. -/
  | expectOne
  /-- Run the deferred tasks. -/
  | runTasks

end SmtpLink
