import SmtpLink.Scenario.Bench
import SmtpLink.SocketTask.Basic

/-!
# Sessions

A session is a socket task that runs against a scripted server. The script acts on both sides:
it lets the server accept, send and read, and it sends closures to the task through a handle.

## Main definitions

* `Network` — whether the server can be reached.
* `SessionStep`, `SessionAnswer` — what a script does, and what it learns.
* `SessionScript`, `SessionReport` — a whole script, and what came of one step.
-/

namespace SmtpLink

/-- Whether the server can be reached. -/
inductive Network
  /-- Every attempt to connect fails at once, with the same fault. -/
  | unreachable (fault : IoFault)
  /-- Attempts to connect succeed while the server listens. The secure layer has its own fault
  for a stream that ends without announcement. -/
  | loopback (unannouncedEnd : IoFault)
deriving DecidableEq, Repr

/-- A machine without any network. -/
def Network.offline : Network := .unreachable .networkUnreachable

/-- One step of a session's script. -/
inductive SessionStep
  /-- The server accepts the connection. -/
  | accept
  /-- The server carries out its side of making the socket secure. -/
  | secure
  /-- The server sends bytes. -/
  | send (data : Bytes)
  /-- The server reads until so many lines have come. -/
  | expect (lines : Nat)
  /-- The server reads until the client's stream ends. -/
  | rest
  /-- The server ends its stream; on a secure socket it may say so first. -/
  | finish (announced : Bool)
  /-- The server breaks the connection off. -/
  | reset
  /-- A closure runs, and the script waits for its end. -/
  | call (steps : List (Step Callback))
  /-- A closure is sent. -/
  | run (steps : List (Step Callback))
  /-- Closures are sent one right after the other, and then the handle may be dropped. -/
  | runs (batches : List (List (Step Callback))) (drop : Bool)
  /-- A closure may be sent, and the script waits for the end of the task. -/
  | awaitEnd (steps : Option (List (Step Callback)))
  /-- The handle is dropped. -/
  | dropHandle

/-- What a step yields. -/
inductive SessionAnswer
  | nothing
  | accepted
  | notAccepted
  | secured
  /-- The server has no socket. -/
  | noSocket
  /-- Lines that the server read, with their ends, and whether the stream has ended. -/
  | lines (lines : List Bytes) (ended : Bool)
  /-- How the connection stood at the end of a closure. -/
  | called (snapshot : Snapshot)
  | outcome (result : Outcome)
  /-- The task has ended. -/
  | taskEnded
  /-- The handle was dropped before. -/
  | noHandle

/-- What came of one step. -/
structure SessionReport where
  /-- What the step yielded. -/
  answer : SessionAnswer
  /-- What happened, oldest first. -/
  entries : List Entry
  /-- Whether the task has ended, as far as the handle tells. -/
  finished : Option Bool

/-- A session's script. -/
structure SessionScript where
  /-- Where to connect and how. -/
  config : Config
  /-- The handler of the greeting. -/
  greeting : Callback
  /-- The handler of errors. -/
  onError : Callback
  /-- The server listens. -/
  serverListens : Bool := true
  /-- The listener keeps a record. -/
  listening : Bool := true
  /-- Down to which level remarks are recorded, if they are. -/
  kept : Option Level := none
  /-- The steps. -/
  steps : List SessionStep

end SmtpLink
