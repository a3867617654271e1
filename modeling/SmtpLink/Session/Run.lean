import SmtpLink.Session.Basic
import SmtpLink.Session.Wire

/-!
# Running sessions

The script takes a step, and then the socket task does all that it can before the script goes
on. Time stands still except while the script waits for something that only the passing of time
can bring.

## Main definitions

* `Session` — both sides in the middle of a session.
* `Session.advance` — the next thing that the socket task does, if it can do anything.
* `Session.settle`, `Session.await` — until it can do nothing; until something has come.
* `Session.step` — one step of the script.
* `SessionScript.run` — the reports of a script.
-/

namespace SmtpLink

/-- Where the socket task stands. -/
inductive TaskPhase
  /-- It has not run yet. -/
  | unstarted
  /-- It makes a fresh socket secure, until a deadline. -/
  | connecting (deadline : Instant)
  /-- It serves the connection. -/
  | serving (task : SocketTask)
  /-- It serves the connection and is making the socket secure. -/
  | securing (task : SocketTask)
  /-- It has ended. -/
  | ended

/-- A closure on its way to the task. -/
structure Closure where
  /-- Its steps. -/
  steps : List (Step Callback)
  /-- It is one of several batches, which record their beginning. -/
  batch : Bool := false
  /-- The script waits for its end. -/
  awaited : Bool := false

/-- Both sides in the middle of a session. -/
structure Session where
  /-- Where to connect and how. -/
  config : Config
  /-- Whether the server can be reached. -/
  network : Network
  /-- The server listens. -/
  serverListens : Bool
  /-- The connection and the record. -/
  bench : Bench
  /-- Where the socket task stands. -/
  phase : TaskPhase := .unstarted
  /-- The wire, once there is one. -/
  wire : Option Wire := none
  /-- The closures that have not run yet, oldest first. -/
  closures : List Closure := []
  /-- The script still holds its handle. -/
  hasHandle : Bool := true
  /-- The task has not yet noticed that no handle is left. -/
  expectsClosures : Bool := true
  /-- How the connection stood at the end of the closure that the script waits for. -/
  called : Option Snapshot := none

namespace Session

/-- The task has ended. -/
def isEnded (s : Session) : Bool :=
  match s.phase with
  | .ended => true
  | _ => false

/-- The time. -/
def clock (s : Session) : Instant := s.bench.endpoint.clock

/-- Changes the wire, if there is one. -/
def onWire (s : Session) (change : Wire → Wire) : Session := { s with wire := s.wire.map change }

/-- Works an agenda off. The peer may break off meanwhile. -/
def work (s : Session) (agenda : List Item) : Session :=
  let bench := s.bench.run agenda
  let s := { s with bench := { bench with peerReset := false } }
  if bench.peerReset then s.onWire fun w => { w with reset := true } else s

/-- The task ends. Closures that have not run never will, and the socket is gone. -/
def finish (s : Session) : Session :=
  let bench := { s.bench with endpoint := s.bench.endpoint.remark .taskFinished }.collect
  let s := s.onWire fun w => { w with clientEnded := true }
  { s with bench, phase := .ended, closures := [] }

/-- Connecting has failed, and the task ends. -/
def fail (s : Session) (err : Error) : Session :=
  finish (s.work ((SocketTask.connectFailed err).map .work))

/-- The socket is there, and the task begins to serve. -/
def serve (s : Session) (secure : Bool) : Session :=
  let (task, agenda) := SocketTask.start s.bench.endpoint s.config.writeQueueLimit secure
  work { s with phase := .serving task } (agenda.map .work)

/-- A turn of the task, after the steps of a closure, if it begins with one. -/
def turn (s : Session) (task : SocketTask) (report : SocketReport) : Session :=
  let (endpoint, agenda) := task.answer s.bench.endpoint report
  let s := { s with
    phase := .serving (task.after report)
    bench := { s.bench with endpoint }.collect }
  let s := s.work (agenda.map .work)
  if report.isLast then s.finish else s

/-- The task runs for the first time and tries to connect. -/
def begin (s : Session) : Session :=
  match s.network with
  | .unreachable fault => s.fail (.io fault)
  | .loopback unannouncedEnd =>
    if !s.serverListens then s.fail (.io .refused)
    else
      let secure := s.config.security = .implicit
      let s := { s with wire := some { unannouncedEnd, handshakeBegun := secure } }
      if !secure then s.serve false
      else if Wire.isServerName s.config.host then
        { s with phase := .connecting (s.clock.after s.config.connectTimeout) }
      else s.fail (.invalidHostname s.config.host)

/-- The client's side of making the socket secure, if it has come to an end. -/
def shakeHands (s : Session) : Option (Outcome × Session) :=
  match s.wire with
  | none => none
  | some w => match w.shakeHands with
    | (some result, w) => some (result, { s with wire := some w })
    | (none, _) => none

/-- Carries out an order. -/
def obey (s : Session) (task : SocketTask) : Order → Session
  | .write data => match s.wire with
    | none => s.turn task (.wrote data (.error .resetByPeer))
    | some w =>
      let (result, w) := w.send data
      turn { s with wire := some w } task (.wrote data result)
  | .upgrade =>
    if s.wire.any (·.clientSecure) then
      s.turn task (.upgraded (.error (.protocol .alreadySecure)))
    else if Wire.isServerName s.config.host then
      { s with phase := .securing task }.onWire fun w => { w with handshakeBegun := true }
    else s.turn task (.upgraded (.error (.invalidHostname s.config.host)))
  | .close => s.turn task (.shutDown (.ok ()))

/-- Runs a closure. -/
def runClosure (s : Session) (task : SocketTask) (c : Closure) : Session :=
  let s := if c.batch then { s with bench := s.bench.note .batch } else s
  let s := s.work (c.steps.map .step)
  let called := if c.awaited then some s.bench.endpoint.snapshot else s.called
  turn { s with called } task .closure

/-- Reads from the socket, or fires the timer, if either is possible. -/
def listen (s : Session) (task : SocketTask) : Option Session :=
  let found := match s.wire with
    | none => (Found.nothing, s)
    | some w => (w.read.1, { s with wire := some w.read.2 })
  match found with
  | (.bytes data, s) => some (s.turn task (.read data))
  | (.finish, s) => some (s.turn task .readEnd)
  | (.fault fault, s) => some (s.turn task (.readFailed fault))
  | (.nothing, s) => match s.bench.endpoint.conn.timer with
    | some deadline =>
      if deadline ≤ s.clock then some (s.turn task (.deadline s.clock)) else none
    | none => none

/-- The next thing that the socket task does, if it can do anything. Orders go before closures,
those before input, and that before the timer. -/
def advance (s : Session) : Option Session :=
  match s.phase with
  | .unstarted => some s.begin
  | .ended => none
  | .connecting deadline => match s.shakeHands with
    | some (.ok (), s) => some (s.serve true)
    | some (.error err, s) => some (s.fail err)
    | none =>
      if deadline ≤ s.clock then some (s.fail (.connectTimeout s.config.connectTimeout))
      else none
  | .securing task => s.shakeHands.map fun (result, s) => s.turn task (.upgraded result)
  | .serving task =>
    let (receipt, endpoint) := task.takeOrder s.bench.endpoint
    let s := { s with bench := { s.bench with endpoint } }
    match receipt with
    | .order order => some (s.obey task order)
    | .disconnected => some (s.turn task (.shutDown (.ok ())))
    | .nothing => match s.closures with
      | c :: rest => some (runClosure { s with closures := rest } task c)
      | [] =>
        if s.expectsClosures && !s.hasHandle then
          some (turn { s with expectsClosures := false } task .handlesDropped)
        else s.listen task

/-- Lets the socket task do all that it can, in at most so many turns. -/
def settleFor : Nat → Session → Session
  | 0, s => s
  | turns + 1, s => match s.advance with
    | none => s
    | some s => settleFor turns s

/-- Lets the socket task do all that it can. -/
def settle (s : Session) : Session := settleFor maxTurns s

/-- When time alone will let the socket task do something. -/
def wakeTime (s : Session) : Option Instant :=
  match s.phase with
  | .connecting deadline => some deadline
  | .serving _ => s.bench.endpoint.conn.timer
  | _ => none

/-- Lets time pass, so many times at most, until something has come. -/
def awaitFor (come : Session → Bool) : Nat → Session → Session
  | 0, s => s
  | times + 1, s =>
    if come s then s
    else match s.wakeTime with
      | none => s
      | some time =>
        let endpoint := { s.bench.endpoint with clock := time }
        awaitFor come times (settle { s with bench := { s.bench with endpoint } })

/-- How often a wait lets time pass. A task waits for a socket once and for QUIT once. -/
def maxWaits : Nat := 8

/-- Waits until something has come, or nothing can come any more. -/
def await (s : Session) (come : Session → Bool) : Session := awaitFor come maxWaits s.settle

/-- The wire, if the server has accepted it. -/
def serverWire (s : Session) : Option Wire := s.wire.filter (·.accepted)

/-- The server puts something on the wire, if it has one. -/
def put (s : Session) (parcel : Wire → Parcel) : Session :=
  match s.serverWire with
  | none => s.settle
  | some w => settle { s with wire := some (w.put (parcel w)) }

/-- The server reads lines: so many, or all there are. -/
def readLines (s : Session) (wanted : Option Nat) : Session × SessionAnswer :=
  match s.serverWire with
  | none => (s, .noSocket)
  | some w =>
    let (lines, rest) := Wire.takeLines (wanted.getD w.lineCount) w.toServer
    let ended := w.clientEnded && (wanted.isNone || lines.length < wanted.getD 0)
    ({ s with wire := some { w with toServer := rest } }, .lines lines ended)

/-- Sends a closure, unless the task has ended. -/
def send (s : Session) (c : Closure) : Session :=
  if s.isEnded then s else { s with closures := s.closures ++ [c] }

/-- Success, or the error of a task that has ended. -/
def sendOutcome (s : Session) : Outcome := if s.isEnded then .error .notConnected else .ok ()

/-- What a step does. -/
def act (s : Session) : SessionStep → Session × SessionAnswer
  | .accept =>
    let s := s.settle
    match s.wire with
    | none => (s, .notAccepted)
    | some w =>
      if w.accepted then (s, .notAccepted)
      else ({ s with wire := some { w with accepted := true } }, .accepted)
  | .secure =>
    let s := s.await fun s => s.serverWire.all (·.handshakeBegun)
    if s.serverWire.isNone then (s, .noSocket)
    else (s.onWire fun w => { w with serverSecure := true }, .secured)
  | .send data => (s.put fun w => .bytes w.serverSecure data, .nothing)
  | .finish announced => (s.put fun w => .finish (announced && w.serverSecure), .nothing)
  | .reset =>
    (if s.serverWire.isNone then s
      else s.onWire fun w => { w with reset := true, accepted := false }, .nothing)
  | .expect wanted =>
    let come (s : Session) := s.serverWire.all fun w => wanted ≤ w.lineCount || w.clientEnded
    (s.await come).readLines (some wanted)
  | .rest => (s.await fun s => s.serverWire.all (·.clientEnded)).readLines none
  | .call steps =>
    if !s.hasHandle then (s, .noHandle)
    else
      let s := { s with called := none }.send { steps, awaited := true }
      let s := s.await fun s => s.called.isSome || s.isEnded
      match s.called with
      | some snapshot => (s, .called snapshot)
      | none => (s, .outcome (.error .notConnected))
  | .run steps =>
    if !s.hasHandle then (s, .noHandle)
    else (s.send { steps }, .outcome s.sendOutcome)
  | .runs batches drop =>
    if !s.hasHandle then (s, .noHandle)
    else
      let s := batches.foldl (fun s steps => s.send { steps, batch := true }) s
      ({ s with hasHandle := !drop }, .nothing)
  | .awaitEnd steps =>
    if !s.hasHandle then (s, .noHandle)
    else
      let s := match steps with
        | some steps => s.send { steps }
        | none => s
      (s.await isEnded, .taskEnded)
  | .dropHandle => ({ s with hasHandle := false }, .nothing)

/-- One step of the script: what it does, and all that the socket task can do then. -/
def step (s : Session) (st : SessionStep) : Session × SessionReport :=
  let (s, answer) := s.act st
  let s := s.settle
  let (entries, bench) := s.bench.takeRecord
  let finished := if s.hasHandle then some s.isEnded else none
  ({ s with bench }, { answer, entries, finished })

/-- Steps one after the other. -/
def steps (s : Session) : List SessionStep → List SessionReport
  | [] => []
  | st :: rest =>
    let (s, report) := s.step st
    report :: steps s rest

end Session

/-- The reports of a script. The connection is opened before the first step, and the task runs
for the first time when the script first pauses. -/
def SessionScript.run (script : SessionScript) (network : Network) : List SessionReport :=
  let bench : Bench :=
    { endpoint := { task := some 0 }, listening := script.listening, kept := script.kept }
  let bench := (bench.take
    (bench.endpoint.perform (.dial script.config script.greeting script.onError))).1
  Session.steps
    { config := script.config, network, serverListens := script.serverListens, bench }
    script.steps

end SmtpLink
