import SmtpLink.Scenario.Basic

/-!
# The bench

The bench runs scenarios. It keeps an agenda of steps and of work that operations left, takes
what stands first, and puts what comes of it in front. A handler's steps are put in front of
the work that follows its call, so that they are taken before it, as if called.

## Main definitions

* `Bench` — an endpoint with the record of what happened.
* `Item` — what may stand on the agenda.
* `Bench.turn` — takes one item.
* `Bench.run` — works an agenda off.
-/

namespace SmtpLink

/-- An endpoint with the record of what happened. -/
structure Bench where
  /-- The connection and what surrounds it. -/
  endpoint : Endpoint Callback := {}
  /-- The listener keeps a record. -/
  listening : Bool := true
  /-- Down to which level remarks are recorded, if they are. -/
  kept : Option Level := none
  /-- The record, last entry first. -/
  record : List Entry := []
  /-- The last reply that a handler was called with. -/
  lastReply : Option Reply := none
  /-- The channels whose socket's end is held, newest first. -/
  channels : List TransportId := []
  /-- How many handlers with steps are running. -/
  depth : Nat := 0
  /-- How many steps were taken. -/
  steps : Nat := 0
  /-- The peer's side of the socket was broken off. -/
  peerReset : Bool := false

/-- What may stand on the agenda. -/
inductive Item
  /-- Work that an operation left. -/
  | work (work : Work Callback)
  /-- A step of the scenario. -/
  | step (step : Step Callback)
  /-- The end of a handler's steps. -/
  | leave

/-- How many handlers with steps may run inside one another. -/
def maxDepth : Nat := 6

/-- How many steps a scenario may take in all. Handlers that call one another without end are
cut off here. -/
def maxSteps : Nat := 400

/-- How many turns the work for one agenda may take. Steps are bounded by `maxSteps`, and the
work that follows a step by the input and the lines that are held, so this is out of reach of
any scenario of less than a million lines. -/
def maxTurns : Nat := 4000000

namespace Bench

/-- The transport has switches. -/
def hasSwitches : Transport → Bool
  | .manual _ => true
  | .channel _ => false

/-- The number of a transport among those with switches. -/
def manualNumber? (b : Bench) (id : TransportId) : Option Nat :=
  match b.endpoint.transports[id]? with
  | some (.manual _) => some ((b.endpoint.transports.take id).countP hasSwitches)
  | _ => none

/-- The entry that an event makes, if it makes one. -/
def entry? (b : Bench) : Event → Option Entry
  | .remark r =>
    if b.kept.any fun kept => kept.admits r.level then some (.remark r) else none
  | .wrote id data => (b.manualNumber? id).map (.wrote · data)
  | .writeRefused id => (b.manualNumber? id).map .writeRefused
  | .upgradeAsked id => (b.manualNumber? id).map .upgradeAsked
  | .transportClosed id => (b.manualNumber? id).map .transportClosed
  | .connectFailed => if b.listening then some .connectFailed else none
  | .connectionClosed view => if b.listening then some (.connectionClosed view) else none
  | .operationEnded view => if b.listening then some (.operationEnded view) else none
  | .lineResult result => some (.lineResult result)
  | .offContext => some .offContext

/-- Adds one entry to the record. -/
def note (b : Bench) (entry : Entry) : Bench := { b with record := entry :: b.record }

/-- Moves the endpoint's trace into the record. -/
def collect (b : Bench) : Bench :=
  { b with
    endpoint := { b.endpoint with trace := [] }
    record := (b.endpoint.trace.filterMap b.entry?).reverse ++ b.record }

/-- Takes what came of an operation or of work. -/
def take (b : Bench) (reaction : Reaction Callback) : Bench × List Item :=
  (collect { b with endpoint := reaction.1 }, reaction.2.map .work)

/-- The reply that a notice brings; of several the first. -/
def replyOf? : Notice → Option Reply
  | .greeting reply => some reply
  | .reply reply => some reply
  | .replies replies => replies.head?
  | _ => none

/-- Calls a handler: records the call, and puts the handler's steps on the agenda unless too
many handlers are running. -/
def call (b : Bench) (handler : Callback) (notice : Notice) : Bench × List Item :=
  let conn := b.endpoint.conn
  let b := b.note (.called handler.tag notice conn.state conn.hasPendingReply)
  let b := { b with lastReply := replyOf? notice <|> b.lastReply }
  if handler.steps.isEmpty then (b, [])
  else if maxDepth ≤ b.depth then (b.note .depthLimit, [])
  else ({ b with depth := b.depth + 1 }, handler.steps.map .step ++ [.leave])

/-- The place of the newest transport with switches. -/
def newestManual? (b : Bench) : Option TransportId :=
  let later := b.endpoint.transports.reverse.takeWhile fun t => !hasSwitches t
  if later.length < b.endpoint.transports.length then
    some (b.endpoint.transports.length - 1 - later.length)
  else none

/-- The newest channel that is held, with its place. -/
def channel? (b : Bench) : Option (TransportId × Channel) :=
  match b.channels with
  | [] => none
  | id :: _ => match b.endpoint.transports[id]? with
    | some (.channel c) => some (id, c)
    | _ => none

/-- Replaces a channel. -/
def setChannel (b : Bench) (id : TransportId) (c : Channel) : Bench :=
  { b with endpoint := b.endpoint.setTransport id (.channel c) }

/-- Drops the socket's end of the newest channel. The one before it is then the newest. -/
def dropReceiver (b : Bench) : Bench :=
  match b.channel? with
  | none => { b with channels := b.channels.tail }
  | some (id, c) => { b.setChannel id c.dropReceiver with channels := b.channels.tail }

/-- Uses the connection. Of a channel that is handed over the socket's end is held. -/
def perform (b : Bench) (operation : Operation Callback) : Bench × List Item :=
  match operation with
  | .connected (.channel _) =>
    let id := b.endpoint.transports.length
    let (b, items) := b.take (b.endpoint.perform operation)
    ({ b with channels := id :: b.channels }, items)
  | _ => b.take (b.endpoint.perform operation)

/-- What one step does. -/
def act (b : Bench) : Step Callback → Bench × List Item
  | .perform operation => b.perform operation
  | .timeoutAfter nanos =>
    let origin := b.endpoint.conn.timer.getD b.endpoint.clock
    b.perform (.timeout ⟨origin.nanos + nanos⟩)
  | .learnLast => match b.lastReply with
    | some reply => b.perform (.learnCapabilities reply)
    | none => (b.note .noReply, [])
  | .rewire change => match b.newestManual? with
    | none => (b, [])
    | some id => match b.endpoint.transports[id]? with
      | some (.manual s) =>
        ({ b with endpoint := b.endpoint.setTransport id (.manual (change.apply s)) }, [])
      | _ => (b, [])
  | .receive => match b.channel? with
    | none => (b.note (.received none), [])
    | some (id, c) =>
      let (receipt, c) := c.receive
      ((b.setChannel id c).note (.received (some receipt)), [])
  | .showQueued => (b.note (.queued (b.channel?.map fun found => found.2.queued)), [])
  | .acknowledge length low => match b.channel? with
    | none => (b.note (.acknowledged none), [])
    | some (id, c) =>
      let (drained, c) := c.written length low
      ((b.setChannel id c).note (.acknowledged (some drained)), [])
  | .dropReceiver => (b.dropReceiver, [])
  | .resetPeer => ({ b with peerReset := true }, [])
  | .showState => (b.note (.state b.endpoint.snapshot), [])
  | .showAddress => (b.note (.address b.endpoint.conn.address), [])
  | .showQuitTimeout => (b.note (.quitTimeout b.endpoint.conn.quitTimeout), [])
  | .showCapabilities => (b.note (.capabilities b.endpoint.conn.capabilities), [])
  | .describe => (b.note (.description (b.endpoint.conn.describe 0)), [])

/-- Takes one step, unless too many were taken. -/
def step (b : Bench) (s : Step Callback) : Bench × List Item :=
  if maxSteps ≤ b.steps then (b.note .stepLimit, [])
  else act { b with steps := b.steps + 1 } s

/-- Takes one item of the agenda. -/
def turn (b : Bench) : Item → Bench × List Item
  | .work (.call handler notice) => b.call handler notice
  | .work work => b.take (b.endpoint.resume work)
  | .step step => b.step step
  | .leave => ({ b with depth := b.depth - 1 }, [])

/-- Works an agenda off in at most so many turns. -/
def runFor : Nat → Bench → List Item → Bench
  | _, b, [] => b
  | 0, b, _ :: _ => b
  | turns + 1, b, item :: rest =>
    let (b, items) := b.turn item
    runFor turns b (items ++ rest)

/-- Works an agenda off. -/
def run (b : Bench) (agenda : List Item) : Bench := runFor maxTurns b agenda

/-- Takes the record, oldest entry first. -/
def takeRecord (b : Bench) : List Entry × Bench := (b.record.reverse, { b with record := [] })

end Bench

end SmtpLink
