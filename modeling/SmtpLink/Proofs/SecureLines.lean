import SmtpLink.Proofs.SessionEnd
import SmtpLink.Proofs.Turns

/-!
# Nothing is sent in clear after an upgrade

When the connection has asked for its socket to be made secure, it goes on handing over lines:
the handshake takes its time, and may fail.  These lines wait behind the order to make the socket
secure, which the task takes before them.  So as long as bytes go to the plain stream they are of
lines from before the upgrade, and what is handed over later goes to the stream that the
handshake has returned, or nowhere.

## Main definitions

* `Order.plainLines`, `Order.secureLines` — the lines handed over before an upgrade is asked for,
  and those since.
* `SocketMachine.sentTo` — what the task writes to a stream.
* `SocketMachine.handed` — the orders that the connection hands over in the course of a session.
* `SocketMachine.Step.accepted` — the orders of the calls that the channel accepts in a move.
* `SocketMachine.Conveys` — the task has carried out the orders so far, in their order.

## Main results

* `SocketMachine.handed_eq_accepted` — **the connection hands over what the channel accepts**, an
  upgrade at its place among the lines.
* `SocketMachine.conveys_of_trail` — **the orders of a session are carried out in their order.**
* `SocketMachine.nothing_in_clear` — **either stream is sent its lines only, in the order of the
  queue.**
-/

namespace SmtpLink

variable {H : Type}

/-! ### Before and after the upgrade -/

namespace Order

/-- The order is to make the socket secure. -/
def isUpgrade : Order → Bool
  | .upgrade => true
  | _ => false

/-- The lines that are handed over before it is asked for the socket to be made secure. -/
def plainLines (orders : List Order) : List Bytes :=
  (orders.takeWhile fun order => !order.isUpgrade).filterMap bytes?

/-- The lines that are handed over since it is asked for the socket to be made secure. -/
def secureLines (orders : List Order) : List Bytes :=
  (orders.dropWhile fun order => !order.isUpgrade).filterMap bytes?

variable {orders orders' : List Order}

theorem plainLines_mono (h : orders <+: orders') : plainLines orders <+: plainLines orders' := by
  obtain ⟨more, rfl⟩ := h
  refine List.IsPrefix.filterMap bytes? ?_
  rw [List.takeWhile_append]
  split
  · exact (List.takeWhile_prefix _).trans (List.prefix_append _ _)
  · exact List.prefix_rfl

theorem secureLines_mono (h : orders <+: orders') : secureLines orders <+: secureLines orders' := by
  obtain ⟨more, rfl⟩ := h
  refine List.IsPrefix.filterMap bytes? ?_
  rw [List.dropWhile_append]
  split
  · next none =>
    rw [List.isEmpty_iff.mp none]
    exact List.nil_prefix
  · exact List.prefix_append _ _

/-- One more line is to go out in clear if no upgrade stands before it, and otherwise secured. -/
theorem lines_concat (orders : List Order) (order : Order) :
    plainLines (orders ++ [order]) = plainLines orders ++
      (if orders.any isUpgrade then [] else order.bytes?.toList) ∧
    secureLines (orders ++ [order]) = secureLines orders ++
      (if orders.any isUpgrade then order.bytes?.toList else []) := by
  induction orders with
  | nil => cases order <;> exact ⟨rfl, rfl⟩
  | cons first orders ih =>
    obtain ⟨plain, secure⟩ := ih
    cases first with
    | write data => exact ⟨congrArg (data :: ·) plain, secure⟩
    | upgrade =>
      -- from here on all lines are secure
      refine ⟨rfl, ?_⟩
      show (orders ++ [order]).filterMap bytes? = orders.filterMap bytes? ++ order.bytes?.toList
      rw [List.filterMap_append]
      cases h : order.bytes? <;> simp [h]
    | close => exact ⟨plain, secure⟩

end Order

namespace SocketReport

variable {report : SocketReport}

/-- The bytes that were written, if only in part. -/
def bytes? : SocketReport → Option Bytes
  | .wrote data _ => some data
  | _ => none

theorem bytes?_order? (report : SocketReport) :
    report.order?.bind Order.bytes? = report.bytes? := by
  cases report <;> rfl

/-- In the last turn nothing is written. -/
theorem bytes?_of_last (last : report.isLast = true) : report.bytes? = none := by
  cases report <;> first | rfl | exact absurd last Bool.false_ne_true

end SocketReport

/-- The stream in use is another once an upgrade is carried out, and the task goes on. -/
theorem SocketTask.stream_after (t : SocketTask) {report : SocketReport}
    (goesOn : report.isLast = false) : (t.after report).stream =
      if report.order?.any Order.isUpgrade then .upgraded else t.stream := by
  cases report with
  | upgraded result =>
    cases result with
    | ok => rfl
    | error err => exact absurd goesOn (by simp [SocketReport.isLast])
  | _ => rfl

namespace SocketMachine

variable {admitted : Operation H → Prop} {begin s t : SocketMachine H}
  {label : Label H ⊕ SocketReport} {steps : List (Step H)} {e : Endpoint H} {limit : UInt64}
  {secure : Bool} {given : List Order} {old : List Event}

/-! ### What is handed over -/

/-- The orders that a move puts on the channel. -/
def Step.handed (step : Step H) : List Order :=
  match step.label with
  | .inl _ => step.after.orders.drop step.before.orders.length
  | .inr _ => []

/-- The orders that the connection hands over in the course of a session. -/
def handed (steps : List (Step H)) : List Order := steps.flatMap Step.handed

/-- The orders that a move hands over come to stand behind the others. -/
theorem handed_move {c c' : Channel} (found : s.channel? = some c) (found' : t.channel? = some c')
    (orders : c'.orders = c.orders ++ given) (l : Label H) :
    Step.handed ⟨s, .inl l, t⟩ = given := by
  rw [Step.handed, orders_of_found found, orders_of_found found', orders]
  exact List.drop_left

theorem handed_concat (steps : List (Step H)) (step : Step H) :
    handed (steps ++ [step]) = handed steps ++ step.handed := by
  simp [handed]

/-- The calls of its channel that the connection makes in a move. -/
def Step.asked (step : Step H) : List Event := step.after.calls.drop step.before.calls.length

/-- The orders of the calls that the channel accepts in a move.  Where the channel is only being
handed over it is the fresh one. -/
def Step.accepted (fresh : Channel) (step : Step H) : List Order :=
  (step.before.channel?.getD fresh).accepted step.asked

theorem asked_move {calls : List Event} (called : t.calls = s.calls ++ calls) :
    Step.asked ⟨s, label, t⟩ = calls := by
  rw [Step.asked, called]
  exact List.drop_left

theorem handed_eq_accepted_move (found : ∃ c, s.channel? = some c) (move : Move admitted s label t)
    (fresh : Channel) : Step.handed ⟨s, label, t⟩ = Step.accepted fresh ⟨s, label, t⟩ := by
  obtain ⟨c, found⟩ := found
  obtain ⟨c', calls, found', called, passes⟩ := channel_move found move
  rw [Step.accepted, asked_move called, found]
  cases label with
  | inl l =>
    obtain ⟨given, takes⟩ := passes
    exact (handed_move found found' takes.orders l).trans takes.accepted
  | inr report =>
    obtain ⟨rfl, -⟩ := passes
    rfl

/-- The channel stays where it is. -/
theorem channel?_of_trail (trail : Trail admitted begin steps s)
    (found : ∃ c, begin.channel? = some c) : ∃ c, s.channel? = some c := by
  induction trail with
  | nil => exact found
  | snoc trail move ih =>
    obtain ⟨c, there⟩ := ih
    obtain ⟨c', -, there', -⟩ := channel_move there move
    exact ⟨c', there'⟩

/-- **The connection hands over what the channel accepts.** -/
theorem handed_eq_accepted (trail : Trail admitted begin steps s)
    (found : ∃ c, begin.channel? = some c) (fresh : Channel) :
    ∀ step ∈ steps, step.handed = step.accepted fresh := by
  induction trail with
  | nil => simp
  | snoc trail move ih =>
    intro step mem
    rcases List.mem_append.mp mem with earlier | now
    · exact ih step earlier
    · obtain rfl := List.mem_singleton.mp now
      exact handed_eq_accepted_move (channel?_of_trail trail found) move fresh

/-! ### What is sent -/

/-- The bytes that a move writes to a stream. -/
def Step.sentTo? (stream : SocketStream) (step : Step H) : Option Bytes :=
  match step.label with
  | .inl _ => none
  | .inr report => if step.before.task.stream = stream then report.bytes? else none

/-- What a session writes to a stream. -/
def sentTo (stream : SocketStream) (steps : List (Step H)) : List Bytes :=
  steps.filterMap (Step.sentTo? stream)

theorem sentTo_concat (stream : SocketStream) (steps : List (Step H)) (step : Step H) :
    sentTo stream (steps ++ [step]) = sentTo stream steps ++ (step.sentTo? stream).toList := by
  rw [sentTo, List.filterMap_append, sentTo]
  cases h : step.sentTo? stream <;> simp [h]

/-- Orders are carried out so far: their lines are sent, each to the stream that was in use. -/
structure CarriedOut (done : List Order) (steps : List (Step H)) (task : SocketTask) : Prop where
  /-- The plain stream is sent the lines from before the upgrade. -/
  plain : sentTo .opened steps = Order.plainLines done
  /-- The other stream is sent the lines from after it. -/
  secure : sentTo .upgraded steps = Order.secureLines done
  /-- The stream in use is another since the upgrade. -/
  stream : task.stream = if done.any Order.isUpgrade then .upgraded else .opened

/-- The task has carried out the orders that the connection has handed over, in their order and up
to those that still stand on the channel. -/
structure Conveys (old : List Event) (given : List Order) (steps : List (Step H))
    (s : SocketMachine H) : Prop where
  /-- The channel is there. -/
  channel : ∃ c, s.channel? = some c
  /-- The lines that were handed over are those that the channel has accepted. -/
  lines : ∃ calls, s.calls = old ++ calls ∧
    given.filterMap Order.bytes? = calls.filterMap Event.bytes?
  /-- The plain stream is sent lines from before the upgrade. -/
  plain : sentTo .opened steps <+: Order.plainLines given
  /-- The other stream is sent lines from after it. -/
  secure : sentTo .upgraded steps <+: Order.secureLines given
  /-- Each turn has carried out an order, but for the last. -/
  queue : s.last = false → ∃ done, given = done ++ s.orders ∧ CarriedOut done steps s.task

/-- Within a turn nothing is sent. -/
theorem sentTo_inside (stream : SocketStream) (steps : List (Step H)) (l : Label H) :
    sentTo stream (steps ++ [⟨s, .inl l, t⟩]) = sentTo stream steps := by
  rw [sentTo_concat, Step.sentTo?, Option.toList_none, List.append_nil]

/-- In the last turn nothing is sent either. -/
theorem sentTo_last (stream : SocketStream) (steps : List (Step H)) {report : SocketReport}
    (last : report.isLast = true) :
    sentTo stream (steps ++ [⟨s, .inr report, t⟩]) = sentTo stream steps := by
  have nothing : Step.sentTo? stream ⟨s, .inr report, t⟩ = none := by
    simp [Step.sentTo?, report.bytes?_of_last last]
  rw [sentTo_concat, nothing, Option.toList_none, List.append_nil]

namespace CarriedOut

variable {done : List Order}

theorem inside (carried : CarriedOut done steps s.task) {l : Label H}
    (move : Move admitted s (.inl l) t) :
    CarriedOut done (steps ++ [⟨s, .inl l, t⟩]) t.task where
  plain := (sentTo_inside _ _ _).trans carried.plain
  secure := (sentTo_inside _ _ _).trans carried.secure
  stream := by cases move <;> exact carried.stream

/-- A turn that is not the last carries out the order of its report. -/
theorem turn (carried : CarriedOut done steps s.task) {report : SocketReport}
    (move : Move admitted s (.inr report) t) (goesOn : report.isLast = false) :
    CarriedOut (done ++ report.order?.toList) (steps ++ [⟨s, .inr report, t⟩]) t.task := by
  obtain ⟨plain, secure, stream⟩ := carried
  have task : t.task.stream =
      if report.order?.any Order.isUpgrade then .upgraded else s.task.stream := by
    cases move
    exact s.task.stream_after goesOn
  have sent (stream : SocketStream) : Step.sentTo? stream ⟨s, .inr report, t⟩ =
      if s.task.stream = stream then report.order?.bind Order.bytes? else none := by
    rw [report.bytes?_order?]
    rfl
  cases order : report.order? with
  | none =>
    rw [order] at task sent
    refine ⟨?_, ?_, ?_⟩
    · simpa [sentTo_concat, sent] using plain
    · simpa [sentTo_concat, sent] using secure
    · simpa [task] using stream
  | some order' =>
    rw [order] at task sent
    -- the stream in use is the one that the order's line is for
    obtain ⟨morePlain, moreSecure⟩ := Order.lines_concat done order'
    cases upgraded : done.any Order.isUpgrade <;> rw [upgraded] at stream morePlain moreSecure
    all_goals
      refine ⟨?_, ?_, ?_⟩
      · simp [sentTo_concat, sent, stream, plain, morePlain]
      · simp [sentTo_concat, sent, stream, secure, moreSecure]
      · simp [task, stream, upgraded]

end CarriedOut

/-- A move hands orders over, or carries one out. -/
theorem conveys_move (conveys : Conveys old given steps s) (move : Move admitted s label t) :
    Conveys old (given ++ Step.handed ⟨s, label, t⟩) (steps ++ [⟨s, label, t⟩]) t := by
  obtain ⟨⟨c, found⟩, ⟨calls, called, lines⟩, plain, secure, queue⟩ := conveys
  obtain ⟨c', new, found', called', passes⟩ := channel_move found move
  have called : t.calls = old ++ (calls ++ new) := by rw [called', called, List.append_assoc]
  cases label with
  | inl l =>
    obtain ⟨more, takes⟩ := passes
    have handed : Step.handed ⟨s, .inl l, t⟩ = more := handed_move found found' takes.orders l
    have grows : given <+: given ++ more := List.prefix_append _ _
    rw [handed]
    refine ⟨⟨c', found'⟩, ⟨_, called, ?_⟩, ?_, ?_, ?_⟩
    · rw [List.filterMap_append, List.filterMap_append, lines, takes.lines]
    · rw [sentTo_inside]
      exact plain.trans (Order.plainLines_mono grows)
    · rw [sentTo_inside]
      exact secure.trans (Order.secureLines_mono grows)
    · intro goesOn
      obtain ⟨done, all, carried⟩ := queue (move.goesOn goesOn)
      refine ⟨done, ?_, carried.inside move⟩
      rw [orders_of_found found', takes.orders, ← List.append_assoc, ← orders_of_found found,
        ← all]
  | inr report =>
    obtain ⟨rfl, -, taken⟩ := passes
    rw [Step.handed, List.append_nil]
    have lines : given.filterMap Order.bytes? = (calls ++ []).filterMap Event.bytes? := by
      rw [List.append_nil, lines]
    -- the last turn writes nothing, whatever it takes from the channel
    cases ends : report.isLast with
    | true =>
      refine ⟨⟨c', found'⟩, ⟨_, called, lines⟩, ?_, ?_, ?_⟩
      · rw [sentTo_last _ _ ends]
        exact plain
      · rw [sentTo_last _ _ ends]
        exact secure
      · intro goesOn
        exact absurd (move.last_eq.symm.trans goesOn) (by simp [ends])
    | false =>
      have still := move.last_eq.trans ends
      obtain ⟨done, all, carried⟩ := queue (move.goesOn still)
      have carried' := carried.turn move ends
      have whole : given = done ++ report.order?.toList ++ t.orders := by
        rw [all, orders_of_found found, taken still, orders_of_found found', List.append_assoc]
      have among : done ++ report.order?.toList <+: given := ⟨_, whole.symm⟩
      exact ⟨⟨c', found'⟩, ⟨_, called, lines⟩, carried'.plain ▸ Order.plainLines_mono among,
        carried'.secure ▸ Order.secureLines_mono among, fun _ => ⟨_, whole, carried'⟩⟩

/-- **The orders of a session are carried out in their order.** -/
theorem conveys_of_trail {earlier : List (Step H)} (trail : Trail admitted begin steps s)
    (conveys : Conveys old given earlier begin) :
    Conveys old (given ++ handed steps) (earlier ++ steps) s := by
  induction trail with
  | nil => simpa [handed] using conveys
  | snoc trail move ih =>
    rw [handed_concat, ← List.append_assoc, ← List.append_assoc]
    exact conveys_move ih move

/-- The socket that is handed over has nothing to carry out, but to close if nobody waits. -/
theorem conveys_connected (e : Endpoint H) (limit : UInt64) (secure : Bool)
    (unsent : ∀ stream, sentTo stream steps = []) :
    Conveys (e.callsOf e.transports.length) (connected e limit secure).orders steps
      (connected e limit secure) := by
  obtain ⟨c, calls, given, found, called, takes⟩ := channel?_connected e limit secure
  have orders : (connected e limit secure).orders = given :=
    (orders_of_found found).trans takes.orders
  rw [orders]
  refine ⟨⟨c, found⟩, ⟨calls, called, takes.lines⟩, ?_, ?_, fun _ => ⟨[], orders.symm, ?_⟩⟩
  · exact unsent .opened ▸ List.nil_prefix
  · exact unsent .upgraded ▸ List.nil_prefix
  · exact ⟨unsent .opened, unsent .upgraded, rfl⟩

/-! ### The beginning -/

theorem channel?_start (e : Endpoint H) (limit : UInt64) (secure : Bool) :
    (start e limit secure).channel? = none := by
  simp [channel?, SocketTask.channel?, start, SocketTask.start]

theorem orders_start (e : Endpoint H) (limit : UInt64) (secure : Bool) :
    (start e limit secure).orders = [] := by
  rw [orders, channel?_start]
  rfl

/-- While time passes nothing is asked for, nothing is handed over and nothing is sent. -/
theorem quiet_of_waits (waits : ∀ step ∈ steps, step.Waits e limit secure) (fresh : Channel) :
    handed steps = [] ∧ (∀ step ∈ steps, step.handed = step.accepted fresh) ∧
      ∀ stream, sentTo stream steps = [] := by
  have quiet (step : Step H) (mem : step ∈ steps) : step.handed = [] ∧ step.asked = [] := by
    obtain ⟨clock, clock', rfl⟩ := waits step mem
    refine ⟨?_, List.drop_length⟩
    simp only [Step.handed, orders_start, List.drop_nil]
  refine ⟨List.flatMap_eq_nil_iff.mpr fun step mem => (quiet step mem).1, ?_, ?_⟩
  · intro step mem
    rw [(quiet step mem).1, Step.accepted, (quiet step mem).2]
    rfl
  · intro stream
    apply List.filterMap_eq_nil_iff.mpr
    intro step mem
    obtain ⟨clock, clock', rfl⟩ := waits step mem
    rfl

/-- The move that hands the socket over hands over what the new channel accepts. -/
theorem handed_connected (e : Endpoint H) (limit : UInt64) (secure : Bool) (l : Label H) :
    Step.handed ⟨start e limit secure, .inl l, connected e limit secure⟩ =
        (connected e limit secure).orders ∧
    Step.handed ⟨start e limit secure, .inl l, connected e limit secure⟩ =
      Step.accepted { limit, secure }
        ⟨start e limit secure, .inl l, connected e limit secure⟩ := by
  obtain ⟨c, calls, given, found, called, takes⟩ := channel?_connected e limit secure
  have all : Step.handed ⟨start e limit secure, .inl l, connected e limit secure⟩ =
      (connected e limit secure).orders := by
    rw [Step.handed, orders_start]
    rfl
  refine ⟨all, ?_⟩
  have asked : Step.asked ⟨start e limit secure, .inl l, connected e limit secure⟩ = calls :=
    asked_move called
  rw [all, Step.accepted, asked, channel?_start, orders_of_found found, takes.orders]
  exact takes.accepted

/-- **Nothing that is written after an upgrade was asked for goes out in clear.**  The plain stream
is sent lines from before the upgrade, and the stream that the handshake has returned is sent lines
from after it, each in the order of the queue and up to some line; what follows is never sent.  The
orders are those of the calls that the channel has accepted, an upgrade at its place among the
lines, and the lines are those that the trace tells of. -/
theorem nothing_in_clear (trail : Trail Operation.Any (start e limit false) steps s) :
    sentTo .opened steps <+: Order.plainLines (handed steps) ∧
    sentTo .upgraded steps <+: Order.secureLines (handed steps) ∧
    (∀ step ∈ steps, step.handed = step.accepted { limit }) ∧
    ∃ calls, s.calls = e.callsOf s.task.channel ++ calls ∧
      (handed steps).filterMap Order.bytes? = calls.filterMap Event.bytes? := by
  rcases begins_of_trail trail with
    ⟨clock, -, rfl, waited⟩ | ⟨clock, waits, rest, -, rfl, waited, trail⟩
  · obtain ⟨none, accepted, unsent⟩ := quiet_of_waits waited { limit }
    rw [none, unsent, unsent]
    exact ⟨List.nil_prefix, List.nil_prefix, accepted, [], (List.append_nil _).symm, rfl⟩
  · obtain ⟨none, accepted, unsent⟩ := quiet_of_waits waited { limit }
    obtain ⟨all, accepts⟩ := handed_connected { e with clock } limit false .work
    obtain ⟨c, -, -, found, -⟩ := channel?_connected { e with clock } limit false
    have before (stream : SocketStream) : sentTo stream (waits ++ [⟨start { e with clock } limit
        false, .inl .work, connected { e with clock } limit false⟩]) = [] :=
      (sentTo_inside stream waits .work).trans (unsent stream)
    have conveys := conveys_of_trail trail (conveys_connected { e with clock } limit false before)
    rw [List.append_assoc, List.singleton_append] at conveys
    have whole : handed (waits ++ ⟨start { e with clock } limit false, .inl .work,
        connected { e with clock } limit false⟩ :: rest) =
          (connected { e with clock } limit false).orders ++ handed rest := by
      rw [handed, List.flatMap_append, List.flatMap_cons, ← handed, none, all]
      rfl
    have task : s.task.channel = e.transports.length := (task_of_run trail.run).1
    rw [whole, task]
    refine ⟨conveys.plain, conveys.secure, ?_, conveys.lines⟩
    exact List.forall_mem_append.mpr ⟨accepted, List.forall_mem_cons.mpr
      ⟨accepts, handed_eq_accepted trail ⟨c, found⟩ { limit }⟩⟩

/-- Who is greeted writes a line, asks for an upgrade and writes another line at once. -/
def upgradesAtOnce : List (Choice Nat) :=
  [.proceed, .proceed, .proceed, .operate (.writeLine "a"), .operate (.upgrade 2),
    .operate (.writeLine "b"), .leave, .proceed, .proceed, .proceed]

/-- The first line is written, the socket becomes secure, and the other line is written. -/
def bothSent : SocketMachine Nat :=
  (((((greeted.played upgradesAtOnce).reported (.wrote [97, 13, 10] (.ok ()))).played
    [.proceed, .proceed]).reported (.upgraded (.ok ()))).played
    [.proceed, .proceed, .leave, .proceed, .proceed]).reported (.wrote [98, 13, 10] (.ok ()))

/-- The line that was written while the upgrade was due goes out on the secure stream. -/
theorem both_sent_apart : ∃ steps, Trail Operation.Any begun steps bothSent ∧
    Order.plainLines (handed steps) = [[97, 13, 10]] ∧
    Order.secureLines (handed steps) = [[98, 13, 10]] ∧
    sentTo .opened steps <+: [[97, 13, 10]] ∧ sentTo .upgraded steps = [[98, 13, 10]] := by
  have begins : Trail Operation.Public begun [] _ := .nil
  have waiting := begins.played [.proceed, .proceed, .proceed] (by decide)
  have asked := (waiting.reported (.read [50, 50, 48, 32, 104, 105, 13, 10]) (by decide)
    (.read (by simp) rfl)).played upgradesAtOnce (by decide)
  have written := (asked.reported (.wrote [97, 13, 10] (.ok ())) (by decide)
    (.wrote (.ok ()) rfl)).played [.proceed, .proceed] (by decide)
  have secured := (written.reported (.upgraded (.ok ())) (by decide)
    (.upgraded (.ok ()) rfl)).played
    [.proceed, .proceed, .leave, .proceed, .proceed] (by decide)
  have sent := secured.reported (.wrote [98, 13, 10] (.ok ())) (by decide) (.wrote (.ok ()) rfl)
  have trail : Trail Operation.Any begun _ _ := sent.mono fun _ _ => trivial
  exact ⟨_, trail, rfl, rfl, (nothing_in_clear trail).1, rfl⟩

end SocketMachine

end SmtpLink
