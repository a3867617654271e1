import SmtpLink.Proofs.Dealings
import SmtpLink.Proofs.Sessions

/-!
# What the moves of a session do

The application may ask for anything but to open the connection and to tell it of its socket,
which is what the socket task does.  Whatever is asked for, a session begins with the socket that
is handed over, and each of its moves does one of three things: some work is done, or nothing but
time passes for the connection, or a turn begins.  In a turn the task tends its channel, which
takes the oldest order away, and leaves the connection as it is.

## Main definitions

* `Operation.Public` — what the application may ask for.
* `Channel.served`, `SocketTask.Tends` — what the task does at its channel in a turn.
* `SocketMachine.dues` — the work that is due, calls apart.
* `SocketMachine.Act` — what a move of a session does.
* `SocketMachine.Trail` — a session with all its moves.
* `SocketMachine.connected` — a session whose socket was just handed over.

## Main results

* `SocketMachine.Move.act` — **the three kinds of move.**
* `SocketMachine.begins_of_run` — every session begins with the socket that is handed over.
* `SocketMachine.channel_move` — **the connection lets its channel grow, and the task serves it.**
-/

namespace SmtpLink

variable {H : Type}

/-- What the application may ask for: neither to open the connection, nor to be told of the
socket. -/
def Operation.isPublic : Operation H → Bool
  | .dial _ _ _ | .connected _ | .connectFailed _ | .input _ | .fault _ | .closed | .drained
  | .upgraded _ | .timeout _ => false
  | _ => true

/-- The operations that the application may ask for. -/
abbrev Operation.Public (operation : Operation H) : Prop := operation.isPublic = true

/-- The move goes on with a turn, and asks only for what is admitted. -/
def Label.isAdmitted (rule : Operation H → Bool) : Label H → Bool
  | .operate operation => rule operation
  | .outside => false
  | _ => true

/-- The work opens the connection, or hands a socket over. -/
def Work.isOpening : Work H → Bool
  | .perform (.dial _ _ _) | .perform (.connected _) => true
  | _ => false

/-- The work that is due, unless it is a call. -/
def Frame.due? : Frame H → Option (Work H)
  | .work w => if w.isCall then none else some w
  | .code => none

/-- The order that a report is of, while turns will follow. -/
def SocketReport.order? : SocketReport → Option Order
  | .wrote data _ => some (.write data)
  | .upgraded _ => some .upgrade
  | _ => none

namespace Work

variable {w : Work H}

theorem not_opening_of_not_perform (h : w.isPerform = false) : w.isOpening = false := by
  cases w with
  | perform operation => exact absurd h (by simp [isPerform])
  | _ => rfl

theorem not_opening_of_public {operation : Operation H} (h : operation.Public) :
    (Work.perform operation).isOpening = false := by
  cases operation <;> first | rfl | exact absurd h (by simp [Operation.isPublic])

theorem not_dial_of_not_opening (h : w.isOpening = false) : w.isDial = false := by
  cases w with
  | perform operation => cases operation <;> simp_all [isOpening, isDial]
  | _ => rfl

theorem ne_connected_of_not_opening (h : w.isOpening = false) (t : Transport) :
    w ≠ .perform (.connected t) := by
  rintro rfl
  exact absurd h (by simp [isOpening])

end Work

/-! ### The task at its channel -/

/-- What the task does to its channel in a turn: an order is taken, bytes that were written are
acknowledged, and a socket that has become secure is noted. -/
def Channel.served (c : Channel) (low : UInt64) : SocketReport → Channel
  | .wrote data _ => (c.receive.2.written (lengthWord data) low).2
  | .upgraded (.ok ()) => c.receive.2.setSecure
  | _ => c.receive.2

namespace Channel

variable (c : Channel) (low : UInt64) (report : SocketReport)

theorem receive_snd : c.receive.2 = { c with orders := c.orders.tail } := by
  unfold receive
  split
  · next orders => simp [orders]
  · next orders =>
    rw [orders, List.tail_nil, ← orders]

/-- An order that is received was the oldest. -/
theorem orders_of_receive {c : Channel} {order : Order} (h : c.receive.1 = .order order) :
    c.orders = order :: c.orders.tail := by
  unfold receive at h
  split at h
  · next first rest orders =>
    obtain rfl := Receipt.order.inj h
    rw [orders, List.tail_cons]
  · split at h <;> exact absurd h (by simp)

/-- Only where no order stands is none received. -/
theorem orders_eq_nil_of_receive {c : Channel} (h : ∀ order, c.receive.1 ≠ .order order) :
    c.orders = [] := by
  cases orders : c.orders with
  | nil => rfl
  | cons order rest => exact absurd (by rw [receive, orders]) (h order)

/-- How much is left when bytes are acknowledged: never less than nothing. -/
def leftAfter (length : UInt64) : UInt64 := if length ≤ c.queued then c.queued - length else 0

/-- A drain is reported if the queue was found full and has come down to the mark. -/
theorem written_fst (length : UInt64) : (c.written length low).1 =
    if c.leftAfter length ≤ low then c.reportedFull else false := by
  show (if c.leftAfter length ≤ low then _ else _ : Bool × Channel).1 = _
  split <;> rfl

theorem written_snd (length : UInt64) : (c.written length low).2 = { c with
    queued := c.queued - length
    reportedFull := if c.leftAfter length ≤ low then false else c.reportedFull } := by
  show (if c.leftAfter length ≤ low then _ else _ : Bool × Channel).2 = _
  split <;> rfl

/-- Only the oldest order is taken. -/
theorem orders_served : (c.served low report).orders = c.orders.tail := by
  unfold served
  split <;> simp [written_snd, receive_snd, setSecure]

theorem limit_served : (c.served low report).limit = c.limit := by
  unfold served
  split <;> simp [written_snd, receive_snd, setSecure]

theorem closed_served : (c.served low report).closed = c.closed := by
  unfold served
  split <;> simp [written_snd, receive_snd, setSecure]

theorem receiverGone_served : (c.served low report).receiverGone = c.receiverGone := by
  unfold served
  split <;> simp [written_snd, receive_snd, setSecure]

end Channel

namespace SocketTask

variable {t : SocketTask} {handles : Bool} {e e' e'' : Endpoint H} {c : Channel}
  {report : SocketReport}

theorem channel?_eq_some :
    t.channel? e = some c ↔ e.transports[t.channel]? = some (.channel c) := by
  unfold channel?
  split <;> simp_all

/-- The task serves one channel, whichever stream it uses. -/
theorem channel?_after (t : SocketTask) (report : SocketReport) (e : Endpoint H) :
    (t.after report).channel? e = t.channel? e := by
  rw [channel?, channel?, channel_after]

theorem channel?_setChannel (found : t.channel? e = some c) (c' : Channel) :
    t.channel? (t.setChannel e c') = some c' := by
  have lt := (List.getElem?_eq_some_iff.mp (channel?_eq_some.mp found)).1
  exact channel?_eq_some.mpr (List.getElem?_set_self lt)

/-- The task works at its channel, or remarks something. -/
structure Tends (e e' : Endpoint H) : Prop where
  /-- Nothing else is done. -/
  effects : Endpoint.Effects true e e'
  /-- The connection stays. -/
  conn : e'.conn = e.conn
  /-- The same task runs. -/
  task : e'.task = e.task
  /-- The listener hears nothing. -/
  accounts : e'.accounts = e.accounts
  /-- The connection calls no transport. -/
  calls : ∀ id, e'.callsOf id = e.callsOf id

namespace Tends

theorem refl (e : Endpoint H) : Tends e e := ⟨.refl e, rfl, rfl, rfl, fun _ => rfl⟩

theorem trans (h : Tends e e') (h' : Tends e' e'') : Tends e e'' :=
  ⟨h.effects.append h'.effects, h'.conn.trans h.conn, h'.task.trans h.task,
    h'.accounts.trans h.accounts, fun id => (h'.calls id).trans (h.calls id)⟩

theorem drift (found : t.channel? e = some c) {c' : Channel}
    (drift : (Transport.channel c).Drift (.channel c')) : Tends e (t.setChannel e c') :=
  ⟨(Endpoint.Effect.outside (.drift (channel?_eq_some.mp found) drift)).single, rfl, rfl, rfl,
    fun _ => rfl⟩

theorem remark (e : Endpoint H) {r : Remark} (plain : (Event.remark r).isPlain = true) :
    Tends e (e.remark r) :=
  ⟨Endpoint.effects_remark plain, rfl, rfl, (e.accounts_emit (.remark r)).trans (List.append_nil _),
    e.callsOf_remark r⟩

end Tends

theorem tends_takeOrder (t : SocketTask) (e : Endpoint H) : Tends e (t.takeOrder e).2 := by
  unfold takeOrder
  split
  · exact .refl e
  · next c found => exact .drift found (.received c)

theorem tends_answer (t : SocketTask) (e : Endpoint H) (report : SocketReport) :
    Tends e (t.answer e report).1 := by
  have acknowledged (data : Bytes) : Tends e (t.acknowledge e data).2 := by
    unfold acknowledge
    split
    · exact .refl e
    · next c found => exact .drift found (.written c _ _)
  have secured : Tends e (t.secure e) := by
    unfold secure
    split
    · exact .refl e
    · next c found => exact .drift found (.secured c)
  cases report with
  | wrote data result => cases result <;> exact acknowledged data
  | upgraded result =>
    cases result with
    | ok => exact secured.trans (.remark _ rfl)
    | error err => exact .remark e rfl
  | shutDown result =>
    cases result with
    | ok => exact .refl e
    | error fault => exact .remark e rfl
  | handlesDropped => exact .remark e rfl
  | _ => exact .refl e

/-- What the task does before the work of a turn. -/
theorem Due.tends (due : t.Due handles e report e') : Tends e (t.answer e' report).1 := by
  rw [due.eq_takeOrder]
  exact (t.tends_takeOrder e).trans (t.tends_answer _ report)

theorem takeOrder_of_found (found : t.channel? e = some c) :
    t.takeOrder e = (c.receive.1, t.setChannel e c.receive.2) := by
  rw [takeOrder, found]

/-- In a turn the channel is served. -/
theorem Due.channel? (due : t.Due handles e report e') (found : t.channel? e = some c) :
    t.channel? (t.answer e' report).1 = some (c.served (t.limit / 2) report) := by
  rw [due.eq_takeOrder, takeOrder_of_found found]
  have taken := channel?_setChannel found c.receive.2
  cases report with
  | wrote data result =>
    have acknowledged : t.channel? (t.acknowledge (t.setChannel e c.receive.2) data).2 =
        some (c.served (t.limit / 2) (.wrote data result)) := by
      rw [acknowledge, taken]
      exact channel?_setChannel taken _
    cases result <;> exact acknowledged
  | upgraded result =>
    cases result with
    | ok =>
      show t.channel? (t.secure (t.setChannel e c.receive.2)) = _
      rw [secure, taken]
      exact channel?_setChannel taken _
    | error err => exact taken
  | shutDown result => cases result <;> exact taken
  | _ => exact taken

/-- In a turn that is not the last the order of the report is taken, or none stood there. -/
theorem Due.orders (due : t.Due handles e report e') (found : t.channel? e = some c)
    (goesOn : report.isLast = false) :
    c.orders = report.order?.toList ++ (c.served (t.limit / 2) report).orders := by
  rw [c.orders_served]
  -- a report is of the order that was taken, and comes by itself only if none stood there
  have receipt : (t.takeOrder e).1 = c.receive.1 := by rw [takeOrder_of_found found]
  have first {order : Order} (h : (t.takeOrder e).1 = .order order) :
      c.orders = order :: c.orders.tail := Channel.orders_of_receive (receipt.symm.trans h)
  have nothing (h : (t.takeOrder e).1 = .nothing) : c.orders = c.orders.tail := by
    rw [Channel.orders_eq_nil_of_receive fun order => by simp [← receipt, h], List.tail_nil]
  cases due with
  | wrote result taken | upgraded result taken => exact first (by rw [taken])
  | closed | disconnected | readEnd | readFailed =>
    exact absurd goesOn (by simp [SocketReport.isLast])
  | closure mayCome taken | handlesDropped mayCome taken | read nonempty taken
  | deadline timer passed taken => exact nothing (by rw [taken])

/-- A turn is operations and the deferred tasks after them, and opens nothing. -/
theorem exists_turn (t : SocketTask) (e : Endpoint H) (report : SocketReport) :
    ∃ operations, (t.answer e report).2 = turn operations ∧
      ∀ operation ∈ operations, (Work.perform operation).isOpening = false := by
  cases report with
  | wrote data result =>
    cases result with
    | ok =>
      refine ⟨if (t.acknowledge e data).1 then [.drained] else [], rfl, ?_⟩
      cases (t.acknowledge e data).1 <;> simp [Work.isOpening]
    | error fault => exact ⟨_, rfl, by simp [Work.isOpening]⟩
  | upgraded result => cases result <;> exact ⟨_, rfl, by simp [Work.isOpening]⟩
  | shutDown result => cases result <;> exact ⟨_, rfl, by simp [Work.isOpening]⟩
  | _ => exact ⟨_, rfl, by simp [Work.isOpening]⟩

/-- The work of a turn opens nothing, and is no call. -/
theorem not_opening_answer (t : SocketTask) (e : Endpoint H) (report : SocketReport) {w : Work H}
    (mem : w ∈ (t.answer e report).2) : w.isOpening = false ∧ w.isCall = false := by
  obtain ⟨operations, work, opens⟩ := t.exists_turn e report
  rw [work, turn, List.mem_append, List.mem_map, List.mem_singleton] at mem
  rcases mem with ⟨operation, mem, rfl⟩ | rfl
  · exact ⟨opens operation mem, rfl⟩
  · exact ⟨rfl, rfl⟩

end SocketTask

namespace SocketMachine

variable {admitted : Operation H → Prop} {begin s t u : SocketMachine H}
  {label : Label H ⊕ SocketReport} {labels labels' : List (Label H ⊕ SocketReport)}
  {e : Endpoint H} {limit : UInt64} {secure : Bool}

/-! ### Moves -/

/-- The work that is due, first things first, calls of handlers apart. -/
def dues (s : SocketMachine H) : List (Work H) := s.machine.frames.filterMap Frame.due?

/-- What a move of a session does, whatever the application may ask for. -/
inductive Act (admitted : Operation H → Prop) :
    SocketMachine H → Label H ⊕ SocketReport → SocketMachine H → Prop
  /-- Work is done: the first that is due, or an operation that is asked for. -/
  | work {s t : SocketMachine H} {l : Label H} {w : Work H} {below : List (Work H)}
      (kind : s.dues = w :: below ∨
        s.dues = below ∧ ∃ operation, w = .perform operation ∧ admitted operation)
      (endpoint : t.machine.endpoint = (s.machine.endpoint.resume w).1)
      (dues : t.dues = (s.machine.endpoint.resume w).2.filter (fun v => !v.isCall) ++ below)
      (task : t.task = s.task) (last : t.last = s.last)
      (shown : Machine.Step.work? ⟨s.machine, l⟩ = some w) : Act admitted s (.inl l) t
  /-- Nothing but time passes for the connection. -/
  | pause {s t : SocketMachine H} {l : Label H}
      (endpoint : ∃ clock, s.machine.endpoint.clock ≤ clock ∧
        t.machine.endpoint = { s.machine.endpoint with clock })
      (dues : t.dues = s.dues) (task : t.task = s.task) (last : t.last = s.last) :
      Act admitted s (.inl l) t
  /-- A turn begins. -/
  | turn {s t : SocketMachine H} {report : SocketReport} {e : Endpoint H} (head : s.AtHead)
      (due : s.task.Due s.handles s.machine.endpoint report e)
      (endpoint : t.machine.endpoint = (s.task.answer e report).1)
      (dues : t.dues = (s.task.answer e report).2) (task : t.task = s.task.after report)
      (last : t.last = report.isLast) : Act admitted s (.inr report) t

theorem filterMap_due? (work : List (Work H)) :
    (work.map Frame.work).filterMap Frame.due? = work.filter fun w => !w.isCall := by
  induction work with
  | nil => rfl
  | cons w work ih => cases h : w.isCall <;> simp [Frame.due?, h, ih]

theorem AtHead.dues_eq_nil (head : s.AtHead) : s.dues = [] := by
  rw [dues, head.1, List.filterMap_nil]

/-- **The three kinds of move.** -/
theorem Move.act (move : Move admitted s label t) : Act admitted s label t := by
  obtain ⟨task, ⟨e, frames⟩, handles, last⟩ := s
  cases move with
  | inside move internal =>
    cases move with
    | @work _ w below noCall =>
      have call : w.isCall = false := Work.isCall_of_ne noCall
      have first : (Frame.work w :: below).filterMap Frame.due? =
          w :: below.filterMap Frame.due? := by
        simp [Frame.due?, call]
      refine .work (.inl first) rfl ?_ rfl rfl rfl
      rw [dues, List.filterMap_append, filterMap_due?]
    | @operate _ operation below isAdmitted =>
      have first : (Frame.code :: below).filterMap Frame.due? = below.filterMap Frame.due? := rfl
      refine .work (.inr ⟨first, operation, rfl, isAdmitted⟩) rfl ?_ rfl rfl rfl
      rw [dues, List.filterMap_append, filterMap_due?]
      rfl
    | call => exact .pause ⟨e.clock, Int.le_refl _, rfl⟩ rfl rfl rfl
    | leave => exact .pause ⟨e.clock, Int.le_refl _, rfl⟩ rfl rfl rfl
    | _ => exact absurd rfl internal
  | wait later => exact .pause ⟨_, later, rfl⟩ rfl rfl rfl
  | @turn report e' head due =>
    refine .turn head due rfl ?_ rfl rfl
    -- a turn calls no handler by itself, so all of its work is due
    have kept : (task.answer e' report).2.filter (fun w => !w.isCall) = (task.answer e' report).2 :=
      List.filter_eq_self.mpr fun w mem => by
        simp [(task.not_opening_answer e' report mem).2]
    have work := filterMap_due? (task.answer e' report).2
    rw [kept] at work
    cases report <;> exact work

/-- What every move keeps holds along a session. -/
theorem Run.invariant {P : SocketMachine H → Prop} (run : Run admitted s labels t)
    (keep : ∀ {a b : SocketMachine H} {l : Label H ⊕ SocketReport}, P a → Move admitted a l b → P b)
    (hs : P s) : P t := by
  induction run with
  | nil => exact hs
  | snoc run move ih => exact keep ih move

/-- A session that goes on went on before. -/
theorem Move.goesOn (move : Move admitted s label t) (h : t.last = false) : s.last = false := by
  cases move with
  | inside | wait => exact h
  | turn head => exact head.2

/-- The last turn is the one that starts from a last report. -/
theorem Move.last_eq {report : SocketReport} (move : Move admitted s (.inr report) t) :
    t.last = report.isLast := by
  cases move
  rfl

/-- No work that is due opens the connection or hands a socket over. -/
def Underway (s : SocketMachine H) : Prop := ∀ w ∈ s.dues, w.isOpening = false

namespace Underway

/-- Neither does any work that is done then. -/
theorem not_opening (underway : s.Underway) {w : Work H} {below : List (Work H)}
    (kind : s.dues = w :: below ∨
      s.dues = below ∧ ∃ operation, w = .perform operation ∧ operation.Public) :
    w.isOpening = false := by
  rcases kind with first | ⟨-, operation, rfl, isPublic⟩
  · exact underway w (first ▸ List.mem_cons_self)
  · exact Work.not_opening_of_public isPublic

theorem move (underway : s.Underway) (move : Move Operation.Public s label t) : t.Underway := by
  intro v mem
  cases move.act with
  | @work _ _ w below kind endpoint dues =>
    rw [dues, List.mem_append, List.mem_filter] at mem
    rcases mem with ⟨left, -⟩ | mem
    · exact Work.not_opening_of_not_perform
        ((Endpoint.leaves_resume s.machine.endpoint w).not_perform left)
    · rcases kind with first | ⟨first, -⟩
      · exact underway v (first ▸ List.mem_cons_of_mem w mem)
      · exact underway v (first ▸ mem)
  | pause endpoint dues => exact underway v (dues ▸ mem)
  | @turn _ report e head due endpoint dues =>
    rw [dues] at mem
    exact (s.task.not_opening_answer e report mem).1

theorem run (underway : s.Underway) (run : Run Operation.Public s labels t) : t.Underway :=
  run.invariant (fun underway move => underway.move move) underway

end Underway

/-- A move has no effect but single ones. -/
theorem effects_move (underway : s.Underway) (move : Move Operation.Public s label t) :
    Endpoint.Effects true s.machine.endpoint t.machine.endpoint := by
  cases move.act with
  | @work _ _ w below kind endpoint =>
    rw [endpoint]
    have opening := Work.not_dial_of_not_opening (underway.not_opening kind)
    exact Endpoint.effects_resume s.machine.endpoint w opening
  | pause endpoint =>
    obtain ⟨clock, later, endpoint⟩ := endpoint
    rw [endpoint]
    exact (Endpoint.Effect.outside (.wait later)).single
  | turn head due endpoint =>
    rw [endpoint]
    exact due.tends.effects

/-! ### The channel of the task -/

/-- The channel that the task serves. -/
def channel? (s : SocketMachine H) : Option Channel := s.task.channel? s.machine.endpoint

/-- The orders that stand on the channel, oldest first. -/
def orders (s : SocketMachine H) : List Order := (s.channel?.map Channel.orders).getD []

/-- The calls that the connection made of the channel. -/
def calls (s : SocketMachine H) : List Event := s.machine.endpoint.callsOf s.task.channel

theorem orders_of_found {c : Channel} (found : s.channel? = some c) : s.orders = c.orders := by
  rw [orders, found]
  rfl

/-- **Within a turn the connection lets the channel grow, and between the turns the task serves
it.** -/
theorem channel_move {c : Channel} (found : s.channel? = some c)
    (move : Move admitted s label t) : ∃ c' calls, t.channel? = some c' ∧
      t.calls = s.calls ++ calls ∧ match label with
        | .inl _ => ∃ given, c.Takes calls given c'
        | .inr report => calls = [] ∧ c' = c.served (s.task.limit / 2) report ∧
          (t.last = false → c.orders = report.order?.toList ++ c'.orders) := by
  have there : s.machine.endpoint.transports[s.task.channel]? = some (.channel c) :=
    SocketTask.channel?_eq_some.mp found
  cases move.act with
  | @work _ _ w below kind endpoint dues task =>
    have lt := (List.getElem?_eq_some_iff.mp there).1
    obtain ⟨calls, given, c', found', called, takes⟩ :=
      s.machine.endpoint.grows_resume lt w c there
    rw [← endpoint] at found' called
    refine ⟨c', calls, ?_, by rw [SocketMachine.calls, task]; exact called, given, takes⟩
    rw [channel?, task]
    exact SocketTask.channel?_eq_some.mpr found'
  | pause endpoint dues task =>
    obtain ⟨clock, -, endpoint⟩ := endpoint
    refine ⟨c, [], ?_, ?_, [], .refl c⟩
    · rw [channel?, task, endpoint]
      exact found
    · rw [calls, task, endpoint, List.append_nil]
      rfl
  | @turn _ report e head due endpoint dues task last =>
    refine ⟨c.served (s.task.limit / 2) report, [], ?_, ?_, rfl, rfl,
      fun goesOn => due.orders found (last.symm.trans goesOn)⟩
    · rw [channel?, task, SocketTask.channel?_after, endpoint]
      exact due.channel? found
    · rw [calls, task, SocketTask.channel_after, endpoint, due.tends.calls, List.append_nil]
      rfl

theorem task_move (move : Move admitted s label t) :
    t.task.channel = s.task.channel ∧ t.task.limit = s.task.limit := by
  cases move with
  | inside | wait => exact ⟨rfl, rfl⟩
  | turn => exact ⟨SocketTask.channel_after _ _, SocketTask.limit_after _ _⟩

/-- One task serves one channel. -/
theorem task_of_run (run : Run admitted s labels t) :
    t.task.channel = s.task.channel ∧ t.task.limit = s.task.limit :=
  run.invariant (P := fun u => u.task.channel = s.task.channel ∧ u.task.limit = s.task.limit)
    (fun same move => ⟨(task_move move).1.trans same.1, (task_move move).2.trans same.2⟩)
    ⟨rfl, rfl⟩

/-! ### Sessions with all their moves -/

/-- A move as it is remembered: the session before it, what it showed, and the session after
it. -/
structure Step (H : Type) where
  /-- The session before the move. -/
  before : SocketMachine H
  /-- What the move showed, or the report that a turn started from. -/
  label : Label H ⊕ SocketReport
  /-- The session after the move. -/
  after : SocketMachine H

/-- The work that a move does. -/
def Step.work? (step : Step H) : Option (Work H) :=
  match step.label with
  | .inl label => Machine.Step.work? ⟨step.before.machine, label⟩
  | .inr _ => none

theorem Move.endpoint_of_work? {w : Work H} (move : Move admitted s label t)
    (h : Step.work? ⟨s, label, t⟩ = some w) :
    t.machine.endpoint = (s.machine.endpoint.resume w).1 := by
  cases move with
  | inside move internal =>
    obtain ⟨frames, -, after⟩ := Machine.Due.of_work? h move
    exact congrArg Machine.endpoint after
  | wait => exact absurd h (by simp [Step.work?, Machine.Step.work?])
  | turn => exact absurd h (by simp [Step.work?])

/-- Work that is due stays so until it is done. -/
theorem Move.due_or_done {w : Work H} (move : Move admitted s label t) (due : w ∈ s.dues) :
    w ∈ t.dues ∨ Step.work? ⟨s, label, t⟩ = some w := by
  cases move.act with
  | @work _ _ v below kind endpoint dues task last shown =>
    rcases kind with first | ⟨first, -⟩
    · rw [first, List.mem_cons] at due
      rcases due with rfl | due
      · exact .inr shown
      · exact .inl (dues ▸ List.mem_append_right _ due)
    · exact .inl (dues ▸ List.mem_append_right _ (first ▸ due))
  | pause endpoint dues => exact .inl (dues ▸ due)
  | turn head => exact absurd due (by simp [head.dues_eq_nil])

/-- A session with all its moves, oldest first. -/
inductive Trail (admitted : Operation H → Prop) (begin : SocketMachine H) :
    List (Step H) → SocketMachine H → Prop
  /-- No move. -/
  | nil : Trail admitted begin [] begin
  /-- One move after others. -/
  | snoc {s t : SocketMachine H} {steps : List (Step H)} {label : Label H ⊕ SocketReport}
      (trail : Trail admitted begin steps s) (move : Move admitted s label t) :
      Trail admitted begin (steps ++ [⟨s, label, t⟩]) t

variable {steps : List (Step H)}

theorem Trail.run (trail : Trail admitted begin steps s) :
    Run admitted begin (steps.map Step.label) s := by
  induction trail with
  | nil => exact .nil begin
  | snoc trail move ih =>
    rw [List.map_append]
    exact .snoc ih move

/-- What may be asked for in a session may be asked for where more is admitted. -/
theorem Trail.mono {admitted' : Operation H → Prop} (trail : Trail admitted begin steps s)
    (h : ∀ operation, admitted operation → admitted' operation) :
    Trail admitted' begin steps s := by
  induction trail with
  | nil => exact .nil
  | @snoc s t steps label trail move ih =>
    refine ih.snoc ?_
    obtain ⟨task, m, handles, last⟩ := s
    cases move with
    | inside move internal =>
      refine .inside ?_ internal
      cases move with
      | work noCall => exact .work noCall
      | call => exact .call
      | operate isAdmitted => exact .operate (h _ isAdmitted)
      | leave => exact .leave
      | drift found drift => exact .drift found drift
      | wait later => exact .wait later
      | switch => exact .switch
    | wait later => exact .wait later
    | turn head due => exact .turn head due

/-- Every session leaves a trail. -/
theorem Run.exists_trail (run : Run admitted begin labels s) :
    ∃ steps, steps.map Step.label = labels ∧ Trail admitted begin steps s := by
  induction run with
  | nil => exact ⟨[], rfl, .nil⟩
  | snoc run move ih =>
    obtain ⟨steps, rfl, trail⟩ := ih
    exact ⟨_, List.map_append, .snoc trail move⟩

/-! ### How sessions begin -/

/-- A session whose socket was just handed over. -/
def connected (e : Endpoint H) (limit : UInt64) (secure : Bool) : SocketMachine H where
  task := (SocketTask.start e limit secure).1
  machine := ⟨e.connected (.channel { limit, secure }), [.work (.perform .runScheduled)]⟩
  handles := true
  last := false

/-- Time passes before the socket is handed over. -/
def Step.Waits (e : Endpoint H) (limit : UInt64) (secure : Bool) (step : Step H) : Prop :=
  ∃ clock clock', step = ⟨start { e with clock } limit secure, .inl .outside,
    start { e with clock := clock' } limit secure⟩

/-- The first thing that is done in a session is to hand the socket over. -/
theorem begins_of_trail (trail : Trail admitted (start e limit secure) steps s) :
    (∃ clock, e.clock ≤ clock ∧ s = start { e with clock } limit secure ∧
      ∀ step ∈ steps, step.Waits e limit secure) ∨
    ∃ clock waits rest, e.clock ≤ clock ∧
      steps = waits ++ ⟨start { e with clock } limit secure, .inl .work,
        connected { e with clock } limit secure⟩ :: rest ∧
      (∀ step ∈ waits, step.Waits e limit secure) ∧
      Trail admitted (connected { e with clock } limit secure) rest s := by
  induction trail with
  | nil => exact .inl ⟨e.clock, Int.le_refl _, rfl, by simp⟩
  | @snoc s t steps label trail move ih =>
    rcases ih with ⟨clock, late, rfl, waits⟩ | ⟨clock, waits, rest, late, rfl, waited, rest'⟩
    · cases move with
      | inside move internal =>
        cases move with
        | work noCall => exact .inr ⟨clock, steps, [], late, rfl, waits, .nil⟩
        | _ => exact absurd rfl internal
      | @wait now later =>
        refine .inl ⟨now, Int.le_trans late later, rfl, fun step mem => ?_⟩
        rcases List.mem_append.mp mem with mem | mem
        · exact waits step mem
        · exact ⟨clock, now, List.mem_singleton.mp mem⟩
      | turn head due =>
        -- no turn begins before the socket is handed over
        exact absurd head.1 (by simp [start, SocketTask.start, SocketTask.turn])
    · exact .inr ⟨clock, waits, rest ++ [⟨s, label, t⟩], late, by simp, waited, rest'.snoc move⟩

/-- **Every session begins with the socket that is handed over.** -/
theorem begins_of_run (run : Run admitted (start e limit secure) labels s)
    (idle : s.machine.frames = []) : ∃ clock rest, e.clock ≤ clock ∧ (∀ l ∈ rest, l ∈ labels) ∧
      Run admitted (connected { e with clock } limit secure) rest s := by
  obtain ⟨steps, rfl, trail⟩ := run.exists_trail
  rcases begins_of_trail trail with ⟨clock, -, rfl, -⟩ | ⟨clock, waits, rest, late, rfl, -, trail⟩
  · exact absurd idle (by simp [start, SocketTask.start, SocketTask.turn])
  · refine ⟨clock, _, late, fun l mem => ?_, trail.run⟩
    simp only [List.map_append, List.map_cons, List.mem_append, List.mem_cons]
    exact .inr (.inr mem)

theorem underway_connected (e : Endpoint H) (limit : UInt64) (secure : Bool) :
    (connected e limit secure).Underway := by
  intro w mem
  obtain rfl : w = .perform .runScheduled := List.mem_singleton.mp mem
  rfl

/-- The channel is new when it is handed over, but for the order to close it if nobody waits. -/
theorem channel?_connected (e : Endpoint H) (limit : UInt64) (secure : Bool) :
    ∃ c calls given, (connected e limit secure).channel? = some c ∧
      (connected e limit secure).calls = e.callsOf e.transports.length ++ calls ∧
      ({ limit, secure } : Channel).Takes calls given c := by
  obtain ⟨calls, given, c, found, called, takes⟩ :=
    Endpoint.grows_handedOver (k := e.transports.length) e (.channel { limit, secure })
      { limit, secure } (by simp)
  exact ⟨c, calls, given, SocketTask.channel?_eq_some.mpr found, called, takes⟩

/-! ### Sessions played by choices -/

/-- The moves of what is played of a session. -/
def tracked (s : SocketMachine H) : List (Choice H) → List (Step H)
  | [] => []
  | choice :: choices =>
    match s.machine.advance choice with
    | none => []
    | some (label, m) =>
      ⟨s, .inl label, { s with machine := m }⟩ :: tracked { s with machine := m } choices

/-- A choice that asks for nothing that is not admitted is a move. -/
theorem move_of_advance {rule : Operation H → Bool} {choice : Choice H} {l : Label H}
    {m : Machine H} (chosen : s.machine.advance choice = some (l, m))
    (admits : l.isAdmitted rule = true) :
    Move (fun operation => rule operation = true) s (.inl l) { s with machine := m } := by
  have move := Machine.move_of_advance chosen
  obtain ⟨task, k, handles, last⟩ := s
  cases move with
  | work noCall => exact .inside (.work noCall) (by simp)
  | call => exact .inside .call (by simp)
  | operate => exact .inside (.operate admits) (by simp)
  | leave => exact .inside .leave (by simp)
  | _ => exact absurd admits Bool.false_ne_true

namespace Trail

/-- What is played of a session leaves its trail. -/
theorem played {rule : Operation H → Bool}
    (trail : Trail (fun operation => rule operation = true) begin steps s)
    (choices : List (Choice H))
    (admits : ∀ l ∈ (s.machine.play choices).1, l.isAdmitted rule = true) :
    Trail (fun operation => rule operation = true) begin (steps ++ s.tracked choices)
      (s.played choices) := by
  induction choices generalizing s steps with
  | nil =>
    rw [tracked, List.append_nil]
    exact trail
  | cons choice choices ih =>
    cases chosen : s.machine.advance choice with
    | none =>
      simp only [SocketMachine.played, Machine.play, tracked, chosen, List.append_nil]
      exact trail
    | some next =>
      obtain ⟨label, m⟩ := next
      simp only [Machine.play, chosen, List.forall_mem_cons] at admits
      have := ih (trail.snoc (move_of_advance chosen admits.1)) admits.2
      simp only [SocketMachine.played, Machine.play, tracked, chosen]
      rwa [List.append_assoc] at this

/-- A turn begins. -/
theorem reported (trail : Trail admitted begin steps s) (report : SocketReport) (head : s.AtHead)
    (due : s.task.Due s.handles s.machine.endpoint report
      (s.task.takeOrder s.machine.endpoint).2) :
    Trail admitted begin (steps ++ [⟨s, .inr report, s.reported report⟩]) (s.reported report) :=
  trail.snoc (.turn head due)

end Trail

end SocketMachine

end SmtpLink
