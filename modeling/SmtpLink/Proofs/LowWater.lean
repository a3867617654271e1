import SmtpLink.Proofs.Rest

/-!
# Lines held back are sent on their way

A line is held back because the queue was found full, or because others are held back already.
What sets it free is a drain, and the task reports one only if the queue was found full since the
last, when no more than half of the limit is left of the bytes that are queued.  A line would be
stranded if it were held back with nothing left that could report a drain.

This never happens: where lines are held back, the queue was found full with no drain since and
more than half of the limit stands in it, or the connection is due to hear of a drain.  Orders that
are added leave it so, and an order that is taken away leaves it so or makes a drain due.

## Main definitions

* `Channel.Counts` — the counter tells how many bytes are queued.
* `Channel.Pressed` — the queue was found full, and has not drained.
* `SocketMachine.DrainAhead` — a drain is due, or the queue is pressed.
* `SocketMachine.Provident` — no line is held back unless a drain is ahead.

## Main results

* `SocketMachine.provident_of_run` — sessions whose writes succeed are provident.
* `SocketMachine.drained_of_trail` — the queue does not drain without a report.
* `SocketMachine.never_stranded` — **a line that is held back waits for a drain that comes.**
-/

namespace SmtpLink

variable {H : Type}

/-- Bytes could not be written. -/
def SocketReport.isFailedWrite : SocketReport → Bool
  | .wrote _ (.error _) => true
  | _ => false

namespace Channel

variable {c c' : Channel} {calls : List Event} {given : List Order} {report : SocketReport}

/-- The counter tells how many bytes are queued, as a word. -/
def Counts (c : Channel) : Prop := c.queued = UInt64.ofNat (Order.load c.orders)

/-- The queue was found full with no drain since, and more than half of the limit stands in it. -/
structure Pressed (c : Channel) : Prop where
  /-- The queue was found full, and no drain has been reported since. -/
  reported : c.reportedFull = true
  /-- More than half of the limit stands in it. -/
  load : c.limit.toNat / 2 < Order.load c.orders

/-- The bytes of the order that is taken are no longer counted. -/
theorem queued_served (low : UInt64) : (c.served low report).queued =
    c.queued - UInt64.ofNat (Order.load report.order?.toList) := by
  have uncounted : c.receive.2.queued = c.queued - UInt64.ofNat 0 := by
    rw [receive_snd]
    exact (UInt64.sub_zero _).symm
  cases report with
  | wrote data result =>
    rw [served, written_snd, receive_snd]
    rfl
  | upgraded result => cases result <;> exact uncounted
  | _ => exact uncounted

/-- If more is left than the low water mark, then the counter tells it. -/
theorem lt_queued_of_left {length low : UInt64} (left : ¬ c.leftAfter length ≤ low) :
    low < c.queued - length := by
  unfold leftAfter at left
  split at left
  · exact UInt64.not_le.mp left
  · exact absurd (UInt64.le_iff_toNat_le.mpr (Nat.zero_le _)) left

namespace Counts

/-- No less is queued than the counter says. -/
theorem toNat_queued_le (counts : c.Counts) : c.queued.toNat ≤ Order.load c.orders := by
  rw [counts, UInt64.toNat_ofNat']
  exact Nat.mod_le _ _

theorem takes (counts : c.Counts) (takes : c.Takes calls given c') : c'.Counts := by
  rw [Counts, takes.queued, counts, takes.orders, Order.load_append, UInt64.ofNat_add]

theorem served (counts : c.Counts) {low : UInt64}
    (taken : c.orders = report.order?.toList ++ (c.served low report).orders) :
    (c.served low report).Counts := by
  rw [Counts, queued_served, counts, congrArg Order.load taken, Order.load_append,
    UInt64.ofNat_add, UInt64.add_comm, UInt64.add_sub_cancel]

/-- A queue that is found full is pressed. -/
theorem pressed_full (counts : c.Counts) (full : c.isFull = true) : c.full.2.Pressed := by
  constructor
  · show (c.reportedFull || c.isFull) = true
    rw [full, Bool.or_true]
  · show c.limit.toNat / 2 < Order.load c.orders
    have queued := counts.toNat_queued_le
    rw [isFull, Bool.and_eq_true, decide_eq_true_iff, decide_eq_true_iff,
      UInt64.lt_iff_toNat_lt, UInt64.le_iff_toNat_le, UInt64.toNat_zero] at full
    omega

end Counts

namespace Pressed

theorem takes (pressed : c.Pressed) (takes : c.Takes calls given c') : c'.Pressed := by
  refine ⟨takes.reported pressed.reported, ?_⟩
  rw [takes.limit, takes.orders, Order.load_append]
  exact Nat.lt_add_right _ pressed.load

theorem receive (pressed : c.Pressed) : c.receive.2.reportedFull = true := by
  rw [receive_snd]
  exact pressed.reported

/-- To write bytes leaves a queue pressed, or its drain is reported. -/
theorem wrote {data : Bytes} {result : Except IoFault Unit} (pressed : c.Pressed)
    (counts : (c.served (c.limit / 2) (.wrote data result)).Counts) :
    (c.served (c.limit / 2) (.wrote data result)).Pressed ∨
      (c.receive.2.written (lengthWord data) (c.limit / 2)).1 = true := by
  by_cases low : c.receive.2.leftAfter (lengthWord data) ≤ c.limit / 2
  · right
    rw [written_fst, if_pos low]
    exact pressed.receive
  · refine .inl ⟨?_, ?_⟩
    · rw [Channel.served, written_snd]
      exact (if_neg low).trans pressed.receive
    · -- the counter may have wrapped round, but then it tells less than is queued
      have left := lt_queued_of_left low
      have counted := counts.toNat_queued_le
      rw [receive_snd] at left
      rw [queued_served] at counted
      rw [limit_served]
      calc c.limit.toNat / 2
        _ = (c.limit / 2).toNat := by rw [UInt64.toNat_div, UInt64.toNat_ofNat]
        _ < (c.queued - lengthWord data).toNat := UInt64.lt_iff_toNat_lt.mp left
        _ ≤ _ := counted

/-- A pressed queue stays so when an order is taken, or its drain is reported. -/
theorem served (pressed : c.Pressed) (counts : c.Counts)
    (taken : c.orders = report.order?.toList ++ (c.served (c.limit / 2) report).orders) :
    (c.served (c.limit / 2) report).Pressed ∨ ∃ data result, report = .wrote data result ∧
      (c.receive.2.written (lengthWord data) (c.limit / 2)).1 = true := by
  have stays (reported : (c.served (c.limit / 2) report).reportedFull = true)
      (noBytes : Order.load report.order?.toList = 0) :
      (c.served (c.limit / 2) report).Pressed := by
    have load := congrArg Order.load taken
    rw [Order.load_append, noBytes, Nat.zero_add] at load
    refine ⟨reported, ?_⟩
    rw [limit_served, ← load]
    exact pressed.load
  cases report with
  | wrote data result =>
    exact (pressed.wrote (counts.served taken)).imp_right fun drains => ⟨data, result, rfl, drains⟩
  | upgraded result => exact .inl (stays (by cases result <;> exact pressed.receive) rfl)
  | _ => exact .inl (stays pressed.receive rfl)

end Pressed

end Channel

namespace Endpoint

variable {e e' : Endpoint H} {k : TransportId} {c : Channel}

/-- A line that is submitted is the first to be held back only if the queue is found full. -/
theorem full_of_writeLineWithRoom {line : String} {handler : H} (bound : e.Bound k)
    (found : e.transports[k]? = some (.channel c)) (none : e.conn.deferred = [])
    (waits : (e.writeLineWithRoom line handler).1.conn.deferred ≠ []) : c.isFull = true ∧
      (e.writeLineWithRoom line handler).1.transports[k]? = some (.channel c.full.2) := by
  have asked : e.askFull k = (c.isFull, e.setTransport k (.channel c.full.2)) := by
    rw [askFull, found]
    rfl
  unfold writeLineWithRoom at waits ⊢
  split at waits
  · exact absurd none waits
  · next peer =>
    rw [if_neg peer]
    cases held : e.conn.phase.transport? with
    | none =>
      rw [held] at waits
      exact absurd none waits
    | some id =>
      obtain rfl : id = k := by
        rcases bound with held' | terminal
        · exact Option.some.inj (held.symm.trans held')
        · exact absurd (isLive_of_held held) (by simp [not_live_of_terminal terminal])
      simp only [held, none, List.isEmpty_nil, Bool.not_true, Bool.false_eq_true, if_false, asked]
        at waits ⊢
      cases full : c.isFull with
      | true =>
        have lt := (List.getElem?_eq_some_iff.mp found).1
        exact ⟨rfl, List.getElem?_set_self lt⟩
      | false =>
        rw [full] at waits
        refine absurd ?_ waits
        have conn := conn_sendBytes
          ((e.setTransport id (.channel c.full.2)).remark (.content line)) id (lineBytes line)
        exact (congrArg Connection.deferred conn).trans none

/-- A line is the first that is held back only if the queue is found full. -/
theorem full_of_deferred (bound : e.Bound k) (found : e.transports[k]? = some (.channel c))
    (w : Work H) (none : e.conn.deferred = []) (waits : (e.resume w).1.conn.deferred ≠ []) :
    c.isFull = true ∧ (e.resume w).1.transports[k]? = some (.channel c.full.2) := by
  -- only two operations have lines held back in their scope, and one of them lets all lines go
  cases mayHold : (e.scope w).deferred with
  | false =>
    rcases (within_resume e w).touches.deferred mayHold with kept | gone
    · exact absurd (kept.trans none) waits
    · exact absurd gone waits
  | true =>
    cases w with
    | perform operation =>
      cases operation with
      | drained => exact absurd rfl waits
      | writeLineWithRoom line handler => exact full_of_writeLineWithRoom bound found none waits
      | _ => exact absurd mayHold Bool.false_ne_true
    | runTasks =>
      refine absurd mayHold ?_
      rw [scope]
      split <;> exact Bool.false_ne_true
    | _ => exact absurd mayHold Bool.false_ne_true

end Endpoint

/-- A write that makes the queue drain has the connection told so. -/
theorem SocketTask.Due.drained_mem {t : SocketTask} {handles : Bool} {e e' : Endpoint H}
    {c : Channel} {data : Bytes} (due : t.Due handles e (.wrote data (.ok ())) e')
    (found : t.channel? e = some c)
    (drains : (c.receive.2.written (Channel.lengthWord data) (t.limit / 2)).1 = true) :
    .perform .drained ∈ (t.answer e' (.wrote data (.ok ()))).2 := by
  have acknowledged : (t.acknowledge e' data).1 = true := by
    rw [due.eq_takeOrder, takeOrder_of_found found, acknowledge, channel?_setChannel found]
    exact drains
  show _ ∈ turn (if (t.acknowledge e' data).1 then [.drained] else [])
  rw [acknowledged]
  exact List.mem_cons_self

namespace SocketMachine

variable {admitted : Operation H → Prop} {begin s t : SocketMachine H}
  {label : Label H ⊕ SocketReport} {labels labels' : List (Label H ⊕ SocketReport)}
  {steps : List (Step H)} {e : Endpoint H} {limit : UInt64} {secure : Bool} {c : Channel}

/-! ### The drain ahead -/

/-- No write has failed. -/
abbrev WritesSucceed (labels : List (Label H ⊕ SocketReport)) : Prop :=
  ∀ report ∈ labels.filterMap Sum.getRight?, report.isFailedWrite = false

theorem WritesSucceed.of_subset (h : WritesSucceed labels) (among : labels' ⊆ labels) :
    WritesSucceed labels' := fun report mem => by
  obtain ⟨label, mem, shown⟩ := List.mem_filterMap.mp mem
  exact h report (List.mem_filterMap.mpr ⟨label, among mem, shown⟩)

theorem WritesSucceed.of_append (h : WritesSucceed (labels ++ labels')) :
    WritesSucceed labels ∧ WritesSucceed labels' :=
  ⟨h.of_subset (List.subset_append_left _ _), h.of_subset (List.subset_append_right _ _)⟩

/-- The channel of the task has the limit that the task knows, and counts what stands on it. -/
structure Metered (s : SocketMachine H) (c : Channel) : Prop where
  /-- The channel is there. -/
  found : s.channel? = some c
  /-- The task knows the limit. -/
  limit : c.limit = s.task.limit
  /-- The counter tells how many bytes are queued. -/
  counts : s.last = false → c.Counts

theorem metered_move (metered : s.Metered c) (move : Move admitted s label t) :
    ∃ c', t.Metered c' := by
  obtain ⟨found, limit, counts⟩ := metered
  obtain ⟨c', calls, found', -, passes⟩ := channel_move found move
  have task := (task_move move).2
  cases label with
  | inl l =>
    obtain ⟨given, takes⟩ := passes
    exact ⟨c', found', (takes.limit.trans limit).trans task.symm,
      fun goesOn => (counts (move.goesOn goesOn)).takes takes⟩
  | inr report =>
    obtain ⟨-, rfl, taken⟩ := passes
    exact ⟨_, found', ((c.limit_served _ report).trans limit).trans task.symm,
      fun goesOn => (counts (move.goesOn goesOn)).served (taken goesOn)⟩

theorem metered_of_run (run : Run admitted s labels t) (metered : ∃ c, s.Metered c) :
    ∃ c, t.Metered c :=
  run.invariant (P := fun u => ∃ c, u.Metered c) (fun ⟨_, metered⟩ => metered_move metered) metered

/-- The connection is due to hear of a drain, or its queue is pressed. -/
def DrainAhead (s : SocketMachine H) : Prop :=
  .perform .drained ∈ s.dues ∨ ∃ c, s.channel? = some c ∧ c.Pressed

/-- **A drain that is ahead stays so until the connection hears of it.** -/
theorem drainAhead_move (metered : s.Metered c) (ahead : s.DrainAhead)
    (move : Move admitted s label t) (goesOn : t.last = false) (succeed : WritesSucceed [label]) :
    t.DrainAhead ∨ Step.work? ⟨s, label, t⟩ = some (.perform .drained) := by
  rcases ahead with due | ⟨c', found, pressed⟩
  · exact (move.due_or_done due).imp_left .inl
  · -- orders that are added only press the queue more, so the turns decide
    obtain rfl : c' = c := Option.some.inj (found.symm.trans metered.found)
    obtain ⟨after, calls, found', -, passes⟩ := channel_move found move
    left
    cases label with
    | inl l =>
      obtain ⟨given, takes⟩ := passes
      exact .inr ⟨after, found', pressed.takes takes⟩
    | inr report =>
      obtain ⟨-, rfl, taken⟩ := passes
      rw [← metered.limit] at taken found'
      rcases pressed.served (metered.counts (move.goesOn goesOn)) (taken goesOn) with
        pressed | ⟨data, result, rfl, drains⟩
      · exact .inr ⟨_, found', pressed⟩
      · cases result with
        | error fault =>
          exact absurd (succeed _ List.mem_cons_self) (by simp [SocketReport.isFailedWrite])
        | ok =>
          rw [metered.limit] at drains
          cases move.act with
          | turn head due endpoint dues => exact .inl (dues ▸ due.drained_mem found drains)

/-- The queue does not come down without the connection hearing of it. -/
theorem drained_of_trail (trail : Trail admitted begin steps s)
    (metered : ∃ c, begin.Metered c) (ahead : begin.DrainAhead)
    (succeed : WritesSucceed (steps.map Step.label)) (goesOn : s.last = false) :
    s.DrainAhead ∨ ∃ step ∈ steps, step.work? = some (.perform .drained) := by
  induction trail with
  | nil => exact .inl ahead
  | @snoc s t steps label trail move ih =>
    rw [List.map_append] at succeed
    obtain ⟨before, now⟩ := succeed.of_append
    rcases ih before (move.goesOn goesOn) with ahead | ⟨step, mem, heard⟩
    · obtain ⟨c, metered⟩ := metered_of_run trail.run metered
      rcases drainAhead_move metered ahead move goesOn now with ahead | heard
      · exact .inl ahead
      · exact .inr ⟨_, List.mem_append_right _ List.mem_cons_self, heard⟩
    · exact .inr ⟨step, List.mem_append_left _ mem, heard⟩

/-! ### Lines that are held back -/

/-- No line is held back unless a drain is ahead. -/
structure Provident (s : SocketMachine H) : Prop where
  /-- The channel is metered. -/
  metered : ∃ c, s.Metered c
  /-- Lines that are held back have a drain ahead. -/
  ahead : s.last = false → s.machine.endpoint.conn.deferred ≠ [] → s.DrainAhead

/-- A connection that hears of a drain holds back no line. -/
theorem deferred_of_drained (move : Move admitted s label t)
    (heard : Step.work? ⟨s, label, t⟩ = some (.perform .drained)) :
    t.machine.endpoint.conn.deferred = [] := by
  rw [move.endpoint_of_work? heard]
  rfl

theorem provident_move (tended : s.Tended) (provident : s.Provident)
    (move : Move Operation.Public s label t) (succeed : WritesSucceed [label]) :
    t.Provident := by
  obtain ⟨⟨c, metered⟩, ahead⟩ := provident
  refine ⟨metered_move metered move, fun goesOn waits => ?_⟩
  have counts := metered.counts (move.goesOn goesOn)
  -- the first line that is held back finds the queue full; the others find a drain ahead already
  by_cases none : s.machine.endpoint.conn.deferred = []
  · cases move.act with
    | @work _ _ w below kind endpoint dues task =>
      rw [endpoint] at waits
      obtain ⟨full, found⟩ := Endpoint.full_of_deferred tended.bound
        (SocketTask.channel?_eq_some.mp metered.found) w none waits
      refine .inr ⟨c.full.2, ?_, counts.pressed_full full⟩
      rw [channel?, task, endpoint]
      exact SocketTask.channel?_eq_some.mpr found
    | pause endpoint =>
      obtain ⟨clock, -, endpoint⟩ := endpoint
      rw [endpoint] at waits
      exact absurd none waits
    | turn head due endpoint =>
      rw [endpoint, due.tends.conn] at waits
      exact absurd none waits
  · rcases drainAhead_move metered (ahead (move.goesOn goesOn) none) move goesOn succeed with
      ahead | heard
    · exact ahead
    · exact absurd (deferred_of_drained move heard) waits

theorem provident_of_run (run : Run Operation.Public s labels t) (tended : s.Tended)
    (provident : s.Provident) (succeed : WritesSucceed labels) : t.Provident := by
  induction run with
  | nil => exact provident
  | snoc run move ih =>
    obtain ⟨before, now⟩ := succeed.of_append
    exact provident_move (tended_of_run tended run) (ih before) move now

theorem provident_connected (unconnected : e.Unconnected) (limit : UInt64) (secure : Bool) :
    (connected e limit secure).Provident := by
  obtain ⟨c, calls, given, found, -, takes⟩ := channel?_connected e limit secure
  have fresh : ({ limit, secure } : Channel).Counts := rfl
  refine ⟨⟨c, found, takes.limit, fun _ => fresh.takes takes⟩, fun _ waits => ?_⟩
  have touches : Endpoint.Touches { transports := true } e
      (e.connected (.channel { limit, secure })) := Endpoint.touches_connected e _ rfl
  have none := (unconnected.regular.nobody_waits unconnected.gone).1
  rcases touches.deferred rfl with kept | gone
  · exact absurd (kept.trans none) waits
  · exact absurd gone waits

/-- Between the turns a drain that is ahead has the queue pressed. -/
theorem DrainAhead.pressed (ahead : s.DrainAhead) (head : s.AtHead) (metered : ∃ c, s.Metered c) :
    ∃ c, s.channel? = some c ∧ c.reportedFull = true ∧
      s.task.limit.toNat / 2 < Order.load c.orders := by
  obtain ⟨c, metered⟩ := metered
  obtain ⟨c', found, pressed⟩ := ahead.resolve_left (by simp [head.dues_eq_nil])
  obtain rfl : c' = c := Option.some.inj (found.symm.trans metered.found)
  exact ⟨c', found, pressed.reported, metered.limit ▸ pressed.load⟩

/-- **A line that is held back waits for a drain that comes.**  Whenever a session whose writes
have succeeded waits for the next report and lines are held back, the connection has its socket,
the queue was found full with no drain reported since, and more than half of the limit stands in
the queue; and when the task has come to write so much that no more than half of it is left, then
the connection has heard of the drain. -/
theorem never_stranded {m : Machine H} {earlier : List (Label H)}
    (history : Machine.Run Operation.Any Machine.initial earlier m)
    (atMost : earlier.countP Label.isDial ≤ 1)
    (unconnected : ∀ l ∈ earlier, l.isConnected = false)
    (run : Run Operation.Public (start m.endpoint limit secure) labels s)
    (succeed : WritesSucceed labels) (head : s.AtHead)
    (waits : s.machine.endpoint.conn.deferred ≠ []) :
    s.machine.endpoint.conn.isLive = true ∧
    (∃ c, s.channel? = some c ∧ c.reportedFull = true ∧
      limit.toNat / 2 < Order.load c.orders) ∧
    ∀ steps t, Trail Operation.Public s steps t → WritesSucceed (steps.map Step.label) →
      t.AtHead → Order.load t.orders ≤ limit.toNat / 2 →
      ∃ step ∈ steps, step.work? = some (.perform .drained) := by
  have fresh := Machine.unconnected_of_run history atMost unconnected
  obtain ⟨clock, rest, later, among, sinceHere⟩ := begins_of_run run head.1
  have begins := tended_connected (fresh.wait later) limit secure
  have tended := tended_of_run begins sinceHere
  have provident := provident_of_run sinceHere begins
    (provident_connected (fresh.wait later) limit secure) (WritesSucceed.of_subset succeed among)
  have ahead := provident.ahead head.2 waits
  have task : s.task.limit = limit := (task_of_run run).2
  refine ⟨?_, task ▸ ahead.pressed head provident.metered, ?_⟩
  · cases live : s.machine.endpoint.conn.isLive with
    | true => rfl
    | false => exact absurd (tended.regular.nobody_waits live).1 waits
  · intro steps t trail succeed head' low
    refine (drained_of_trail trail provident.metered ahead succeed head'.2).resolve_left ?_
    intro still
    obtain ⟨c, found, -, load⟩ := still.pressed head' (metered_of_run trail.run provident.metered)
    rw [orders_of_found found] at low
    rw [(task_of_run trail.run).2, task] at load
    exact absurd load (Nat.not_lt.mpr low)

/-- Who is greeted submits two lines, and the queue has room for the first only. -/
def heldBack : SocketMachine Nat :=
  (((start dialled.endpoint 3 false).played [.proceed, .proceed, .proceed]).reported
    (.read [50, 50, 48, 32, 104, 105, 13, 10])).played
    [.proceed, .proceed, .proceed, .operate (.writeLineWithRoom "a" 2), .proceed, .leave,
      .operate (.writeLineWithRoom "b" 3), .leave, .proceed, .proceed, .proceed]

/-- Both lines are written. -/
def setFree : SocketMachine Nat :=
  (((heldBack.reported (.wrote [97, 13, 10] (.ok ()))).played
    [.proceed, .proceed, .proceed, .leave, .proceed, .proceed]).reported
    (.wrote [98, 13, 10] (.ok ()))).played [.proceed, .proceed]

/-- The line that was held back is written after the connection has heard of the drain. -/
theorem held_back_set_free : ∃ labels steps,
    Run Operation.Public (start dialled.endpoint 3 false) labels heldBack ∧ heldBack.AtHead ∧
    heldBack.machine.endpoint.conn.deferred.map Deferred.line = ["b"] ∧
    heldBack.orders = [.write [97, 13, 10]] ∧
    (∃ c, heldBack.channel? = some c ∧ c.reportedFull = true ∧
      (3 : UInt64).toNat / 2 < Order.load c.orders) ∧
    Trail Operation.Public heldBack steps setFree ∧ setFree.orders = [] ∧
    ∃ step ∈ steps, step.work? = some (.perform .drained) := by
  have history := Machine.run_play (Machine.initial (H := Nat))
    [.operate (.dial (Config.build "mail" []) 0 1)]
  have begins : Trail Operation.Public (start dialled.endpoint 3 false) [] _ := .nil
  have waiting := begins.played [.proceed, .proceed, .proceed] (by decide)
  have held := (waiting.reported (.read [50, 50, 48, 32, 104, 105, 13, 10]) (by decide)
    (.read (by simp) rfl)).played
    [.proceed, .proceed, .proceed, .operate (.writeLineWithRoom "a" 2), .proceed, .leave,
      .operate (.writeLineWithRoom "b" 3), .leave, .proceed, .proceed, .proceed] (by decide)
  have goesOn : Trail Operation.Public heldBack [] heldBack := .nil
  have drained := (goesOn.reported (.wrote [97, 13, 10] (.ok ())) (by decide)
    (.wrote (.ok ()) rfl)).played
    [.proceed, .proceed, .proceed, .leave, .proceed, .proceed] (by decide)
  have free := (drained.reported (.wrote [98, 13, 10] (.ok ())) (by decide)
    (.wrote (.ok ()) rfl)).played [.proceed, .proceed] (by decide)
  have head : heldBack.AtHead := by decide
  have waits : heldBack.machine.endpoint.conn.deferred ≠ [] := by decide
  obtain ⟨-, pressed, comes⟩ := never_stranded history (by decide) (by decide) held.run
    (by decide) head waits
  exact ⟨_, _, held.run, head, by decide, by decide, pressed, free, by decide,
    comes _ _ free (by decide) (by decide) (by decide)⟩

end SocketMachine

end SmtpLink
