import SmtpLink.Proofs.Ownership

/-!
# What a connection does to its surroundings

A channel has two ends.  All that a connection does at its end is to put orders behind those that
stand there, to ask whether the queue is full, and to let go of it.  So from one moment to another
a channel grows by some orders, and the calls of it that the trace tells of in between say which
lines are among these and whether the channel was closed.

The pool counts its sessions by what its listener hears of each: that connecting failed, or that
the socket has closed.  Two operations tell it so, and nothing else does.

## Main definitions

* `Order.load` — how many bytes orders are to send.
* `Channel.accepted` — the orders that calls of a channel give, as far as it accepts them.
* `Channel.Takes` — a channel grows by orders, as some calls of it tell.
* `Endpoint.Grows` — the channel at some place grows.
* `Endpoint.accounts` — what the listener heard of the end of sessions.
* `Endpoint.Deals` — a channel grows, the listener hears of ends, and neither the running task nor
  the task that the connection is bound to changes.

## Main results

* `Channel.Takes.lines`, `Channel.Takes.ending` — the lines among the orders, and the order to
  close, are what the calls tell of.
* `Endpoint.deals_resume` — **work deals with its surroundings in this way only**, unless it hands
  a socket over.
* `Endpoint.grows_resume` — and even then the channels that are there already do no more than grow.
-/

namespace SmtpLink

variable {H : Type}

/-- What the pool's listener hears of the end of a session. -/
inductive Account
  /-- No socket came about. -/
  | failed
  /-- The socket has closed. -/
  | closed
deriving DecidableEq, Repr

/-- What the listener hears of the end of a session by an event. -/
def Event.account? : Event → Option Account
  | .connectFailed => some .failed
  | .connectionClosed _ => some .closed
  | _ => none

/-- What the listener hears of the end of a session by work. -/
def Work.account? : Work H → Option Account
  | .perform (.connectFailed _) => some .failed
  | .perform .closed => some .closed
  | _ => none

namespace Order

/-- The bytes that the order is to send. -/
def bytes? : Order → Option Bytes
  | .write data => some data
  | _ => none

/-- How many bytes orders are to send. -/
def load : List Order → Nat
  | [] => 0
  | .write data :: orders => data.length + load orders
  | _ :: orders => load orders

theorem load_append (orders given : List Order) :
    load (orders ++ given) = load orders + load given := by
  induction orders with
  | nil => exact (Nat.zero_add _).symm
  | cons order orders ih =>
    cases order with
    | write data => exact (congrArg (data.length + ·) ih).trans (Nat.add_assoc _ _ _).symm
    | _ => exact ih

end Order

theorem exists_of_map {α β : Type} {f : α → β} {x : Except Error α} {b : β}
    (h : x.map f = .ok b) : ∃ a, x = .ok a ∧ f a = b := by
  cases x with
  | ok a => exact ⟨a, rfl, Except.ok.inj h⟩
  | error err => exact absurd h (by simp [Except.map])

theorem refused_of_map {α β : Type} {f : α → β} {x : Except Error α} {err : Error}
    (h : x.map f = .error err) : x = .error err := by
  cases x with
  | ok a => exact absurd h (by simp [Except.map])
  | error err' => exact congrArg _ (Except.error.inj h)

namespace Channel

variable {c c' c'' : Channel} {calls calls' : List Event} {given given' : List Order}
  {id : TransportId}

/-- The order that a call gives, if the channel accepts it.  Bytes are told of only when they were
accepted. -/
def order? (c : Channel) : Event → Option Order
  | .wrote _ data => some (.write data)
  | .upgradeAsked _ => if c.upgrade.isOk then some .upgrade else none
  | .transportClosed _ => if c.closed || c.receiverGone then none else some .close
  | _ => none

/-- An upgrade that is refused gives no order. -/
theorem order?_of_refused {err : Error} (h : c.upgrade = .error err) :
    c.order? (.upgradeAsked id) = none := by
  simp [order?, h, Except.isOk, Except.toBool]

/-- The channel after a call, as far as it matters to what it accepts next. -/
def afterCall (c : Channel) : Event → Channel
  | .transportClosed _ => c.close
  | _ => c

/-- The orders that calls give, oldest first, each call as far as the channel accepts it then. -/
def accepted (c : Channel) : List Event → List Order
  | [] => []
  | call :: calls => (c.order? call).toList ++ (c.afterCall call).accepted calls

@[simp] theorem closed_close (c : Channel) : c.close.closed = true := by
  unfold close
  split
  · assumption
  · rfl

@[simp] theorem secure_close (c : Channel) : c.close.secure = c.secure := by
  unfold close
  split <;> rfl

@[simp] theorem receiverGone_close (c : Channel) : c.close.receiverGone = c.receiverGone := by
  unfold close
  split <;> rfl

/-- The two channels accept the same calls. -/
structure Alike (c c' : Channel) : Prop where
  /-- They are closed or not. -/
  closed : c'.closed = c.closed
  /-- Their sockets are secure or not. -/
  secure : c'.secure = c.secure
  /-- The sockets' ends are there or not. -/
  receiver : c'.receiverGone = c.receiverGone

namespace Alike

theorem refl (c : Channel) : c.Alike c := ⟨rfl, rfl, rfl⟩

theorem trans (h : c.Alike c') (h' : c'.Alike c'') : c.Alike c'' :=
  ⟨h'.closed.trans h.closed, h'.secure.trans h.secure, h'.receiver.trans h.receiver⟩

theorem isOk_upgrade (h : c.Alike c') : c'.upgrade.isOk = c.upgrade.isOk := by
  unfold upgrade
  rw [h.closed, h.secure, h.receiver]
  split
  · rfl
  · split
    · rfl
    · split <;> rfl

theorem order?_eq (h : c.Alike c') (call : Event) : c'.order? call = c.order? call := by
  cases call with
  | upgradeAsked id => rw [order?, order?, h.isOk_upgrade]
  | transportClosed id => rw [order?, order?, h.closed, h.receiver]
  | _ => rfl

theorem afterCall (h : c.Alike c') (call : Event) :
    (c.afterCall call).Alike (c'.afterCall call) := by
  cases call with
  | transportClosed id => exact ⟨by simp [Channel.afterCall], by simp [Channel.afterCall, h.secure],
      by simp [Channel.afterCall, h.receiver]⟩
  | _ => exact h

theorem afterCalls (h : c.Alike c') (calls : List Event) :
    (calls.foldl Channel.afterCall c).Alike (calls.foldl Channel.afterCall c') := by
  induction calls generalizing c c' with
  | nil => exact h
  | cons call calls ih => exact ih (h.afterCall call)

theorem accepted_eq (h : c.Alike c') (calls : List Event) :
    c'.accepted calls = c.accepted calls := by
  induction calls generalizing c c' with
  | nil => rfl
  | cons call calls ih => rw [accepted, accepted, h.order?_eq, ih (h.afterCall call)]

end Alike

theorem accepted_append (c : Channel) (calls calls' : List Event) :
    c.accepted (calls ++ calls') =
      c.accepted calls ++ (calls.foldl afterCall c).accepted calls' := by
  induction calls generalizing c with
  | nil => rfl
  | cons call calls ih =>
    rw [List.cons_append, accepted, accepted, ih, List.append_assoc, List.foldl_cons]

/-- The lines that are accepted are those that the calls tell of. -/
theorem lines_accepted (c : Channel) (calls : List Event) :
    (c.accepted calls).filterMap Order.bytes? = calls.filterMap Event.bytes? := by
  induction calls generalizing c with
  | nil => rfl
  | cons call calls ih =>
    have one : (c.order? call).toList.filterMap Order.bytes? = call.bytes?.toList := by
      cases call with
      | upgradeAsked id | transportClosed id =>
        rw [order?]
        split <;> rfl
      | _ => rfl
    rw [accepted, List.filterMap_append, one, ih, List.filterMap_cons]
    cases call.bytes? <;> rfl

theorem receiverGone_afterCalls (c : Channel) (calls : List Event) :
    (calls.foldl afterCall c).receiverGone = c.receiverGone := by
  induction calls generalizing c with
  | nil => rfl
  | cons call calls ih =>
    rw [List.foldl_cons, ih]
    cases call <;> simp [afterCall]

theorem closed_afterCalls (c : Channel) (calls : List Event) :
    (calls.foldl afterCall c).closed = true ↔
      c.closed = true ∨ ∃ id, .transportClosed id ∈ calls := by
  induction calls generalizing c with
  | nil => simp
  | cons call calls ih =>
    rw [List.foldl_cons, ih]
    cases call <;> simp [afterCall]

/-- The first call to close a channel with somebody at the socket's end gives the order to close. -/
theorem close_mem_accepted (there : c.receiverGone = false) (opened : c.closed = false)
    (closes : .transportClosed id ∈ calls) : .close ∈ c.accepted calls := by
  induction calls with
  | nil => exact absurd closes List.not_mem_nil
  | cons call calls ih =>
    rw [accepted, List.mem_append]
    cases call with
    | transportClosed id => exact .inl (by simp [order?, there, opened])
    | _ => exact .inr (ih ((List.mem_cons.mp closes).resolve_left (by simp)))

/-- A channel takes orders from the connection's end, as calls of it tell. -/
structure Takes (c : Channel) (calls : List Event) (given : List Order) (c' : Channel) : Prop where
  /-- The orders stand behind those that stood there. -/
  orders : c'.orders = c.orders ++ given
  /-- They are those of the calls that the channel accepts. -/
  accepted : given = c.accepted calls
  /-- Their bytes are counted. -/
  queued : c'.queued = c.queued + UInt64.ofNat (Order.load given)
  /-- The limit stays. -/
  limit : c'.limit = c.limit
  /-- A queue that was found full is not forgotten. -/
  reported : c.reportedFull = true → c'.reportedFull = true
  /-- What the channel accepts changes by the calls alone. -/
  alike : (calls.foldl afterCall c).Alike c'

namespace Takes

theorem refl (c : Channel) : c.Takes [] [] c where
  orders := (List.append_nil _).symm
  accepted := rfl
  queued := (UInt64.add_zero _).symm
  limit := rfl
  reported := id
  alike := .refl c

theorem trans (h : c.Takes calls given c') (h' : c'.Takes calls' given' c'') :
    c.Takes (calls ++ calls') (given ++ given') c'' where
  orders := by rw [h'.orders, h.orders, List.append_assoc]
  accepted := by rw [accepted_append, ← h.alike.accepted_eq, ← h.accepted, ← h'.accepted]
  queued := by
    rw [h'.queued, h.queued, Order.load_append, UInt64.ofNat_add, UInt64.add_assoc]
  limit := h'.limit.trans h.limit
  reported full := h'.reported (h.reported full)
  alike := by
    rw [List.foldl_append]
    exact (h.alike.afterCalls calls').trans h'.alike

/-- The lines among the orders are those that the calls tell of. -/
theorem lines (h : c.Takes calls given c') :
    given.filterMap Order.bytes? = calls.filterMap Event.bytes? := by
  rw [h.accepted, lines_accepted]

/-- The socket's end is there as before. -/
theorem receiver (h : c.Takes calls given c') : c'.receiverGone = c.receiverGone :=
  h.alike.receiver.trans (c.receiverGone_afterCalls calls)

/-- A call closes the channel for good. -/
theorem closed (h : c.Takes calls given c') :
    c'.closed = true ↔ c.closed = true ∨ ∃ id, .transportClosed id ∈ calls := by
  rw [h.alike.closed, closed_afterCalls]

/-- A channel that is closed with somebody at the socket's end holds the order to close. -/
theorem ending (h : c.Takes calls given c') (there : c.receiverGone = false)
    (shut : c'.closed = true) : c.closed = true ∨ .close ∈ given := by
  cases before : c.closed with
  | true => exact .inl rfl
  | false =>
    obtain ⟨id, closes⟩ := (h.closed.mp shut).resolve_left (by simp [before])
    exact .inr (h.accepted ▸ close_mem_accepted there before closes)

end Takes

/-- A line that is taken is an order. -/
theorem takes_write {data : Bytes} (h : c.write data = .ok c') :
    c.Takes [.wrote id data] [.write data] c' := by
  unfold write at h
  split at h
  · exact absurd h (by simp)
  · obtain rfl := Except.ok.inj h
    exact ⟨rfl, rfl, rfl, rfl, fun full => full, rfl, rfl, rfl⟩

/-- To ask whether the queue is full orders nothing. -/
theorem takes_full (c : Channel) : c.Takes [] [] c.full.2 where
  orders := (List.append_nil _).symm
  accepted := rfl
  queued := (UInt64.add_zero _).symm
  limit := rfl
  reported full := by
    show (c.reportedFull || c.isFull) = true
    rw [full, Bool.true_or]
  alike := ⟨rfl, rfl, rfl⟩

/-- An upgrade that is accepted is an order. -/
theorem takes_upgrade (h : c.upgrade = .ok c') : c.Takes [.upgradeAsked id] [.upgrade] c' := by
  have accepted : [.upgrade] = c.accepted [.upgradeAsked id] := by
    simp [Channel.accepted, order?, h, Except.isOk, Except.toBool]
  unfold upgrade at h
  split at h
  · exact absurd h (by simp)
  · split at h
    · exact absurd h (by simp)
    · split at h
      · exact absurd h (by simp)
      · obtain rfl := Except.ok.inj h
        exact ⟨rfl, accepted, (UInt64.add_zero _).symm, rfl, fun full => full, rfl, rfl, rfl⟩

/-- A call that is refused orders nothing. -/
theorem takes_refused {event : Event} (refused : c.order? event = none)
    (stays : c.afterCall event = c) : c.Takes [event] [] c where
  orders := (List.append_nil _).symm
  accepted := by rw [accepted, refused, accepted]; rfl
  queued := (UInt64.add_zero _).symm
  limit := rfl
  reported := fun full => full
  alike := by
    show (c.afterCall event).Alike c
    rw [stays]
    exact .refl c

/-- To close is an order, the first time that somebody is there to take it. -/
theorem takes_close (c : Channel) (id : TransportId) :
    ∃ given, c.Takes [.transportClosed id] given c.close := by
  refine ⟨c.accepted [.transportClosed id], ?_, rfl, ?_, ?_, fun full => ?_, .refl c.close⟩
  · cases closed : c.closed <;> cases gone : c.receiverGone <;>
      simp [close, accepted, order?, closed, gone]
  · cases closed : c.closed <;> cases gone : c.receiverGone <;>
      simp [close, accepted, order?, Order.load, closed, gone]
  · unfold close
    split <;> rfl
  · unfold close
    split <;> exact full

/-- To let go of a channel orders nothing. -/
theorem takes_release (c : Channel) : c.Takes [] [] c.release :=
  ⟨(List.append_nil _).symm, rfl, (UInt64.add_zero _).symm, rfl, fun full => full, rfl, rfl, rfl⟩

end Channel

namespace Endpoint

variable {e e' e'' : Endpoint H} {k id : TransportId} {t t' : Transport}
  {told told' : List Account}

/-- The channel at a place grows, as the calls of it tell. -/
def Grows (k : TransportId) (e e' : Endpoint H) : Prop :=
  ∀ c, e.transports[k]? = some (.channel c) → ∃ calls given c',
    e'.transports[k]? = some (.channel c') ∧ e'.callsOf k = e.callsOf k ++ calls ∧
    c.Takes calls given c'

/-- What the listener heard of the end of sessions, oldest first. -/
def accounts (e : Endpoint H) : List Account := e.trace.filterMap Event.account?

/-- The channel at a place grows, the listener hears what is told, and the same task runs and has
the connection. -/
structure Deals (k : TransportId) (told : List Account) (e e' : Endpoint H) : Prop where
  /-- The same task runs. -/
  task : e'.task = e.task
  /-- The connection is bound to the same task. -/
  context : e'.conn.context = e.conn.context
  /-- The listener hears what is told. -/
  accounts : e'.accounts = e.accounts ++ told
  /-- The channel grows. -/
  grows : Grows k e e'

theorem accounts_of_trace (h : e'.trace = e.trace) : e'.accounts = e.accounts := by
  rw [accounts, accounts, h]

theorem accounts_emit (e : Endpoint H) (event : Event) :
    (e.emit event).accounts = e.accounts ++ event.account?.toList := by
  rw [accounts, trace_emit, List.filterMap_append, accounts]
  cases h : event.account? <;> simp [h]

namespace Grows

theorem of_same (transports : e'.transports[k]? = e.transports[k]?)
    (calls : e'.callsOf k = e.callsOf k) : Grows k e e' := by
  intro c found
  exact ⟨[], [], c, transports.trans found, by rw [calls, List.append_nil], .refl c⟩

theorem trans (h : Grows k e e') (h' : Grows k e' e'') : Grows k e e'' := by
  intro c found
  obtain ⟨calls, given, c', found', called, takes⟩ := h c found
  obtain ⟨calls', given', c'', found'', called', takes'⟩ := h' c' found'
  exact ⟨_, _, c'', found'', by rw [called', called, List.append_assoc], takes.trans takes'⟩

/-- A transport is replaced, and calls of it are told of. -/
theorem of_calls (calls : List Event) (found : e.transports[id]? = some t)
    (own : ∀ event ∈ calls, event.transport? = some id)
    (takes : ∀ c, t = .channel c → ∃ given c', t' = .channel c' ∧ c.Takes calls given c')
    (transports : e'.transports = e.transports.set id t')
    (trace : e'.trace = e.trace ++ calls) : Grows k e e' := by
  by_cases same : id = k
  · subst same
    intro c found'
    obtain ⟨given, c', rfl, took⟩ := takes c (Option.some.inj (found.symm.trans found'))
    have lt := (List.getElem?_eq_some_iff.mp found).1
    refine ⟨calls, given, c', ?_, ?_, took⟩
    · rw [transports, List.getElem?_set_self lt]
    · rw [callsOf_append trace, List.filter_eq_self.mpr]
      exact fun event mem => by simp [own event mem]
  · refine of_same (by rw [transports, List.getElem?_set_ne same]) ?_
    rw [callsOf_append trace, List.filter_eq_nil_iff.mpr, List.append_nil]
    exact fun event mem => by simp [own event mem, same]

/-- A call that is refused is told of, and the transport stays. -/
theorem of_refused {event : Event} (own : event.transport? = some id)
    (refused : ∀ c, e.transports[id]? = some (.channel c) → c.order? event = none)
    (stays : ∀ c : Channel, c.afterCall event = c) : Grows k e (e.emit event) := by
  intro c found
  refine ⟨_, [], c, found, callsOf_emit e event k, ?_⟩
  split
  · next called =>
    obtain rfl : id = k := Option.some.inj (own.symm.trans called)
    exact Channel.takes_refused (refused c found) (stays c)
  · exact .refl c

end Grows

namespace Deals

theorem of_same (task : e'.task = e.task) (context : e'.conn.context = e.conn.context)
    (transports : e'.transports = e.transports) (trace : e'.trace = e.trace) : Deals k [] e e' :=
  ⟨task, context, by rw [accounts_of_trace trace, List.append_nil],
    .of_same (by rw [transports]) (callsOf_of_trace trace k)⟩

theorem refl (e : Endpoint H) : Deals k [] e e := .of_same rfl rfl rfl rfl

theorem trans (h : Deals k told e e') (h' : Deals k told' e' e'') :
    Deals k (told ++ told') e e'' :=
  ⟨h'.task.trans h.task, h'.context.trans h.context,
    by rw [h'.accounts, h.accounts, List.append_assoc], h.grows.trans h'.grows⟩

end Deals

/-! ### The single effects -/

theorem deals_emit (e : Endpoint H) (event : Event) (h : event.transport? = none) :
    Deals k event.account?.toList e (e.emit event) :=
  ⟨rfl, rfl, accounts_emit e event, .of_same rfl (callsOf_emit_of_none h k)⟩

theorem deals_remark (e : Endpoint H) (r : Remark) : Deals k [] e (e.remark r) :=
  deals_emit e (.remark r) rfl

theorem deals_operationEnded (e : Endpoint H) : Deals k [] e e.operationEnded :=
  deals_emit e (.operationEnded _) rfl

theorem deals_sendBytes (e : Endpoint H) (id : TransportId) (data : Bytes) :
    Deals k [] e (e.sendBytes id data).1 := by
  unfold sendBytes
  split
  · exact .refl e
  · next t found =>
    split
    · next t' wrote =>
      refine ⟨rfl, rfl, accounts_emit _ _, .of_calls [.wrote id data] found
        (by simp [Event.transport?]) (fun c channel => ?_) rfl rfl⟩
      subst channel
      obtain ⟨c', taken, rfl⟩ := exists_of_map wrote
      exact ⟨_, c', rfl, Channel.takes_write taken⟩
    · exact ⟨rfl, rfl, accounts_emit e _, .of_refused rfl (fun _ _ => rfl) fun _ => rfl⟩

theorem deals_askFull (e : Endpoint H) (id : TransportId) : Deals k [] e (e.askFull id).2 := by
  unfold askFull
  split
  · exact .refl e
  · next t found =>
    refine ⟨rfl, rfl, (List.append_nil _).symm, .of_calls [] found (by simp)
      (fun c channel => ?_) rfl (List.append_nil _).symm⟩
    subst channel
    exact ⟨_, _, rfl, c.takes_full⟩

theorem deals_askUpgrade (e : Endpoint H) (id : TransportId) :
    Deals k [] e (e.askUpgrade id).1 := by
  unfold askUpgrade
  split
  · exact .refl e
  · next t found =>
    split
    · next t' asked =>
      refine ⟨rfl, rfl, accounts_emit _ _, .of_calls [.upgradeAsked id] found
        (by simp [Event.transport?]) (fun c channel => ?_) rfl rfl⟩
      subst channel
      obtain ⟨c', taken, rfl⟩ := exists_of_map asked
      exact ⟨_, c', rfl, Channel.takes_upgrade taken⟩
    · next err asked =>
      refine ⟨rfl, rfl, accounts_emit e _, .of_refused rfl (fun c channel => ?_) fun _ => rfl⟩
      obtain rfl : t = .channel c := Option.some.inj (found.symm.trans channel)
      exact Channel.order?_of_refused (refused_of_map asked)

theorem deals_closeTransport (e : Endpoint H) (id : TransportId) :
    Deals k [] e (e.closeTransport id) := by
  unfold closeTransport
  split
  · exact .refl e
  · next t found =>
    refine ⟨rfl, rfl, accounts_emit _ _, .of_calls [.transportClosed id] found
      (by simp [Event.transport?]) (fun c channel => ?_) rfl rfl⟩
    subst channel
    obtain ⟨given, takes⟩ := c.takes_close id
    exact ⟨given, _, rfl, takes⟩

/-- To let go of a transport orders nothing. -/
theorem grows_release (transports : e'.transports = e.transports.modify id Transport.release)
    (calls : e'.callsOf k = e.callsOf k) : Grows k e e' := by
  intro c found
  by_cases same : id = k
  · subst same
    refine ⟨[], [], c.release, ?_, by rw [calls, List.append_nil], c.takes_release⟩
    simp [transports, found, Transport.release]
  · refine ⟨[], [], c, ?_, by rw [calls, List.append_nil], .refl c⟩
    simp [transports, found, same]

theorem deals_releaseTransport (e : Endpoint H) : Deals k [] e e.releaseTransport := by
  unfold releaseTransport
  split
  · exact .refl e
  · exact ⟨rfl, rfl, (List.append_nil _).symm, grows_release rfl rfl⟩

/-! ### Ending -/

theorem deals_release (e : Endpoint H) (phase : Phase H) : Deals k [] e (e.release phase) := by
  have cleared {d : Endpoint H} (h : Deals k [] e d) : Deals k [] e { d with conn := { d.conn with
      phase, deferred := [], upgradeHandler := none, timer := none } } :=
    h.trans (.of_same rfl rfl rfl rfl)
  unfold release
  dsimp only
  split
  · exact cleared (((deals_remark e _).trans (deals_closeTransport _ _)).trans
      (deals_releaseTransport _))
  · exact cleared (.refl e)

theorem deals_shutdown (e : Endpoint H) : Deals k [] e e.shutdown := deals_release e _

theorem deals_finishQuit (e : Endpoint H) : Deals k [] e e.finishQuit := by
  have ended : Deals k [] e { e with conn := { e.conn with timer := none } } :=
    .of_same rfl rfl rfl rfl
  exact ended.trans (deals_shutdown _)

theorem deals_setBroken (e : Endpoint H) : Deals k [] e e.setBroken := by
  unfold setBroken
  split
  · exact deals_remark e _
  · exact ((deals_remark e _).trans (deals_release _ _)).trans (deals_operationEnded _)

theorem deals_noteClosed (e : Endpoint H) : Deals k [.closed] e e.noteClosed := by
  have noted : Deals k [.closed] e
      ((e.remark .socketClosed).emit (.connectionClosed e.conn.view)) :=
    (deals_remark e _).trans (deals_emit _ (.connectionClosed _) rfl)
  exact noted.trans (.of_same rfl rfl rfl rfl)

theorem deals_deliverError (e : Endpoint H) (err : Error) :
    Deals k [] e (e.deliverError err).1 := by
  unfold deliverError
  split
  · exact .refl e
  · exact (deals_remark e _).trans (deals_finishQuit _)
  · exact deals_remark e _

theorem deals_fault (e : Endpoint H) (err : Error) : Deals k [] e (e.fault err).1 := by
  unfold fault
  split
  · exact deals_remark e _
  · exact ((deals_setBroken e).trans (deals_remark _ _)).trans (deals_deliverError _ err)

theorem deals_closed (e : Endpoint H) : Deals k [.closed] e e.closed.1 := by
  have noted := deals_noteClosed (k := k) e
  rw [closed_eq]
  split
  · exact ((noted.trans (deals_setBroken _)).trans (deals_remark _ _)).trans
      (deals_deliverError _ _)
  · split
    · exact (noted.trans (deals_remark _ _)).trans (deals_setBroken _)
    · exact noted.trans (deals_remark _ _)

/-! ### Opening and input -/

theorem deals_dial (e : Endpoint H) (config : Config) (greeting onError : H) :
    Deals k [] e (e.dial config greeting onError) := by
  have opening : Deals k [] e.releaseTransport { e.releaseTransport with
      conn := { e.releaseTransport.conn with
        address := config.address
        quitTimeout := config.quitTimeout
        errorHandler := some (.app onError)
        peerClosed := false
        phase := .connecting greeting } } := .of_same rfl rfl rfl rfl
  exact ((deals_releaseTransport e).trans opening).trans (deals_remark _ .opening)

theorem deals_connectFailed (e : Endpoint H) (err : Error) :
    Deals k [.failed] e (e.connectFailed err).1 := by
  have heard : Deals k [] e (if (e.remark .connectFailed).conn.state = .connecting
      then (e.remark .connectFailed).setPhase .broken else e.remark .connectFailed) := by
    split
    · exact (deals_remark e _).trans (.of_same rfl rfl rfl rfl)
    · exact deals_remark e _
  exact (heard.trans (deals_emit _ .connectFailed rfl)).trans (deals_deliverError _ err)

theorem deals_deliverReplies (e : Endpoint H) (batch : List Reply) :
    Deals k [] e (e.deliverReplies batch).1 := by
  have emptied : Deals k [] e (e.setSlot none) := .of_same rfl rfl rfl rfl
  unfold deliverReplies
  dsimp only
  split
  · exact deals_remark e _
  · exact emptied.trans (.of_same rfl rfl rfl rfl)
  · split
    · exact emptied.trans (deals_remark _ _)
    · exact emptied
  · split
    · exact emptied.trans (deals_remark _ _)
    · exact emptied
  · split
    · exact emptied.trans (deals_remark _ _)
    · dsimp only [done]
      split
      · exact emptied.trans (deals_finishQuit _)
      · exact (emptied.trans (deals_remark _ _)).trans (deals_finishQuit _)

theorem deals_dispatch (e : Endpoint H) : Deals k [] e e.dispatch.1 := by
  have polled : Deals k [] e { e with conn := { e.conn with
      assembler := e.conn.assembler.poll.1 } } := .of_same rfl rfl rfl rfl
  unfold dispatch
  dsimp only
  split
  · exact polled
  · exact polled.trans (deals_fault _ _)
  · exact polled.trans (deals_deliverReplies _ _)

theorem deals_input (e : Endpoint H) (data : Bytes) : Deals k [] e (e.input data).1 := by
  unfold input
  split
  · exact .of_same rfl rfl rfl rfl
  · exact deals_remark e _

theorem deals_upgraded (e : Endpoint H) (result : Outcome) :
    Deals k [] e (e.upgraded result).1 := by
  have dropped : Deals k [] e (if result.isOk then e.dropInput else e) := by
    split
    · exact .of_same rfl rfl rfl rfl
    · exact .refl e
  unfold upgraded
  dsimp only
  split
  · exact dropped.trans (.of_same rfl rfl rfl rfl)
  · exact dropped.trans (deals_remark _ _)

theorem deals_timeout (e : Endpoint H) (now : Instant) : Deals k [] e (e.timeout now) := by
  unfold timeout
  split
  · split
    · exact (deals_remark e .quitTimedOut).trans (deals_finishQuit _)
    · exact .refl e
  · exact .refl e

/-! ### Writing -/

theorem deals_writeWith (e : Endpoint H) (text : String) (mask : Option Nat)
    (handler : ReplyHandler H) : Deals k [] e (e.writeWith text mask handler).1.1 := by
  unfold writeWith
  split
  · exact (deals_remark e _).trans (deals_deliverError _ _)
  · split
    · exact (deals_remark e _).trans (deals_deliverError _ _)
    · next id _ =>
      have filled : Deals k [] e (e.setSlot (some handler)) := .of_same rfl rfl rfl rfl
      have sent := (filled.trans (deals_remark _ (.command (redact text mask)))).trans
        (deals_sendBytes _ id (lineBytes text))
      dsimp only
      split
      · next h =>
        rw [h] at sent
        exact sent
      · next h =>
        rw [h] at sent
        exact sent.trans (deals_fault _ _)

theorem deals_writeCommands (e : Endpoint H) (commands : List String) (handler : H) :
    Deals k [] e (e.writeCommands commands handler).1 := by
  cases none : commands.isEmpty with
  | true =>
    rw [writeCommands, if_pos none]
    exact deals_deliverError e _
  | false =>
    have expected : Deals k [] e (e.expect commands.length) := .of_same rfl rfl rfl rfl
    rw [fst_writeCommands none]
    exact expected.trans (deals_writeWith _ _ _ _)

theorem deals_writeLine (e : Endpoint H) (line : String) : Deals k [] e (e.writeLine line).1 := by
  unfold writeLine
  split
  · exact .refl e
  · split
    · exact .refl e
    · exact (deals_remark e _).trans (deals_sendBytes _ _ _)

theorem deals_defer (e : Endpoint H) (line : String) (handler : H) :
    Deals k [] e (e.defer line handler) :=
  (deals_remark e .queueFull).trans (.of_same rfl rfl rfl rfl)

theorem deals_writeLineWithRoom (e : Endpoint H) (line : String) (handler : H) :
    Deals k [] e (e.writeLineWithRoom line handler).1 := by
  unfold writeLineWithRoom
  split
  · exact .refl e
  · split
    · exact .refl e
    · next id _ =>
      have asked := deals_askFull (k := k) e id
      split
      · exact deals_defer e line handler
      · split
        · next h =>
          rw [h] at asked
          exact asked.trans (deals_defer _ line handler)
        · next h =>
          rw [h] at asked
          exact (asked.trans (deals_remark _ _)).trans (deals_sendBytes _ _ _)

theorem deals_upgrade (e : Endpoint H) (handler : H) : Deals k [] e (e.upgrade handler).1 := by
  unfold upgrade
  split
  · exact .refl e
  · next id _ =>
    have asked := deals_askUpgrade (k := k) e id
    split
    · next h =>
      rw [h] at asked
      exact asked.trans (.of_same rfl rfl rfl rfl)
    · next h =>
      rw [h] at asked
      exact asked

/-! ### The pool and deferred tasks -/

theorem deals_changeUsage (e : Endpoint H) (origin usage : Usage) :
    Deals k [] e (e.changeUsage origin usage) := by
  unfold changeUsage
  split
  · exact .of_same rfl rfl rfl rfl
  · exact deals_remark e _

theorem deals_close (e : Endpoint H) : Deals k [] e e.close := by
  unfold close
  split
  · exact deals_remark e _
  · exact .of_same rfl rfl rfl rfl

theorem deals_returnToPool (e : Endpoint H) : Deals k [] e e.returnToPool.1 := by
  unfold returnToPool
  split
  · exact (deals_remark e _).trans (deals_deliverError _ _)
  · split
    · exact (deals_remark e _).trans (deals_close _)
    · have emptied : Deals k [] e ((e.remark .returned).setSlot none) :=
        (deals_remark e _).trans (.of_same rfl rfl rfl rfl)
      have ended : Deals k [] e ((e.remark .returned).setSlot none).operationEnded :=
        emptied.trans (deals_operationEnded _)
      exact ended.trans (.of_same rfl rfl rfl rfl)

theorem deals_runClose (e : Endpoint H) : Deals k [] e e.runClose.1 := by
  have begun : Deals k [] e (e.remark .shuttingDown).beginQuit :=
    (deals_remark e _).trans (.of_same rfl rfl rfl rfl)
  unfold runClose
  split
  · exact deals_remark e _
  · dsimp only
    split
    · exact ((deals_remark e _).trans (deals_remark _ _)).trans (deals_shutdown _)
    · exact begun.trans (deals_writeWith _ _ _ _)

theorem deals_runTasks (e : Endpoint H) : Deals k [] e e.runTasks.1 := by
  unfold runTasks
  split
  · exact .refl e
  · next task rest _ =>
    have taken : Deals k [] e { e with conn := { e.conn with scheduled := rest } } :=
      .of_same rfl rfl rfl rfl
    dsimp only
    split
    · exact taken
    · exact taken.trans (deals_runClose _)

theorem deals_runScheduled (e : Endpoint H) : Deals k [] e e.runScheduled.1 := by
  unfold runScheduled
  split
  · exact .refl e
  · exact deals_emit e .offContext rfl

/-! ### Operations and work -/

/-- A transport that is handed over only grows: it is closed at once, or nothing is asked of
it. -/
theorem grows_handedOver (e : Endpoint H) (t : Transport) :
    Grows k { e with transports := e.transports ++ [t] } (e.connected t) := by
  unfold connected
  dsimp only
  split
  · exact .of_same rfl (callsOf_remark _ _ k)
  · have closed : Deals k [] { e with transports := e.transports ++ [t] } _ :=
      (deals_remark _ .lateSocket).trans (deals_closeTransport _ e.transports.length)
    exact closed.grows.trans (grows_release rfl rfl)

/-- To hand over one more transport is no dealing with those that are there. -/
theorem grows_connected (there : k < e.transports.length) (t : Transport) :
    Grows k e (e.connected t) := by
  have more : Grows k e { e with transports := e.transports ++ [t] } :=
    .of_same (List.getElem?_append_left there) rfl
  exact more.trans (grows_handedOver e t)

theorem accounts_connected (e : Endpoint H) (t : Transport) :
    (e.connected t).accounts = e.accounts := by
  by_cases waiting : e.conn.state = .connecting
  · obtain ⟨greeting, phase⟩ := phase_of_connecting waiting
    rw [connected_of_connecting t phase]
    exact (accounts_emit _ _).trans (List.append_nil _)
  · rw [accounts, trace_connected_of_not_connecting t waiting, List.filterMap_append]
    exact List.append_nil _

theorem deals_perform (e : Endpoint H) (operation : Operation H)
    (h : (Label.operate operation).isConnected = false) :
    Deals k (Work.perform operation).account?.toList e (e.perform operation).1 := by
  cases operation with
  | dial config greeting onError => exact deals_dial e config greeting onError
  | connected t => exact absurd h (by simp [Label.isConnected])
  | connectFailed err => exact deals_connectFailed e err
  | input data => exact deals_input e data
  | fault err => exact deals_fault e err
  | closed => exact deals_closed e
  | drained =>
    have taken : Deals k [] e { e with conn := { e.conn with deferred := [] } } :=
      .of_same rfl rfl rfl rfl
    exact taken.trans (deals_remark _ .drained)
  | upgraded result => exact deals_upgraded e result
  | timeout now => exact deals_timeout e now
  | write text mask handler => exact deals_writeWith e text mask _
  | writeCommands commands handler => exact deals_writeCommands e commands handler
  | writeLine line => exact (deals_writeLine e line).trans (deals_emit _ (.lineResult _) rfl)
  | writeLineWithRoom line handler => exact deals_writeLineWithRoom e line handler
  | upgrade handler => exact deals_upgrade e handler
  | learnCapabilities reply =>
    have learned : Deals k [] e { e with conn := { e.conn with capabilities := .ofReply reply } } :=
      .of_same rfl rfl rfl rfl
    exact learned.trans (deals_remark _ .capabilitiesLearned)
  | setIdle | useConnection => exact deals_changeUsage e _ _
  | returnToPool => exact deals_returnToPool e
  | requestShutdown => exact (deals_remark e .shutdownRequested).trans (.of_same rfl rfl rfl rfl)
  | setBroken => exact deals_setBroken e
  | close => exact deals_close e
  | setErrorHandler | resetErrorHandler | runOnContext => exact .of_same rfl rfl rfl rfl
  | runScheduled => exact deals_runScheduled e

/-- **Work lets a channel grow, and tells the listener of an end if it is the one of the two
operations that do so**, unless it hands a socket over. -/
theorem deals_resume (e : Endpoint H) (w : Work H) (h : ∀ t, w ≠ .perform (.connected t)) :
    Deals k w.account?.toList e (e.resume w).1 := by
  cases w with
  | call handler notice => exact .refl e
  | perform operation =>
    refine deals_perform e operation ?_
    cases operation with
    | connected t => exact absurd rfl (h t)
    | _ => rfl
  | dispatch => exact deals_dispatch e
  | sendDeferred deferred => exact deals_writeLine e deferred.line
  | expectOne => exact .of_same rfl rfl rfl rfl
  | runTasks => exact deals_runTasks e

/-- Even when a socket is handed over, the channels that are there do no more than grow. -/
theorem grows_resume (there : k < e.transports.length) (w : Work H) :
    Grows k e (e.resume w).1 := by
  by_cases h : ∃ t, w = .perform (.connected t)
  · obtain ⟨t, rfl⟩ := h
    exact grows_connected there t
  · exact (deals_resume e w fun t same => h ⟨t, same⟩).grows

end Endpoint

end SmtpLink
