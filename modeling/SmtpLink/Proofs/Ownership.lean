import SmtpLink.Proofs.Fault
import SmtpLink.Proofs.Scope

/-!
# Who owns a transport

A transport that is handed over belongs to the connection.  The connection holds it as long as
it lives on it, or lets go of it, which it does by closing it; nothing is asked of a transport
after that.  A transport that nobody waits for is let go of at once.

## Main definitions

* `Endpoint.callsOf` — the calls that were made of a transport.
* `Endpoint.Holds`, `Endpoint.HasLetGo` — the two fates of a transport.
* `Endpoint.Uses`, `Endpoint.LetsGo` — what effects do to the transport that is held.

## Main results

* `Endpoint.Effect.uses_or_letsGo` — **effects use the transport that is held, or close it and
  let go of it.**
* `Machine.transports_closed_once` — **every transport is held and open, or was closed exactly
  once, and then last**, in every run that opens the connection at most once.
-/

namespace SmtpLink

variable {H : Type}

/-- The transport that the event is a call of. -/
def Event.transport? : Event → Option TransportId
  | .wrote id _ | .writeRefused id | .upgradeAsked id | .transportClosed id => some id
  | _ => none

/-- A transport is handed over. -/
def Label.isConnected : Label H → Bool
  | .operate (.connected _) => true
  | _ => false

namespace Endpoint

variable {loud : Bool} {e e' : Endpoint H} {id : TransportId}

/-- The calls that were made of a transport, oldest first. -/
def callsOf (e : Endpoint H) (id : TransportId) : List Event :=
  e.trace.filter fun event => event.transport? == some id

/-- The transport is held, and was not closed. -/
structure Holds (e : Endpoint H) (id : TransportId) : Prop where
  /-- The connection lives on the transport. -/
  held : e.conn.phase.transport? = some id
  /-- The transport was not closed. -/
  unclosed : .transportClosed id ∉ e.callsOf id

/-- The transport was closed exactly once, after all other calls, and is held no more. -/
structure HasLetGo (e : Endpoint H) (id : TransportId) : Prop where
  /-- The connection does not live on the transport. -/
  free : e.conn.phase.transport? ≠ some id
  /-- The last call closed the transport, and no other did. -/
  closedLast : ∃ earlier, e.callsOf id = earlier ++ [.transportClosed id] ∧
    .transportClosed id ∉ earlier

/-- Every transport that was handed over has one of the two fates, and nothing was asked of any
other. -/
structure Owns (e : Endpoint H) : Prop where
  /-- Every transport has one of the two fates. -/
  fate : ∀ id < e.transports.length, e.Holds id ∨ e.HasLetGo id
  /-- Nothing was asked of a transport that was not handed over. -/
  fresh : ∀ id, e.transports.length ≤ id → e.callsOf id = []

/-- The transport that is held stays, and is the only one that may be called. -/
structure Uses (e e' : Endpoint H) : Prop where
  /-- The connection lives on the same transport. -/
  transport : e'.conn.phase.transport? = e.conn.phase.transport?
  /-- No transport is handed over. -/
  length : e'.transports.length = e.transports.length
  /-- No transport is closed, and no other than the one that is held is called. -/
  calls : ∀ id, ∃ new, e'.callsOf id = e.callsOf id ++ new ∧ .transportClosed id ∉ new ∧
    (e.conn.phase.transport? ≠ some id → new = [])

/-- The transport that was held, if there was one, is closed, and no transport is held any
more. -/
structure LetsGo (e e' : Endpoint H) : Prop where
  /-- No transport is held. -/
  transport : e'.conn.phase.transport? = none
  /-- No transport is handed over. -/
  length : e'.transports.length = e.transports.length
  /-- The transport that was held is closed, and no other is called. -/
  calls : ∀ id, e'.callsOf id = e.callsOf id ++
    if e.conn.phase.transport? = some id then [.transportClosed id] else []

/-! ### The calls of a transport -/

theorem callsOf_of_trace (h : e'.trace = e.trace) (id : TransportId) :
    e'.callsOf id = e.callsOf id := by
  rw [callsOf, callsOf, h]

theorem callsOf_append {new : List Event} (h : e'.trace = e.trace ++ new) (id : TransportId) :
    e'.callsOf id = e.callsOf id ++ new.filter fun event => event.transport? == some id := by
  rw [callsOf, h, List.filter_append, callsOf]

theorem callsOf_emit (e : Endpoint H) (event : Event) (id : TransportId) :
    (e.emit event).callsOf id =
      e.callsOf id ++ if event.transport? = some id then [event] else [] := by
  rw [callsOf_append (trace_emit e event)]
  by_cases h : event.transport? = some id <;> simp [h]

theorem callsOf_emit_of_none {event : Event} (h : event.transport? = none) (id : TransportId) :
    (e.emit event).callsOf id = e.callsOf id := by
  rw [callsOf_emit, h, if_neg (by simp), List.append_nil]

@[simp] theorem callsOf_remark (e : Endpoint H) (r : Remark) (id : TransportId) :
    (e.remark r).callsOf id = e.callsOf id :=
  callsOf_emit_of_none rfl id

/-! ### Using a transport -/

namespace Uses

theorem of_same (transport : e'.conn.phase.transport? = e.conn.phase.transport?)
    (length : e'.transports.length = e.transports.length) (trace : e'.trace = e.trace) :
    Uses e e' :=
  ⟨transport, length, fun id => ⟨[], by rw [callsOf_of_trace trace, List.append_nil], by simp,
    fun _ => rfl⟩⟩

theorem emit_of_none {event : Event} (h : event.transport? = none) : Uses e (e.emit event) :=
  ⟨rfl, rfl, fun id => ⟨[], by rw [callsOf_emit_of_none h, List.append_nil], by simp,
    fun _ => rfl⟩⟩

/-- A call of the transport that is held, other than to close it. -/
theorem emit_of_held {event : Event} (held : e.conn.phase.transport? = some id)
    (h : event.transport? = some id) (open_ : event ≠ .transportClosed id) :
    Uses e (e.emit event) := by
  refine ⟨rfl, rfl, fun id' => ⟨_, callsOf_emit e event id', ?_, fun free => ?_⟩⟩
  · split
    · next hid =>
      obtain rfl : id = id' := Option.some.inj (h.symm.trans hid)
      simpa using Ne.symm open_
    · simp
  · rw [if_neg]
    intro hid
    exact free (held.trans (h.symm.trans hid))

theorem trans {e'' : Endpoint H} (h : Uses e e') (h' : Uses e' e'') : Uses e e'' := by
  refine ⟨h'.transport.trans h.transport, h'.length.trans h.length, fun id => ?_⟩
  obtain ⟨new, calls, unclosed, quiet⟩ := h.calls id
  obtain ⟨new', calls', unclosed', quiet'⟩ := h'.calls id
  refine ⟨new ++ new', by rw [calls', calls, List.append_assoc], ?_, fun free => ?_⟩
  · rw [List.mem_append]
    exact not_or.mpr ⟨unclosed, unclosed'⟩
  · rw [quiet free, quiet' (by rw [h.transport]; exact free), List.append_nil]

end Uses

theorem uses_sendBytes (held : e.conn.phase.transport? = some id) (data : Bytes) :
    Uses e (e.sendBytes id data).1 := by
  unfold sendBytes
  split
  · exact .of_same rfl rfl rfl
  · split
    · next t' ht =>
      have set : Uses e (e.setTransport id t') := .of_same rfl List.length_set rfl
      have took : Uses (e.setTransport id t') ((e.setTransport id t').emit (.wrote id data)) :=
        .emit_of_held held rfl (by simp)
      exact set.trans took
    · exact .emit_of_held held rfl (by simp)

theorem uses_askFull (e : Endpoint H) (id : TransportId) : Uses e (e.askFull id).2 := by
  unfold askFull
  split
  · exact .of_same rfl rfl rfl
  · exact .of_same rfl List.length_set rfl

theorem uses_askUpgrade (held : e.conn.phase.transport? = some id) :
    Uses e (e.askUpgrade id).1 := by
  unfold askUpgrade
  split
  · exact .of_same rfl rfl rfl
  · split
    · next t' ht =>
      have set : Uses e (e.setTransport id t') := .of_same rfl List.length_set rfl
      have asked : Uses (e.setTransport id t') ((e.setTransport id t').emit (.upgradeAsked id)) :=
        .emit_of_held held rfl (by simp)
      exact set.trans asked
    · exact .emit_of_held held rfl (by simp)

theorem uses_changeUsage (e : Endpoint H) (origin usage : Usage) :
    Uses e (e.changeUsage origin usage) := by
  unfold changeUsage
  split
  · exact .of_same (Phase.transport?_relabel _ _) rfl rfl
  · exact .emit_of_none rfl

theorem uses_noteClosed (e : Endpoint H) : Uses e e.noteClosed := by
  have noted : Uses e ((e.remark .socketClosed).emit (.connectionClosed e.conn.view)) :=
    (Uses.emit_of_none rfl).trans (.emit_of_none rfl)
  exact noted.trans (.of_same rfl rfl rfl)

/-! ### Letting go of a transport -/

namespace LetsGo

/-- What comes before and after makes no difference if it calls no transport. -/
theorem of_same {d d' : Endpoint H} (h : LetsGo d d')
    (transport : d.conn.phase.transport? = e.conn.phase.transport?)
    (length : d.transports.length = e.transports.length)
    (calls : ∀ id, d.callsOf id = e.callsOf id)
    (transport' : e'.conn.phase.transport? = d'.conn.phase.transport?)
    (length' : e'.transports.length = d'.transports.length)
    (calls' : ∀ id, e'.callsOf id = d'.callsOf id) : LetsGo e e' :=
  ⟨transport'.trans h.transport, (length'.trans h.length).trans length, fun id => by
    rw [calls', h.calls, calls, transport]⟩

/-- A connection without a socket has nothing to close. -/
theorem of_gone (gone : e.conn.phase.transport? = none) (uses : Uses e e') : LetsGo e e' := by
  refine ⟨uses.transport.trans gone, uses.length, fun id => ?_⟩
  obtain ⟨new, calls, -, quiet⟩ := uses.calls id
  rw [calls, quiet (by rw [gone]; simp), gone, if_neg (by simp)]

end LetsGo

variable (handed : ∀ id, e.conn.phase.transport? = some id → id < e.transports.length)
include handed

theorem letsGo_release {phase : Phase H} (gone : phase.transport? = none) :
    LetsGo e (e.release phase) := by
  refine ⟨by rw [phase_release, gone], (touches_release (s := {}) e phase).transports rfl,
    fun id => ?_⟩
  cases held : e.conn.phase.transport? with
  | none => rw [callsOf_of_trace (trace_release_of_gone held phase)]; simp
  | some id' =>
    rw [callsOf_append (trace_release_of_held held (handed id' held) phase)]
    by_cases hid : id' = id
    · subst hid
      simp [Event.transport?]
    · simp [Event.transport?, hid]

theorem letsGo_shutdown : LetsGo e e.shutdown := by
  refine letsGo_release handed ?_
  split <;> rfl

theorem letsGo_finishQuit : LetsGo e e.finishQuit :=
  (letsGo_shutdown (e := { e with conn := { e.conn with timer := none } }) handed).of_same
    rfl rfl (fun _ => rfl) rfl rfl fun _ => rfl

theorem letsGo_setBroken : LetsGo e e.setBroken := by
  cases terminal : e.conn.state.isTerminal with
  | true =>
    rw [setBroken_of_terminal terminal]
    exact .of_gone (Phase.transport?_of_terminal terminal) (.emit_of_none rfl)
  | false =>
    rw [setBroken_of_not_terminal terminal]
    have released : LetsGo (e.remark .breaking) ((e.remark .breaking).release .broken) :=
      letsGo_release (e := e.remark .breaking) handed rfl
    exact released.of_same rfl rfl (callsOf_remark e _) rfl rfl fun id =>
      callsOf_emit_of_none rfl id

omit handed

theorem callsOf_noteClosed (e : Endpoint H) (id : TransportId) :
    e.noteClosed.callsOf id = e.callsOf id :=
  (callsOf_emit_of_none (e := e.remark .socketClosed) rfl id).trans (callsOf_remark e _ id)

/-- **Effects use the transport that is held, or close it and let go of it**; besides, transports
are handed over. -/
theorem Effect.uses_or_letsGo (sound : e.Sound) (effect : Effect loud e e') :
    Uses e e' ∨ LetsGo e e' ∨ ∃ t, e' = e.connected t := by
  have handed := sound.held
  have noted : ∀ id, e.noteClosed.conn.phase.transport? = some id →
      id < e.noteClosed.transports.length := handed
  cases effect with
  | @event _ _ event plain =>
    refine .inl (.emit_of_none ?_)
    cases event <;> simp_all [Event.isPlain, Event.transport?]
  | outside outside =>
    exact .inl (.of_same (by rw [outside.conn_eq]) outside.length_transports outside.trace_eq)
  | fillSlot handler held peer => exact .inl (.of_same (transport?_setSlot _ _) rfl rfl)
  | emptySlot => exact .inl (.of_same (transport?_setSlot _ _) rfl rfl)
  | send data held peer => exact .inl (uses_sendBytes held data)
  | askFull held => exact .inl (uses_askFull e _)
  | askUpgrade held => exact .inl (uses_askUpgrade held)
  | park => exact .inl (uses_changeUsage e _ _)
  | use => exact .inl (uses_changeUsage e _ _)
  | connected t => exact .inr (.inr ⟨t, rfl⟩)
  | refused waiting =>
    have gone : e.conn.phase.transport? = none := by
      rw [← Option.not_isSome_iff_eq_none, ← Phase.isLive_state, ← Connection.state, waiting]
      simp [ConnectionState.isLive]
    exact .inl (.of_same gone.symm rfl rfl)
  | setBroken => exact .inr (.inl (letsGo_setBroken handed))
  | fault peer inFlight =>
    exact .inr (.inl ((letsGo_setBroken handed).of_same rfl rfl (fun _ => rfl) rfl rfl
      (callsOf_remark _ _)))
  | hangUp inFlight =>
    exact .inr (.inl ((letsGo_setBroken noted).of_same rfl rfl (callsOf_noteClosed e) rfl rfl
      (callsOf_remark _ _)))
  | retire idle =>
    have found : ∀ id, (e.noteClosed.remark .closedWhileIdle).callsOf id = e.callsOf id :=
      fun id => (callsOf_remark _ _ id).trans (callsOf_noteClosed e id)
    exact .inr (.inl ((letsGo_setBroken (e := e.noteClosed.remark .closedWhileIdle) noted).of_same
      rfl rfl found rfl rfl fun _ => rfl))
  | closeExpected gone => exact .inl (uses_noteClosed e)
  | giveBack notIdle notRequested =>
    have emptied : Uses e (e.setSlot none) := .of_same (transport?_setSlot _ _) rfl rfl
    have ended : Uses (e.setSlot none) (e.setSlot none).operationEnded := .emit_of_none rfl
    exact .inl ((emptied.trans ended).trans (.of_same rfl rfl rfl))
  | beginQuit peer live => exact .inl (.of_same (Phase.transport?_relabel _ _) rfl rfl)
  | finishQuit waits => exact .inr (.inl (letsGo_finishQuit handed))
  | shutdown gone notYet => exact .inr (.inl (letsGo_shutdown handed))
  | _ => exact .inl (.of_same rfl rfl rfl)

/-! ### The two fates -/

/-- The calls of a transport that was let go of are the same as before, and it is not held. -/
def Spares (id : TransportId) (e e' : Endpoint H) : Prop :=
  e'.conn.phase.transport? ≠ some id ∧ e'.callsOf id = e.callsOf id

theorem HasLetGo.of_spares (h : e.HasLetGo id) (spares : Spares id e e') : e'.HasLetGo id :=
  ⟨spares.1, by rw [spares.2]; exact h.closedLast⟩

theorem Uses.spares (uses : Uses e e') (free : e.conn.phase.transport? ≠ some id) :
    Spares id e e' := by
  obtain ⟨new, calls, -, quiet⟩ := uses.calls id
  exact ⟨by rw [uses.transport]; exact free, by rw [calls, quiet free, List.append_nil]⟩

theorem LetsGo.spares (letsGo : LetsGo e e') (free : e.conn.phase.transport? ≠ some id) :
    Spares id e e' :=
  ⟨by rw [letsGo.transport]; simp, by rw [letsGo.calls, if_neg free, List.append_nil]⟩

theorem Owns.uses (owns : e.Owns) (sound : e.Sound) (uses : Uses e e') : e'.Owns where
  fate id lt := by
    rw [uses.length] at lt
    rcases owns.fate id lt with holds | letGo
    · obtain ⟨new, calls, unclosed, -⟩ := uses.calls id
      refine .inl ⟨uses.transport.trans holds.held, ?_⟩
      rw [calls, List.mem_append]
      exact not_or.mpr ⟨holds.unclosed, unclosed⟩
    · exact .inr (letGo.of_spares (uses.spares letGo.free))
  fresh id le := by
    rw [uses.length] at le
    have free : e.conn.phase.transport? ≠ some id := fun held =>
      absurd (sound.held id held) (Nat.not_lt.mpr le)
    rw [(uses.spares free).2, owns.fresh id le]

theorem Owns.letsGo (owns : e.Owns) (sound : e.Sound) (letsGo : LetsGo e e') : e'.Owns where
  fate id lt := by
    rw [letsGo.length] at lt
    rcases owns.fate id lt with holds | letGo
    · refine .inr ⟨by rw [letsGo.transport]; simp, e.callsOf id, ?_, holds.unclosed⟩
      rw [letsGo.calls, if_pos holds.held]
    · exact .inr (letGo.of_spares (letsGo.spares letGo.free))
  fresh id le := by
    rw [letsGo.length] at le
    have free : e.conn.phase.transport? ≠ some id := fun held =>
      absurd (sound.held id held) (Nat.not_lt.mpr le)
    rw [(letsGo.spares free).2, owns.fresh id le]

theorem length_transports_connected (e : Endpoint H) (t : Transport) :
    (e.connected t).transports.length = e.transports.length + 1 := by
  unfold connected
  dsimp only
  split
  · exact List.length_append
  · refine (List.length_modify _ _ _).trans ((length_transports_closeTransport _ _).trans ?_)
    exact List.length_append

/-- The calls of the transports when one is handed over: one that nobody waits for is closed. -/
theorem callsOf_connected (e : Endpoint H) (t : Transport) (id : TransportId) :
    (e.connected t).callsOf id = e.callsOf id ++
      if e.conn.state ≠ .connecting ∧ e.transports.length = id then [.transportClosed id]
      else [] := by
  by_cases hs : e.conn.state = .connecting
  · obtain ⟨greeting, hp⟩ := phase_of_connecting hs
    rw [connected_of_connecting t hp, callsOf_remark, if_neg (by simp [hs]), List.append_nil]
    rfl
  · rw [callsOf_append (trace_connected_of_not_connecting t hs)]
    by_cases hid : e.transports.length = id
    · subst hid
      simp [Event.transport?, hs]
    · simp [Event.transport?, hid]

/-- A transport that is handed over is held if it was waited for, and no other becomes held. -/
theorem transport?_connected (e : Endpoint H) (t : Transport) :
    (e.connected t).conn.phase.transport? =
      if e.conn.state = .connecting then some e.transports.length else e.conn.phase.transport? := by
  split
  · next hs =>
    obtain ⟨greeting, hp⟩ := phase_of_connecting hs
    rw [connected_of_connecting t hp]
    rfl
  · next hs => rw [conn_connected_of_not_connecting t hs]

theorem Owns.connected_spares (owns : e.Owns) (t : Transport) (letGo : e.HasLetGo id) :
    Spares id e (e.connected t) := by
  have other : e.transports.length ≠ id := by
    intro same
    obtain ⟨earlier, calls, -⟩ := letGo.closedLast
    rw [owns.fresh id (Nat.le_of_eq same)] at calls
    exact absurd calls (by simp)
  refine ⟨?_, by rw [callsOf_connected, if_neg (by simp [other]), List.append_nil]⟩
  rw [transport?_connected]
  split
  · simpa using other
  · exact letGo.free

theorem Owns.connected (owns : e.Owns) (sound : e.Sound) (t : Transport) :
    (e.connected t).Owns where
  fate id lt := by
    rw [length_transports_connected] at lt
    rcases Nat.lt_succ_iff_lt_or_eq.mp lt with lt | rfl
    · rcases owns.fate id lt with holds | letGo
      · -- a connection that holds a transport waits for no other
        have notWaiting : e.conn.state ≠ .connecting := by
          intro hs
          obtain ⟨greeting, hp⟩ := phase_of_connecting hs
          have held := holds.held
          rw [hp] at held
          exact absurd held (by simp [Phase.transport?])
        refine .inl ⟨?_, ?_⟩
        · rw [transport?_connected, if_neg notWaiting]
          exact holds.held
        · rw [callsOf_connected, if_neg (by simp [Nat.ne_of_gt lt]), List.append_nil]
          exact holds.unclosed
      · exact .inr (letGo.of_spares (owns.connected_spares t letGo))
    · have none := owns.fresh e.transports.length (Nat.le_refl _)
      by_cases hs : e.conn.state = .connecting
      · refine .inl ⟨by rw [transport?_connected, if_pos hs], ?_⟩
        rw [callsOf_connected, if_neg (by simp [hs]), none]
        simp
      · refine .inr ⟨?_, [], ?_, by simp⟩
        · rw [transport?_connected, if_neg hs]
          exact fun held => absurd (sound.held _ held) (Nat.lt_irrefl _)
        · rw [callsOf_connected, if_pos ⟨hs, rfl⟩, none]
  fresh id le := by
    rw [length_transports_connected] at le
    rw [callsOf_connected, if_neg (by omega), List.append_nil, owns.fresh id (by omega)]

theorem Effect.owns (sound : e.Sound) (owns : e.Owns) (effect : Effect loud e e') : e'.Owns := by
  rcases effect.uses_or_letsGo sound with uses | letsGo | ⟨t, rfl⟩
  · exact owns.uses sound uses
  · exact owns.letsGo sound letsGo
  · exact owns.connected sound t

/-- Nothing is asked any more of a transport that was let go of. -/
theorem Effect.spares (sound : e.Sound) (owns : e.Owns) (letGo : e.HasLetGo id)
    (effect : Effect loud e e') : Spares id e e' := by
  rcases effect.uses_or_letsGo sound with uses | letsGo | ⟨t, rfl⟩
  · exact uses.spares letGo.free
  · exact letsGo.spares letGo.free
  · exact owns.connected_spares t letGo

/-- A connection that holds no transport has none to lose when it is opened. -/
theorem uses_dial (gone : e.conn.phase.transport? = none) (config : Config)
    (greeting onError : H) : Uses e (e.dial config greeting onError) := by
  have released : e.releaseTransport = e := by
    unfold releaseTransport
    rw [gone]
  have opening : Uses e { e with conn := { e.conn with
      address := config.address
      quitTimeout := config.quitTimeout
      errorHandler := some (.app onError)
      peerClosed := false
      phase := .connecting greeting } } := .of_same gone.symm rfl rfl
  unfold dial
  rw [released]
  exact opening.trans (.emit_of_none rfl)

theorem transport?_of_closed (h : e.conn.state = .closed) : e.conn.phase.transport? = none :=
  Phase.transport?_of_terminal (by rw [← Connection.state, h]; rfl)

end Endpoint

/-! ### Runs -/

namespace Machine

variable {m n : Machine H} {label : Label H} {labels labels' : List (Label H)}

/-- Every transport is accounted for in every run that opens the connection at most once. -/
theorem owns_of_run (run : Run Operation.Any initial labels m)
    (atMost : labels.countP Label.isDial ≤ 1) : m.endpoint.Owns := by
  have start : (initial : Machine H).endpoint.Owns :=
    ⟨fun id lt => absurd lt (Nat.not_lt_zero id), fun id _ => rfl⟩
  refine (Run.nil initial).keep_once (P := Endpoint.Owns) run atMost
    (fun sound owns effect => effect.owns sound owns) ?_ start
  intro e config greeting onError closed owns
  have gone := Endpoint.transport?_of_closed closed
  exact owns.uses (Endpoint.sound_of_gone gone) (Endpoint.uses_dial gone config greeting onError)

/-- A transport that was let go of is never called again. -/
theorem callsOf_of_hasLetGo (run : Run Operation.Any initial labels m)
    (run' : Run Operation.Any m labels' n) (atMost : (labels ++ labels').countP Label.isDial ≤ 1)
    {id : TransportId} (letGo : m.endpoint.HasLetGo id) :
    n.endpoint.callsOf id = m.endpoint.callsOf id := by
  have owns : m.endpoint.Owns := owns_of_run run (by rw [List.countP_append] at atMost; omega)
  refine (run.keep_once (P := fun e => e.Owns ∧ e.HasLetGo id ∧
    e.callsOf id = m.endpoint.callsOf id) run' atMost ?_ ?_ ⟨owns, letGo, rfl⟩).2.2
  · rintro a b sound ⟨owns, letGo, same⟩ effect
    have spares := effect.spares sound owns letGo
    exact ⟨effect.owns sound owns, letGo.of_spares spares, spares.2.trans same⟩
  · rintro e config greeting onError closed ⟨owns, letGo, same⟩
    have gone := Endpoint.transport?_of_closed closed
    have uses := Endpoint.uses_dial gone config greeting onError
    have spares := uses.spares letGo.free
    exact ⟨owns.uses (Endpoint.sound_of_gone gone) uses, letGo.of_spares spares,
      spares.2.trans same⟩

/-- The transports of an endpoint are those that were handed over. -/
theorem length_transports_of_run {admitted : Operation H → Prop}
    (run : Run admitted initial labels m) :
    m.endpoint.transports.length = labels.countP Label.isConnected := by
  generalize hs : (initial : Machine H) = start at run
  induction run with
  | nil =>
    subst hs
    rfl
  | @snoc k n ls label run move ih =>
    subst hs
    rw [List.countP_append, List.countP_singleton, ← ih]
    cases move.turn with
    | @work _ _ w frames due =>
      have within := k.endpoint.within_resume w
      cases due with
      | @work e w frames noCall =>
        have notPerform := (tidy_of_run run).no_perform w List.mem_cons_self
        have length : (e.resume w).1.transports.length = e.transports.length := by
          refine within.touches.transports ?_
          cases w with
          | perform operation => exact absurd notPerform (by simp [Work.isPerform])
          | runTasks => rw [Endpoint.scope]; split <;> rfl
          | _ => rfl
        exact length
      | @operate e operation frames =>
        cases operation with
        | connected t => exact Endpoint.length_transports_connected e t
        | _ => exact within.touches.transports rfl
    | call => rfl
    | leave => rfl
    | outside outside => exact outside.length_transports

/-- **Every transport is held and open, or was closed exactly once, and then last**, in every run
that opens the connection at most once.  A transport that was closed is never called again.  One
that nobody waits for is closed at once, and the connection stays as it is. -/
theorem transports_closed_once (run : Run Operation.Any initial labels m)
    (atMost : labels.countP Label.isDial ≤ 1) :
    m.endpoint.transports.length = labels.countP Label.isConnected ∧
    (∀ id < m.endpoint.transports.length, m.endpoint.Holds id ∨ m.endpoint.HasLetGo id) ∧
    (∀ id, m.endpoint.HasLetGo id → ∀ labels' n, Run Operation.Any m labels' n →
      (labels ++ labels').countP Label.isDial ≤ 1 →
      n.endpoint.callsOf id = m.endpoint.callsOf id) ∧
    (m.endpoint.conn.state ≠ .connecting → ∀ t,
      (m.performed (.connected t)).endpoint.HasLetGo m.endpoint.transports.length ∧
      (m.performed (.connected t)).endpoint.conn = m.endpoint.conn ∧
      (m.performed (.connected t)).frames = m.frames) := by
  have owns := owns_of_run run atMost
  refine ⟨length_transports_of_run run, owns.fate, fun id letGo labels' n run' atMost' =>
    callsOf_of_hasLetGo run run' atMost' letGo, fun notWaiting t => ⟨?_, ?_, rfl⟩⟩
  · have handed : (m.endpoint.connected t).Owns := owns.connected (sound_of_run run) t
    have last : m.endpoint.transports.length < (m.endpoint.connected t).transports.length := by
      rw [Endpoint.length_transports_connected]
      exact Nat.lt_succ_self _
    refine (handed.fate _ last).resolve_left fun holds => ?_
    have held := holds.held
    rw [Endpoint.transport?_connected, if_neg notWaiting] at held
    exact absurd ((sound_of_run run).held _ held) (Nat.lt_irrefl _)
  · exact Endpoint.conn_connected_of_not_connecting t notWaiting

/-- A second socket comes while the first one is in use; then the connection is broken. -/
def twoSockets : List (Choice Nat) :=
  [.operate (.dial (Config.build "mail" []) 0 1), .operate (.connected (.manual {})),
    .operate (.connected (.manual {})), .operate (.write "NOOP" none 2), .operate .setBroken]

/-- Both sockets are closed in the end, and nothing is asked of them any more. -/
theorem two_sockets_closed :
    (∀ id < 2, (initial.play twoSockets).2.endpoint.HasLetGo id) ∧
    ∀ id < 2, ∀ labels' n, Run Operation.Any (initial.play twoSockets).2 labels' n →
      ((initial.play twoSockets).1 ++ labels').countP Label.isDial ≤ 1 →
      n.endpoint.callsOf id = (initial.play twoSockets).2.endpoint.callsOf id := by
  have run := run_play initial twoSockets
  have atMost : (initial.play twoSockets).1.countP Label.isDial ≤ 1 := by decide
  have none : (initial.play twoSockets).2.endpoint.conn.phase.transport? = none := by rfl
  obtain ⟨length, fate, silent, -⟩ := transports_closed_once run atMost
  have two : (initial.play twoSockets).2.endpoint.transports.length = 2 := length.trans (by decide)
  have letGo : ∀ id < 2, (initial.play twoSockets).2.endpoint.HasLetGo id := by
    intro id lt
    refine (fate id (two ▸ lt)).resolve_left fun holds => ?_
    exact absurd (none.symm.trans holds.held) (by simp)
  exact ⟨letGo, fun id lt => silent id (letGo id lt)⟩

end Machine

end SmtpLink
