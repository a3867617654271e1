import SmtpLink.Proofs.Lifecycle

/-!
# What operations keep

Most of what is done to a connection leaves alone who waits for a reply and what has come from
the socket, unless the connection loses its socket over it.  A fault does so too: it is only
remarked, or it breaks the connection.  A command that is written puts its handler into the
slot, whether or not the transport takes the line, and leaves the input alone.

## Main definitions

* `Endpoint.Keeps` — the slot and the input are kept, unless the socket is lost.
* `Endpoint.accepts` — the transport that is held takes a line.

## Main results

* `Endpoint.Effect.keeps_of_quiet`, `Endpoint.keeps_fault`, `Endpoint.keeps_closed` — what keeps
  the slot and the input.
* `Endpoint.conn_writeWith`, `Endpoint.isLive_writeWith` — **what a command does to a
  connection.**
-/

namespace SmtpLink

variable {H : Type}

namespace Endpoint

variable {e e' e'' : Endpoint H}

/-! ### Keeping -/

/-- The connection is left without a socket, or keeps the slot and the input. -/
def Keeps (e e' : Endpoint H) : Prop :=
  e'.conn.isLive = true → e.conn.isLive = true ∧
    e'.conn.assembler = e.conn.assembler ∧ e'.conn.phase.slot? = e.conn.phase.slot?

namespace Keeps

theorem refl (e : Endpoint H) : Keeps e e := fun live => ⟨live, rfl, rfl⟩

theorem trans (h : Keeps e e') (h' : Keeps e' e'') : Keeps e e'' := by
  intro live
  obtain ⟨live, assembler, slot⟩ := h' live
  obtain ⟨live, assembler', slot'⟩ := h live
  exact ⟨live, assembler.trans assembler', slot.trans slot'⟩

theorem of_conn (h : e'.conn = e.conn) : Keeps e e' := by
  intro live
  rw [h] at live ⊢
  exact ⟨live, rfl, rfl⟩

theorem of_gone (gone : e'.conn.isLive = false) : Keeps e e' := by
  intro live
  rw [gone] at live
  exact absurd live (by simp)

/-- Changing the use of a socket keeps who waits. -/
theorem relabel (e : Endpoint H) (usage : Usage) :
    Keeps e (e.setPhase (e.conn.phase.relabel usage)) := by
  intro live
  cases hp : e.conn.phase with
  | live old id slot => simp [setPhase, hp, Phase.relabel, Connection.isLive, Connection.state,
      Phase.state, Phase.slot?, ConnectionState.isLive]
  | _ => simp_all [setPhase, Phase.relabel, Connection.isLive, Connection.state, Phase.state,
      ConnectionState.isLive]

theorem changeUsage (e : Endpoint H) (origin usage : Usage) :
    Keeps e (e.changeUsage origin usage) := by
  unfold Endpoint.changeUsage
  split
  · exact relabel e usage
  · exact of_conn rfl

end Keeps

theorem isLive_setBroken (e : Endpoint H) : e.setBroken.conn.isLive = false := by
  rw [← Bool.not_eq_true, isLive_iff, transport?_setBroken]
  simp

theorem isLive_shutdown (e : Endpoint H) : e.shutdown.conn.isLive = false := by
  rw [← Bool.not_eq_true, isLive_iff, transport?_shutdown]
  simp

/-- **Quiet effects keep the slot and the input.** -/
theorem Effect.keeps_of_quiet (effect : Effect false e e') : Keeps e e' := by
  cases effect with
  | outside outside => exact .of_conn outside.conn_eq
  | send data held peer => exact .of_conn (conn_sendBytes e _ data)
  | askFull held => exact .of_conn (conn_askFull e _)
  | askUpgrade held => exact .of_conn (conn_askUpgrade e _)
  | park => exact .changeUsage e _ _
  | use => exact .changeUsage e _ _
  | refused waiting => exact .of_gone rfl
  | setBroken => exact .of_gone (isLive_setBroken e)
  | retire idle => exact .of_gone (isLive_setBroken _)
  | beginQuit peer live => exact Keeps.relabel e .shuttingDown
  | finishQuit waits => exact .of_gone (isLive_shutdown _)
  | shutdown gone notYet => exact .of_gone (isLive_shutdown e)
  | _ => exact fun live => ⟨live, rfl, rfl⟩

theorem Effects.keeps_of_quiet (effects : Effects false e e') : Keeps e e' :=
  effects.invariant (P := Keeps e) (fun h effect => h.trans effect.keeps_of_quiet) (.refl e)

theorem keeps_fault (e : Endpoint H) (err : Error) : Keeps e (e.fault err).1 := by
  unfold fault
  split
  · exact .of_conn rfl
  · have broken : Keeps e (e.setBroken.remark .fault) := .of_gone (isLive_setBroken e)
    exact broken.trans (effects_deliverError _ err).keeps_of_quiet

theorem keeps_closed (e : Endpoint H) : Keeps e e.closed.1 := by
  have noted : Keeps e e.noteClosed := fun live => ⟨live, rfl, rfl⟩
  rw [closed_eq]
  split
  · have broken : Keeps e (e.noteClosed.setBroken.remark .closedByServer) :=
      .of_gone (isLive_setBroken _)
    exact broken.trans (effects_deliverError _ _).keeps_of_quiet
  · split
    · exact .of_gone (isLive_setBroken _)
    · exact noted.trans (.of_conn rfl)

/-! ### Faults and writes -/

theorem isLive_of_inFlight {c : Connection H} (h : c.state.isInFlight = true) :
    c.isLive = true := by
  unfold Connection.isLive
  cases hs : c.state <;> simp_all [ConnectionState.isInFlight, ConnectionState.isLive]

theorem fault_of_inFlight (peer : e.conn.peerClosed = false)
    (h : e.conn.state.isInFlight = true) (err : Error) :
    e.fault err = (e.setBroken.remark .fault).deliverError err := by
  unfold fault
  rw [if_neg (by simp [peer, h])]

theorem fault_of_not_inFlight (h : e.conn.state.isInFlight = false) (err : Error) :
    e.fault err = (e.remark .faultNotReturned, []) := by
  unfold fault
  rw [if_pos (by simp [h])]
  rfl

/-- A fault is only remarked, or the connection can no longer be used. -/
theorem fault_cases (e : Endpoint H) (err : Error) :
    e.fault err = (e.remark .faultNotReturned, []) ∨
      (e.fault err).1.conn.state.isTerminal = true := by
  unfold fault
  split
  · exact .inl rfl
  · have broken : (e.setBroken.remark .fault).conn.state.isTerminal = true := by
      rw [conn_remark, state_setBroken]
      split
      · assumption
      · rfl
    have effects : Effects false _ ((e.setBroken.remark .fault).deliverError err).1 :=
      effects_deliverError _ err
    right
    rw [effects.state_of_terminal broken]
    exact broken

/-- The transport that is held takes a line. -/
def accepts (e : Endpoint H) (text : String) : Bool :=
  match e.conn.phase.transport?.bind (e.transports[·]?) with
  | some t => (t.write (lineBytes text)).isOk
  | none => false

theorem accepts_of_same (transport : e'.conn.phase.transport? = e.conn.phase.transport?)
    (transports : e'.transports = e.transports) (text : String) :
    e'.accepts text = e.accepts text := by
  rw [accepts, accepts, transport, transports]

/-- What takes a line is a socket. -/
theorem held_of_accepts {text : String} (h : e.accepts text = true) :
    ∃ id, e.conn.phase.transport? = some id := by
  cases held : e.conn.phase.transport? with
  | none => simp [accepts, held] at h
  | some id => exact ⟨id, rfl⟩

theorem sendBytes_of_accepts {id : TransportId} {text : String}
    (held : e.conn.phase.transport? = some id) (h : e.accepts text = true) :
    ∃ e' : Endpoint H, e.sendBytes id (lineBytes text) = (e', .ok ()) ∧ e'.conn = e.conn := by
  rw [accepts, held, Option.bind_some] at h
  unfold sendBytes
  cases ht : e.transports[id]? with
  | none => simp [ht] at h
  | some t =>
    rw [ht] at h
    dsimp only at h ⊢
    cases hw : t.write (lineBytes text) with
    | ok t' => exact ⟨_, rfl, rfl⟩
    | error err => simp [hw, Except.isOk, Except.toBool] at h

theorem sendBytes_of_not_accepts {id : TransportId} {text : String}
    (held : e.conn.phase.transport? = some id) (h : e.accepts text = false) :
    ∃ (e' : Endpoint H) (err : Error), e.sendBytes id (lineBytes text) = (e', .error err) ∧
      e'.conn = e.conn := by
  rw [accepts, held, Option.bind_some] at h
  unfold sendBytes
  cases ht : e.transports[id]? with
  | none => exact ⟨_, _, rfl, rfl⟩
  | some t =>
    rw [ht] at h
    dsimp only at h ⊢
    cases hw : t.write (lineBytes text) with
    | ok t' => simp [hw, Except.isOk, Except.toBool] at h
    | error err => exact ⟨_, _, rfl, rfl⟩

/-- The slot and the log make no difference to what a transport takes. -/
theorem accepts_posted {id : TransportId} (held : e.conn.phase.transport? = some id)
    (handler : ReplyHandler H) (r : Remark) (text : String) :
    ((e.setSlot (some handler)).remark r).conn.phase.transport? = some id ∧
      ((e.setSlot (some handler)).remark r).accepts text = e.accepts text := by
  have held' : ((e.setSlot (some handler)).remark r).conn.phase.transport? = some id := by
    rw [conn_remark, phase_setSlot, transport?_setSlot, held]
  exact ⟨held', accepts_of_same (held'.trans held.symm) rfl text⟩

/-- A command that is taken puts its handler into the slot, and leaves nothing to do. -/
theorem writeWith_of_accepts {text : String} (peer : e.conn.peerClosed = false)
    (h : e.accepts text = true) (mask : Option Nat) (handler : ReplyHandler H) :
    ∃ e' : Endpoint H, e.writeWith text mask handler = ((e', []), true) ∧
      e'.conn = (e.setSlot (some handler)).conn := by
  obtain ⟨id, held⟩ := held_of_accepts h
  obtain ⟨held', same⟩ := accepts_posted held handler (.command (redact text mask)) text
  obtain ⟨e', sent, conn⟩ := sendBytes_of_accepts held' (same.trans h)
  refine ⟨e', ?_, conn⟩
  unfold writeWith
  rw [if_neg (by simp [peer]), held]
  dsimp only
  rw [sent]
  rfl

/-- A command that is refused puts its handler into the slot all the same, and is a fault. -/
theorem writeWith_of_not_accepts {text : String} (peer : e.conn.peerClosed = false)
    (live : e.conn.isLive = true) (h : e.accepts text = false) (mask : Option Nat)
    (handler : ReplyHandler H) :
    ∃ (found : Endpoint H) (err : Error),
      e.writeWith text mask handler = (found.fault err, false) ∧
      found.conn = (e.setSlot (some handler)).conn := by
  obtain ⟨id, held⟩ := isLive_iff.mp live
  obtain ⟨held', same⟩ := accepts_posted held handler (.command (redact text mask)) text
  obtain ⟨found, err, sent, conn⟩ := sendBytes_of_not_accepts held' (same.trans h)
  refine ⟨found, err, ?_, conn⟩
  unfold writeWith
  rw [if_neg (by simp [peer]), held]
  dsimp only
  rw [sent]

theorem isLive_setSlot (e : Endpoint H) (slot : Option (ReplyHandler H)) :
    (e.setSlot slot).conn.isLive = e.conn.isLive := by
  rw [Connection.isLive, Connection.state, phase_setSlot, Phase.state_setSlot]
  rfl

theorem slot?_setSlot_of_live (live : e.conn.isLive = true) (slot : Option (ReplyHandler H)) :
    (e.setSlot slot).conn.phase.slot? = slot := by
  rw [phase_setSlot]
  cases hp : e.conn.phase with
  | live usage id old => rfl
  | _ => simp [Connection.isLive, Connection.state, hp, Phase.state, ConnectionState.isLive] at live

theorem isInFlight_of_live (live : e.conn.isLive = true) (notIdle : e.conn.isIdle = false) :
    e.conn.state.isInFlight = true := by
  rw [Connection.isLive] at live
  rw [Connection.isIdle] at notIdle
  cases hs : e.conn.state with
  | live usage => cases usage <;> simp_all [ConnectionState.isInFlight]
  | _ => simp_all [ConnectionState.isLive]

theorem not_inFlight_of_idle (idle : e.conn.isIdle = true) : e.conn.state.isInFlight = false := by
  rw [Connection.isIdle, beq_iff_eq] at idle
  rw [idle]
  rfl

/-- A command is refused by an idle connection without a fault, so its handler waits all the
same. -/
theorem conn_writeWith (sound : e.Sound) (live : e.conn.isLive = true) {text : String}
    (stays : e.conn.isIdle = true ∨ e.accepts text = true) (mask : Option Nat)
    (handler : ReplyHandler H) :
    (e.writeWith text mask handler).1.1.conn = (e.setSlot (some handler)).conn := by
  have peer := sound.peer live
  cases taken : e.accepts text with
  | true =>
    obtain ⟨e', written, conn⟩ := writeWith_of_accepts peer taken mask handler
    rw [written]
    exact conn
  | false =>
    obtain ⟨found, err, written, conn⟩ := writeWith_of_not_accepts peer live taken mask handler
    -- the refusal is a fault, which an idle connection only remarks
    have idle : e.conn.isIdle = true := stays.resolve_right (by simp [taken])
    have notInFlight : found.conn.state.isInFlight = false := by
      rw [conn, Connection.state, phase_setSlot, Phase.state_setSlot]
      exact not_inFlight_of_idle idle
    rw [written]
    dsimp only
    rw [fault_of_not_inFlight notInFlight]
    exact conn

/-- Any other command that is not written leaves no connection behind. -/
theorem isLive_writeWith (sound : e.Sound) {text : String}
    (leaves : e.conn.isLive = true → e.conn.isIdle = false ∧ e.accepts text = false)
    (mask : Option Nat) (handler : ReplyHandler H) :
    (e.writeWith text mask handler).1.1.conn.isLive = false := by
  cases live : e.conn.isLive with
  | true =>
    obtain ⟨notIdle, refused⟩ := leaves live
    have peer := sound.peer live
    obtain ⟨found, err, written, conn⟩ := writeWith_of_not_accepts peer live refused mask handler
    have inFlight : found.conn.state.isInFlight = true := by
      rw [conn, Connection.state, phase_setSlot, Phase.state_setSlot]
      exact isInFlight_of_live live notIdle
    have broken : (found.setBroken.remark .fault).conn.isLive = false := isLive_setBroken found
    -- handing the error on cannot bring the socket back
    have keeps := (effects_deliverError (found.setBroken.remark .fault) err).keeps_of_quiet
    rw [written]
    dsimp only
    rw [fault_of_inFlight (by rw [conn]; exact peer) inFlight, Bool.eq_false_iff]
    intro live'
    rw [(keeps live').1] at broken
    exact absurd broken (by simp)
  | false =>
    have gone : e.conn.phase.transport? = none := by
      rw [← Option.not_isSome_iff_eq_none, ← Phase.isLive_state]
      exact Bool.eq_false_iff.mp live
    have quiet : Effects false e (e.writeWith text mask handler).1.1 := by
      unfold writeWith
      rw [gone]
      split
      · exact (effects_remark rfl).append (effects_deliverError _ _)
      · exact (effects_remark rfl).append (effects_deliverError _ _)
    rw [Bool.eq_false_iff]
    intro live'
    rw [(quiet.keeps_of_quiet live').1] at live
    exact absurd live (by simp)

theorem fst_writeCommands {commands : List String} (ne : commands.isEmpty = false) (handler : H) :
    (e.writeCommands commands handler).1 =
      ((e.expect commands.length).writeWith ("\r\n".intercalate commands) none
        (.replies handler commands.length)).1.1 := by
  unfold writeCommands
  rw [if_neg (by simp [ne])]
  dsimp only
  split
  · next h => rw [h]
  · next h => rw [h]

end Endpoint

end SmtpLink
