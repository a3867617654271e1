import SmtpLink.Proofs.Completions
import SmtpLink.Proofs.QuitOnce

/-!
# The state diagram of a connection

A connection that is opened once goes its way along a diagram: every change of its state is an
edge.  This holds of a whole operation, whatever is nested in it, and of the single effects that
the operation is made of.  What keeps the connection on the diagram is that nobody of the
graceful close waits before the close has begun; so only a connection that is shutting down is
ever closed.

## Main definitions

* `ConnectionState.Follows` — the state diagram.
* `Endpoint.Advances` — the state stays, or goes along an edge.
* `Endpoint.Quits` — a graceful close waits, or may be put in charge of errors again.
* `Endpoint.Ordered` — it does so only after the close has begun.
* `Endpoint.Consistent` — what a connection has agrees with its state.
* `Endpoint.Walks` — effects one after the other, each along the diagram.

## Main results

* `Endpoint.Effect.advances`, `Endpoint.advances_resume` — **effects, and whole pieces of work,
  go along the diagram.**
* `Machine.ordered_of_run` — no graceful close waits before it has begun, in every run.
* `Machine.state_follows_diagram` — **every run goes along the diagram**, and ends where it can no
  longer be used.
-/

namespace SmtpLink

variable {H : Type}

namespace ConnectionState

/-- The state diagram: which state may come next. -/
inductive Follows : ConnectionState → ConnectionState → Prop
  /-- The connection is opened. -/
  | opened : Follows .closed .connecting
  /-- There is a socket. -/
  | connected : Follows .connecting .active
  /-- The connection is closed before there is a socket. -/
  | givenUp : Follows .connecting .closed
  /-- The connection is parked in the pool. -/
  | parked : Follows .active .idle
  /-- The connection is taken out of the pool. -/
  | used : Follows .idle .active
  /-- A graceful close begins with a caller. -/
  | closedByCaller : Follows .active .shuttingDown
  /-- A graceful close begins in the pool. -/
  | closedByPool : Follows .idle .shuttingDown
  /-- The graceful close ends. -/
  | ended : Follows .shuttingDown .closed
  /-- The connection breaks, unless it can no longer be used anyway. -/
  | broken {s : ConnectionState} (usable : s.isTerminal = false) : Follows s .broken

end ConnectionState

namespace Endpoint

variable {loud : Bool} {e e' e'' : Endpoint H}

/-- The state stays, or goes along an edge of the diagram. -/
def Advances (e e' : Endpoint H) : Prop :=
  e'.conn.state = e.conn.state ∨ e.conn.state.Follows e'.conn.state

/-- A graceful close waits for something, or is the handler for errors that may come back. -/
def Quits (e : Endpoint H) : Prop := e.Quitting ∨ e.conn.baseErrorHandler = some .quit

/-- The connection is sound, and no graceful close waits before it has begun. -/
structure Ordered (e : Endpoint H) : Prop where
  /-- The connection is sound. -/
  sound : e.Sound
  /-- No graceful close waits before it has begun. -/
  begun : e.Quits → e.Closing

/-- What a connection has agrees with its state. -/
structure Consistent (e : Endpoint H) : Prop where
  /-- The peer has not closed a socket that is held. -/
  peer : e.conn.isLive = true → e.conn.peerClosed = false
  /-- A connection that can no longer be used waits for nothing, and holds nothing back. -/
  bare : e.conn.state.isTerminal = true →
    e.conn.timer = none ∧ e.conn.deferred = [] ∧ e.conn.upgradeHandler = none

/-- Effects one after the other, each along the diagram, and what the connection has agrees with
its state after each of them. -/
def Walks : Endpoint H → Endpoint H → Prop :=
  Relation.ReflTransGen fun e e' => Effect true e e' ∧ Advances e e' ∧ e'.Consistent

/-! ### No graceful close before its beginning -/

theorem slot?_relabel (phase : Phase H) (usage : Usage) :
    (phase.relabel usage).slot? = phase.slot? := by
  cases phase <;> rfl

theorem slot?_setSlot {phase : Phase H} {slot : Option (ReplyHandler H)} {handler : ReplyHandler H}
    (h : (phase.setSlot slot).slot? = some handler) : slot = some handler := by
  cases phase with
  | live usage id old => exact h
  | _ => exact absurd h (by simp [Phase.setSlot, Phase.slot?])

namespace Quits

theorem of_conn (h : e'.Quits) (same : e'.conn = e.conn) : e.Quits := by
  unfold Quits Quitting at h ⊢
  rwa [same] at h

/-- Who waits is told by the handlers, the slot and the deadline. -/
theorem of_parts (h : e'.Quits) (error : e'.conn.errorHandler = e.conn.errorHandler)
    (base : e'.conn.baseErrorHandler = e.conn.baseErrorHandler)
    (slot : e'.conn.phase.slot? = some .quit → e.conn.phase.slot? = some .quit)
    (timer : e'.conn.timer.isSome = true → e.conn.timer.isSome = true) : e.Quits := by
  rcases h with (inCharge | waits | armed) | remembered
  · exact .inl (.inl (error ▸ inCharge))
  · exact .inl (.inr (.inl (slot waits)))
  · exact .inl (.inr (.inr (timer armed)))
  · exact .inr (base ▸ remembered)

/-- A socket that is let go of leaves nobody waiting for a reply or for the deadline. -/
theorem of_release {phase : Phase H} (gone : phase.slot? = none) (h : (e.release phase).Quits) :
    e.Quits := by
  have conn := conn_release e phase
  refine h.of_parts (by rw [conn]) (by rw [conn]) (fun waits => ?_) (fun armed => ?_)
  · rw [phase_release, gone] at waits
    exact absurd waits (by simp)
  · rw [timer_release] at armed
    exact absurd armed (by simp)

theorem of_shutdown (h : e.shutdown.Quits) : e.Quits := by
  refine of_release ?_ h
  split
  · rfl
  · rfl

theorem of_setBroken (h : e.setBroken.Quits) : e.Quits := by
  cases terminal : e.conn.state.isTerminal with
  | true =>
    rw [setBroken_of_terminal terminal] at h
    exact h.of_conn rfl
  | false =>
    rw [setBroken_of_not_terminal terminal] at h
    have released : ((e.remark .breaking).release .broken).Quits := h.of_conn rfl
    exact (of_release rfl released).of_conn rfl

theorem of_noteClosed (h : e.noteClosed.Quits) : e.Quits := h.of_parts rfl rfl id id

theorem of_changeUsage {origin usage : Usage} (h : (e.changeUsage origin usage).Quits) :
    e.Quits := by
  unfold changeUsage at h
  split at h
  · exact h.of_parts rfl rfl (fun waits => (slot?_relabel _ usage).symm.trans waits) id
  · exact h.of_conn rfl

theorem of_connected {t : Transport} (h : (e.connected t).Quits) : e.Quits := by
  by_cases waiting : e.conn.state = .connecting
  · obtain ⟨greeting, hp⟩ := phase_of_connecting waiting
    rw [connected_of_connecting t hp] at h
    exact h.of_parts rfl rfl (fun waits => absurd waits (by simp [Phase.slot?])) id
  · exact h.of_conn (conn_connected_of_not_connecting t waiting)

theorem of_override {handler : H} (h : (e.overrideErrorHandler (.app handler)).Quits) :
    e.Quits := by
  rcases h with (inCharge | waits | armed) | remembered
  · exact absurd inCharge (by simp [overrideErrorHandler])
  · exact .inl (.inr (.inl waits))
  · exact .inl (.inr (.inr armed))
  · -- the handler that is remembered was so before, or was in charge
    have either : (e.conn.baseErrorHandler <|> e.conn.errorHandler) = some .quit := remembered
    cases base : e.conn.baseErrorHandler with
    | none =>
      rw [base] at either
      exact .inl (.inl either)
    | some old =>
      rw [base] at either
      exact .inr (base.trans either)

end Quits

/-- **A graceful close waits only if it did before, or has begun.** -/
theorem Effect.quits (effect : Effect loud e e') (h : e'.Quits) :
    e.Quits ∨ e'.conn.state = .shuttingDown := by
  cases effect with
  | fillSlot handler held peer begun =>
    rcases h with (inCharge | waits | armed) | remembered
    · exact .inl (.inl (.inl inCharge))
    · obtain rfl : handler = .quit := Option.some.inj (slot?_setSlot waits)
      exact .inr ((Phase.state_setSlot _ _).trans (begun rfl))
    · exact .inl (.inl (.inr (.inr armed)))
    · exact .inl (.inr remembered)
  | beginQuit peer live => exact .inr (state_beginQuit live)
  | outside outside => exact .inl (h.of_conn outside.conn_eq)
  | emptySlot =>
    exact .inl (h.of_parts rfl rfl (fun waits => absurd (slot?_setSlot waits) (by simp)) id)
  | send data held peer => exact .inl (h.of_conn (conn_sendBytes e _ data))
  | askFull held => exact .inl (h.of_conn (conn_askFull e _))
  | askUpgrade held => exact .inl (h.of_conn (conn_askUpgrade e _))
  | park => exact .inl h.of_changeUsage
  | use => exact .inl h.of_changeUsage
  | override handler => exact .inl h.of_override
  | reset =>
    rcases h with (inCharge | waits | armed) | remembered
    · exact .inl (.inr inCharge)
    · exact .inl (.inl (.inr (.inl waits)))
    · exact .inl (.inl (.inr (.inr armed)))
    · exact .inl (.inr remembered)
  | connected t => exact .inl h.of_connected
  | refused waiting =>
    exact .inl (h.of_parts rfl rfl (fun waits => absurd waits (by simp [setPhase, Phase.slot?])) id)
  | setBroken => exact .inl h.of_setBroken
  | fault peer inFlight =>
    have broken : e.setBroken.Quits := h.of_conn rfl
    exact .inl broken.of_setBroken
  | hangUp inFlight =>
    have broken : e.noteClosed.setBroken.Quits := h.of_conn rfl
    exact .inl broken.of_setBroken.of_noteClosed
  | retire idle =>
    have remarked : (e.noteClosed.remark .closedWhileIdle).Quits := h.of_setBroken
    have noted : e.noteClosed.Quits := remarked.of_conn rfl
    exact .inl noted.of_noteClosed
  | closeExpected gone => exact .inl h.of_noteClosed
  | giveBack notIdle notRequested =>
    rcases h with (inCharge | waits | armed) | remembered
    · exact absurd inCharge (by simp [Endpoint.giveBack])
    · exact absurd (slot?_setSlot waits) (by simp)
    · exact .inl (.inl (.inr (.inr armed)))
    · exact .inl (.inr remembered)
  | finishQuit waits => exact .inl (.inl waits)
  | shutdown gone notYet => exact .inl h.of_shutdown
  | _ => exact .inl (h.of_parts rfl rfl id id)

/-- **Every effect keeps a connection ordered.** -/
theorem Effect.ordered (ordered : e.Ordered) (effect : Effect loud e e') : e'.Ordered where
  sound := effect.sound ordered.sound
  begun h := by
    rcases effect.quits h with quits | quitting
    · exact effect.closing (ordered.begun quits)
    · exact .inl quitting

/-! ### Along the diagram -/

namespace Advances

theorem refl (e : Endpoint H) : Advances e e := .inl rfl

theorem of_conn (h : e'.conn = e.conn) : Advances e e' := .inl (congrArg Connection.state h)

/-- A connection that is closing stays so, or is closed. -/
theorem finishQuit (closing : e.Closing) : Advances e e.finishQuit := by
  rw [Advances, state_finishQuit]
  rcases closing with quitting | terminal
  · rw [quitting]
    exact .inr .ended
  · cases hs : e.conn.state with
    | closed => exact .inl rfl
    | broken => exact .inl rfl
    | _ => exact absurd (hs ▸ terminal) (by simp [ConnectionState.isTerminal])

/-- A connection that is given up without a socket was waiting for one. -/
theorem shutdown (gone : e.conn.isLive = false) (notYet : e.conn.state.isTerminal = false) :
    Advances e e.shutdown := by
  rw [Advances, state_shutdown]
  rw [Connection.isLive] at gone
  cases hs : e.conn.state with
  | connecting => exact .inr .givenUp
  | live usage => exact absurd (hs ▸ gone) (by simp [ConnectionState.isLive])
  | _ => exact absurd (hs ▸ notYet) (by simp [ConnectionState.isTerminal])

theorem setBroken (e : Endpoint H) : Advances e e.setBroken := by
  rw [Advances, state_setBroken]
  cases terminal : e.conn.state.isTerminal with
  | true => exact .inl rfl
  | false => exact .inr (.broken terminal)

theorem changeUsage (e : Endpoint H) {origin usage : Usage}
    (edge : ConnectionState.Follows (.live origin) (.live usage)) :
    Advances e (e.changeUsage origin usage) := by
  unfold Endpoint.changeUsage
  split
  · next now =>
    have live : e.conn.phase.state.isLive = true := by
      rw [← Connection.state, now]
      rfl
    right
    show e.conn.state.Follows (e.conn.phase.relabel usage).state
    rw [Phase.state_relabel_of_live live, now]
    exact edge
  · exact .of_conn rfl

theorem connected (e : Endpoint H) (t : Transport) : Advances e (e.connected t) := by
  by_cases waiting : e.conn.state = .connecting
  · obtain ⟨greeting, hp⟩ := phase_of_connecting waiting
    right
    rw [connected_of_connecting t hp, waiting]
    exact .connected
  · exact .of_conn (conn_connected_of_not_connecting t waiting)

/-- From a live connection the graceful close begins, or is asked for again. -/
theorem of_quitting (live : e.conn.isLive = true) (quitting : e'.conn.state = .shuttingDown) :
    Advances e e' := by
  rw [Advances, quitting]
  rw [Connection.isLive] at live
  cases hs : e.conn.state with
  | live usage =>
    cases usage with
    | active => exact .inr .closedByCaller
    | idle => exact .inr .closedByPool
    | shuttingDown => exact .inl rfl
  | _ => exact absurd (hs ▸ live) (by simp [ConnectionState.isLive])

end Advances

/-- **Effects on an ordered connection go along the diagram.** -/
theorem Effect.advances (ordered : e.Ordered) (effect : Effect loud e e') : Advances e e' := by
  cases effect with
  | outside outside => exact .of_conn outside.conn_eq
  | fillSlot handler held peer begun => exact .inl (Phase.state_setSlot _ _)
  | emptySlot => exact .inl (Phase.state_setSlot _ _)
  | send data held peer => exact .of_conn (conn_sendBytes e _ data)
  | askFull held => exact .of_conn (conn_askFull e _)
  | askUpgrade held => exact .of_conn (conn_askUpgrade e _)
  | park => exact .changeUsage e .parked
  | use => exact .changeUsage e .used
  | connected t => exact .connected e t
  | refused waiting =>
    right
    rw [waiting]
    exact .broken rfl
  | setBroken => exact .setBroken e
  | fault peer inFlight => exact Advances.setBroken e
  | hangUp inFlight => exact Advances.setBroken e.noteClosed
  | retire idle => exact Advances.setBroken (e.noteClosed.remark .closedWhileIdle)
  | giveBack notIdle notRequested => exact .inl (Phase.state_setSlot _ _)
  | beginQuit peer live => exact .of_quitting live (state_beginQuit live)
  | finishQuit waits => exact .finishQuit (ordered.begun (.inl waits))
  | shutdown gone notYet =>
    -- a peer that has closed the socket has closed none that is held
    refine .shutdown ?_ notYet
    rcases gone with peer | gone
    · rw [Bool.eq_false_iff]
      intro live
      rw [ordered.sound.peer live] at peer
      exact absurd peer (by simp)
    · exact gone
  | _ => exact .inl rfl

/-! ### Whole pieces of work

Several effects may be nested in one operation: a graceful close that finds the transport broken
begins, breaks the connection and ends.  Whoever looks at the connection sees one edge. -/

section

variable (begun : e.Quits → e.Closing)

include begun

theorem advances_deliverError (err : Error) : Advances e (e.deliverError err).1 := by
  unfold deliverError
  split
  · exact .refl e
  · next inCharge =>
    have closing : e.Closing := begun (.inl (.inl inCharge))
    exact Advances.finishQuit (e := e.remark .quitFaultIgnored) closing
  · exact .of_conn rfl

theorem advances_connectFailed (err : Error) : Advances e (e.connectFailed err).1 := by
  unfold connectFailed
  dsimp only
  by_cases waiting : e.conn.state = .connecting
  · have broken : (((e.remark .connectFailed).setPhase .broken).emit .connectFailed).conn.state =
        .broken := rfl
    have delivered := (deliverError_of_broken broken err).1
    rw [if_pos (by exact waiting), Advances, delivered, waiting]
    exact .inr (.broken rfl)
  · rw [if_neg (by exact waiting)]
    exact advances_deliverError (e := (e.remark .connectFailed).emit .connectFailed) begun err

theorem advances_deliverReplies (batch : List Reply) :
    Advances e (e.deliverReplies batch).1 := by
  have emptied : Advances e (e.setSlot none) := .inl (Phase.state_setSlot _ _)
  unfold deliverReplies
  dsimp only
  split
  · exact .of_conn rfl
  · exact emptied
  · split
    · exact emptied
    · exact emptied
  · split
    · exact emptied
    · exact emptied
  · next waits =>
    have closing : e.Closing := begun (.inl (.inr (.inl waits)))
    split
    · exact emptied
    · dsimp only [done]
      split
      · rw [finishQuit_setSlot]
        exact .finishQuit closing
      · show Advances e ((e.remark .quitRefused).setSlot none).finishQuit
        rw [finishQuit_setSlot]
        exact Advances.finishQuit (e := e.remark .quitRefused) closing

theorem advances_timeout (now : Instant) : Advances e (e.timeout now) := by
  unfold timeout
  split
  · next deadline armed =>
    split
    · have closing : e.Closing := begun (.inl (.inr (.inr (by rw [armed]; rfl))))
      exact Advances.finishQuit (e := e.remark .quitTimedOut) closing
    · exact .refl e
  · exact .refl e

end

theorem advances_fault (e : Endpoint H) (err : Error) : Advances e (e.fault err).1 := by
  cases inFlight : e.conn.state.isInFlight with
  | false =>
    rw [fault_of_not_inFlight inFlight]
    exact .of_conn rfl
  | true =>
    have usable := not_terminal_of_live (isLive_of_inFlight inFlight)
    cases peer : e.conn.peerClosed with
    | true =>
      rw [fault, if_pos (by simp [peer])]
      exact .of_conn rfl
    | false =>
      -- the fault breaks the connection first, and whoever is told of it finds it broken
      have broken : (e.setBroken.remark .fault).conn.state = .broken :=
        state_setBroken_of_inFlight inFlight
      rw [fault_of_inFlight peer inFlight, Advances, (deliverError_of_broken broken err).1]
      exact .inr (.broken usable)

theorem advances_closed (e : Endpoint H) : Advances e e.closed.1 := by
  rw [closed_eq]
  split
  · next inFlight =>
    have usable : e.conn.state.isTerminal = false :=
      not_terminal_of_live (isLive_of_inFlight inFlight)
    have broken : (e.noteClosed.setBroken.remark .closedByServer).conn.state = .broken :=
      state_setBroken_of_inFlight inFlight
    rw [Advances, (deliverError_of_broken broken _).1]
    exact .inr (.broken usable)
  · split
    · exact Advances.setBroken (e.noteClosed.remark .closedWhileIdle)
    · exact .inl rfl

theorem advances_dispatch (begun : e.Quits → e.Closing) : Advances e e.dispatch.1 := by
  unfold dispatch
  dsimp only
  split
  · exact .inl rfl
  · next err _ =>
    exact advances_fault { e with conn := { e.conn with assembler := e.conn.assembler.poll.1 } } err
  · next batch _ =>
    exact advances_deliverReplies
      (e := { e with conn := { e.conn with assembler := e.conn.assembler.poll.1 } }) begun batch

theorem advances_input (e : Endpoint H) (data : Bytes) : Advances e (e.input data).1 := by
  unfold input
  split
  · exact .inl rfl
  · exact .inl rfl

theorem advances_upgraded (e : Endpoint H) (result : Outcome) :
    Advances e (e.upgraded result).1 := by
  have dropped : (if result.isOk then e.dropInput else e).conn.state = e.conn.state := by
    split
    · rfl
    · rfl
  unfold upgraded
  dsimp only
  split
  · exact .inl dropped
  · exact .inl dropped

theorem advances_writeWith (begun : e.Quits → e.Closing) (text : String) (mask : Option Nat)
    (handler : ReplyHandler H) : Advances e (e.writeWith text mask handler).1.1 := by
  unfold writeWith
  split
  · exact advances_deliverError (e := e.remark .peerGone) begun _
  · split
    · exact advances_deliverError (e := e.remark .socketGone) begun _
    · next id held =>
      have posted : ((e.setSlot (some handler)).remark (.command (redact text mask))).conn.state =
          e.conn.state := Phase.state_setSlot _ _
      have sent := conn_sendBytes
        ((e.setSlot (some handler)).remark (.command (redact text mask))) id (lineBytes text)
      dsimp only
      split
      · next found taken =>
        rw [taken] at sent
        exact .inl ((congrArg Connection.state sent).trans posted)
      · next found err refused =>
        rw [refused] at sent
        have same : found.conn.state = e.conn.state :=
          (congrArg Connection.state sent).trans posted
        have advances := advances_fault found err
        rw [Advances, same] at advances
        exact advances

theorem advances_writeCommands (begun : e.Quits → e.Closing) (commands : List String)
    (handler : H) : Advances e (e.writeCommands commands handler).1 := by
  cases empty : commands.isEmpty with
  | true =>
    rw [writeCommands, if_pos empty]
    exact advances_deliverError begun _
  | false =>
    rw [fst_writeCommands empty]
    exact advances_writeWith (e := e.expect commands.length) begun _ none _

theorem advances_writeLineWithRoom (e : Endpoint H) (line : String) (handler : H) :
    Advances e (e.writeLineWithRoom line handler).1 := by
  rcases writeLineWithRoom_cases e line handler with ⟨d, heldBack, conn, -⟩ |
    ⟨d, result, told, conn, -⟩
  · have same : d.conn.state = e.conn.state := congrArg Connection.state conn
    rw [heldBack]
    exact .inl same
  · rw [told]
    exact .of_conn conn

theorem advances_upgrade (e : Endpoint H) (handler : H) : Advances e (e.upgrade handler).1 := by
  rcases upgrade_cases e handler with ⟨d, asked, conn⟩ | ⟨d, err, refused, conn⟩
  · have same : d.conn.state = e.conn.state := congrArg Connection.state conn
    rw [asked]
    exact .inl same
  · rw [refused]
    exact .of_conn conn

theorem advances_close (e : Endpoint H) : Advances e e.close := by
  unfold close
  split
  · exact .of_conn rfl
  · exact .inl rfl

theorem advances_returnToPool (begun : e.Quits → e.Closing) : Advances e e.returnToPool.1 := by
  unfold returnToPool
  split
  · exact advances_deliverError (e := e.remark .idleReturned) begun _
  · split
    · exact advances_close (e.remark .shutdownOnReturn)
    · exact .inl (Phase.state_setSlot _ _)

theorem advances_runScheduled (e : Endpoint H) : Advances e e.runScheduled.1 := by
  unfold runScheduled
  split
  · exact .refl e
  · exact .of_conn rfl

/-- Deferred tasks take the connection at most along one edge, whatever becomes of QUIT. -/
theorem advances_runTasks (sound : e.Sound) : Advances e e.runTasks.1 := by
  cases tasks : e.conn.scheduled with
  | nil =>
    rw [runTasks, tasks]
    exact .refl e
  | cons task rest =>
    cases task with
    | app handler =>
      rw [runTasks, tasks]
      exact .inl rfl
    | close =>
      cases terminal : e.conn.state.isTerminal with
      | true =>
        rw [runTasks_of_terminal terminal tasks]
        exact .inl rfl
      | false =>
        cases live : e.conn.isLive with
        | true =>
          have begins : e.beginsQuit = true := by
            rw [beginsQuit, tasks]
            simp [canQuit, live, sound.peer live]
          rcases runTasks_of_beginsQuit begins with ⟨-, quitting, -⟩ | ⟨-, broken⟩
          · exact .of_quitting live quitting
          · rw [Advances, broken]
            exact .inr (.broken terminal)
        | false =>
          rw [runTasks_of_beginsClose tasks, runClose,
            if_neg (Bool.eq_false_iff.mp (by exact terminal))]
          dsimp only
          rw [if_pos (by rw [Bool.or_eq_true, Bool.not_eq_true']; exact .inr live)]
          exact Advances.shutdown (e := ((remark { e with
            conn := { e.conn with scheduled := rest } } .shuttingDown).remark .quitUnneeded))
            live terminal

theorem advances_perform (ordered : e.Ordered) (operation : Operation H)
    (h : (Work.perform operation).isDial = false) : Advances e (e.perform operation).1 := by
  have begun := ordered.begun
  cases operation with
  | dial config greeting onError => exact absurd h (by simp [Work.isDial])
  | connected t => exact .connected e t
  | connectFailed err => exact advances_connectFailed begun err
  | input data => exact advances_input e data
  | fault err => exact advances_fault e err
  | closed => exact advances_closed e
  | upgraded result => exact advances_upgraded e result
  | timeout now => exact advances_timeout begun now
  | write text mask handler => exact advances_writeWith begun text mask (.reply handler)
  | writeCommands commands handler => exact advances_writeCommands begun commands handler
  | writeLine line => exact .inl (congrArg Connection.state (conn_writeLine e line))
  | writeLineWithRoom line handler => exact advances_writeLineWithRoom e line handler
  | upgrade handler => exact advances_upgrade e handler
  | setIdle => exact .changeUsage e .parked
  | useConnection => exact .changeUsage e .used
  | returnToPool => exact advances_returnToPool begun
  | setBroken => exact .setBroken e
  | close => exact advances_close e
  | runScheduled => exact advances_runScheduled e
  | _ => exact .inl rfl

/-- **A piece of work goes along the diagram**, with all that is nested in it; only the beginning
to open a connection is left aside. -/
theorem advances_resume (ordered : e.Ordered) {w : Work H} (h : w.isDial = false) :
    Advances e (e.resume w).1 := by
  cases w with
  | call handler notice => exact .refl e
  | perform operation => exact advances_perform ordered operation h
  | dispatch => exact advances_dispatch ordered.begun
  | sendDeferred deferred => exact .inl (congrArg Connection.state (conn_writeLine e _))
  | expectOne => exact .inl rfl
  | runTasks => exact advances_runTasks ordered.sound

/-! ### Step by step -/

theorem consistent_of (sound : e.Sound) (bare : e.Bare) (timed : e.Timed) : e.Consistent where
  peer := sound.peer
  bare terminal := by
    have nothing := bare (not_live_of_terminal terminal)
    rw [held, List.append_eq_nil_iff, List.map_eq_nil_iff, List.map_eq_nil_iff,
      Option.toList_eq_nil_iff] at nothing
    exact ⟨timed.timer_eq_none (ne_live_of_terminal terminal _), nothing⟩

/-- Effects on an ordered connection walk along the diagram. -/
theorem walks_of_effects (ordered : e.Ordered) (bare : e.Bare) (timed : e.Timed)
    (effects : Effects true e e') : e.Walks e' := by
  have walk : e.Walks e' ∧ e'.Ordered ∧ e'.Bare ∧ e'.Timed := by
    refine effects.invariant (P := fun d => e.Walks d ∧ d.Ordered ∧ d.Bare ∧ d.Timed) ?_
      ⟨.refl, ordered, bare, timed⟩
    rintro a b ⟨walk, ordered, bare, timed⟩ effect
    have ordered' := effect.ordered ordered
    have bare' := effect.bare bare
    have timed' := effect.timed timed
    exact ⟨walk.tail ⟨effect, effect.advances ordered,
      consistent_of ordered'.sound bare' timed'⟩, ordered', bare', timed'⟩
  exact walk.1

/-- A connection that is opened for the first time is ordered. -/
theorem ordered_dial (calm : ¬ e.Quits) (config : Config) (greeting onError : H) :
    (e.dial config greeting onError).Ordered where
  sound := sound_dial e config greeting onError
  begun h := by
    have freed : e.releaseTransport.conn = e.conn := conn_releaseTransport e
    rcases h with (inCharge | waits | armed) | remembered
    · exact absurd inCharge (by simp [Endpoint.dial])
    · exact absurd waits (by simp [Endpoint.dial, Phase.slot?])
    · have before : e.releaseTransport.conn.timer.isSome = true := armed
      rw [freed] at before
      exact absurd (.inl (.inr (.inr before))) calm
    · have before : e.releaseTransport.conn.baseErrorHandler = some .quit := remembered
      rw [freed] at before
      exact absurd (.inr before) calm

end Endpoint

/-! ### Runs -/

namespace Machine

variable {admitted : Operation H → Prop} {m n : Machine H} {label : Label H}
  {labels : List (Label H)}

/-- Before a connection is opened, no graceful close waits for anything. -/
theorem not_quits_of_run (run : Run admitted initial labels m)
    (unopened : ∀ l ∈ labels, l.isDial = false) : ¬ m.endpoint.Quits := by
  have effects := (effects_run tidy_initial run unopened).1
  have calm : m.endpoint.conn.state = .closed ∧ ¬ m.endpoint.Quits := by
    refine effects.invariant (P := fun d => d.conn.state = .closed ∧ ¬ d.Quits) ?_ ⟨rfl, ?_⟩
    · rintro a b ⟨closed, calm⟩ effect
      have closed' : b.conn.state = .closed :=
        (effect.state_of_terminal (by rw [closed]; rfl)).trans closed
      refine ⟨closed', fun quits => ?_⟩
      rcases effect.quits quits with before | quitting
      · exact calm before
      · rw [closed'] at quitting
        exact absurd quitting (by simp)
    · rintro ((inCharge | waits | armed) | remembered)
      · exact absurd inCharge (by simp [initial])
      · exact absurd waits (by simp [initial, Phase.slot?])
      · exact absurd armed (by simp [initial])
      · exact absurd remembered (by simp [initial])
  exact calm.2

/-- **No graceful close waits before it has begun**, in every run that opens the connection at most
once. -/
theorem ordered_of_run (run : Run admitted initial labels m)
    (atMost : labels.countP Label.isDial ≤ 1) : m.endpoint.Ordered := by
  induction run with
  | nil =>
    have start : Run admitted (initial : Machine H) [] initial := .nil initial
    have calm := not_quits_of_run start (by simp)
    exact ⟨Endpoint.sound_of_gone rfl, fun quits => absurd quits calm⟩
  | @snoc k n ls label run move ih =>
    cases hd : label.isDial with
    | false =>
      have ordered : k.endpoint.Ordered := by
        apply ih
        rw [List.countP_append] at atMost
        omega
      have effects := effects_move (tidy_of_run run) move hd
      exact effects.invariant (fun ordered effect => effect.ordered ordered) ordered
    | true =>
      have calm := not_quits_of_run run (unopened_of_isDial atMost hd)
      obtain ⟨config, greeting, onError, opened⟩ := move.of_isDial hd
      rw [opened]
      exact Endpoint.ordered_dial calm config greeting onError

/-- A move of an ordered connection goes along the diagram. -/
theorem advances_move (tidy : m.Tidy) (ordered : m.endpoint.Ordered)
    (hd : label.isDial = false) (move : Move admitted m label n) :
    m.endpoint.Advances n.endpoint := by
  cases move.turn with
  | @work _ _ w frames due => exact Endpoint.advances_resume ordered (due.not_dial tidy hd)
  | call => exact .refl _
  | leave => exact .refl _
  | outside outside => exact .of_conn outside.conn_eq

/-- A connection that was never opened is opened along the diagram. -/
theorem advances_dial (closed : m.endpoint.conn.state = .closed) (hd : label.isDial = true)
    (move : Move admitted m label n) : m.endpoint.Advances n.endpoint := by
  obtain ⟨config, greeting, onError, opened⟩ := move.of_isDial hd
  right
  rw [opened, closed]
  exact .opened

/-- **Every run goes along the diagram**, if it opens the connection at most once: each move does,
and each effect that the move is made of.  What the connection has agrees with its state
throughout, and the states in which it can no longer be used are final. -/
theorem state_follows_diagram (run : Run Operation.Any initial labels m)
    (move : Move Operation.Any m label n)
    (atMost : (labels ++ [label]).countP Label.isDial ≤ 1) :
    m.endpoint.Advances n.endpoint ∧
    (label.isDial = false → m.endpoint.Walks n.endpoint) ∧
    n.endpoint.Consistent ∧
    (n.endpoint.conn.state.isTerminal = true → ∀ labels' o, Run Operation.Any n labels' o →
      (∀ l ∈ labels', l.isDial = false) → o.endpoint.conn.state = n.endpoint.conn.state) := by
  have whole : Run Operation.Any initial (labels ++ [label]) n := .snoc run move
  have fewer : labels.countP Label.isDial ≤ 1 := by
    rw [List.countP_append] at atMost
    omega
  have tidy := tidy_of_run run
  have ordered := ordered_of_run run fewer
  have bare {labels : List (Label H)} {m : Machine H} (run : Run Operation.Any initial labels m)
      (atMost : labels.countP Label.isDial ≤ 1) : m.endpoint.Bare := by
    obtain ⟨steps, rfl, trail⟩ := run.exists_trail
    exact bare_of_trail trail (by rwa [countP_map_label] at atMost)
  refine ⟨?_, ?_, ?_, ?_⟩
  · cases hd : label.isDial with
    | false => exact advances_move tidy ordered hd move
    | true => exact advances_dial (closed_of_run run (unopened_of_isDial atMost hd)) hd move
  · intro hd
    exact Endpoint.walks_of_effects ordered (bare run fewer) (timed_of_run run fewer)
      (effects_move tidy move hd)
  · exact Endpoint.consistent_of (sound_of_run whole) (bare whole atMost)
      (timed_of_run whole atMost)
  · intro terminal labels' o later unopened
    have effects := (effects_run (tidy_of_run whole) later unopened).1
    exact effects.state_of_terminal terminal

/-- A line is held back, an upgrade is waited for, and the connection is closed; but the transport
takes nothing any more. -/
def brokenQuit : List (Choice Nat) :=
  [.operate (.dial (Config.build "mail" []) 0 1),
    .operate (.connected (.manual { full := true, failWrites := some .closedByServer })),
    .operate (.writeLineWithRoom "A" 2), .operate (.upgrade 3), .operate .close,
    .operate .runScheduled]

/-- The graceful close begins, breaks the connection over QUIT and ends, all in one move: that is
one edge of the diagram, nothing is held any more, and the connection stays broken. -/
theorem broken_quit_settled :
    (initial.play brokenQuit).2.endpoint.conn.state = .active ∧
    (initial.play (brokenQuit ++ [.proceed])).2.endpoint.Consistent ∧
    ∀ labels o, Run Operation.Any (initial.play (brokenQuit ++ [.proceed])).2 labels o →
      (∀ l ∈ labels, l.isDial = false) → o.endpoint.conn.state = .broken := by
  have run := run_play initial brokenQuit
  have turn : (initial.play brokenQuit).2.advance .proceed =
      some (.work, (initial.play (brokenQuit ++ [.proceed])).2) := rfl
  have move := move_of_advance turn
  obtain ⟨-, -, consistent, final⟩ := state_follows_diagram run move (by decide)
  have broken : (initial.play (brokenQuit ++ [.proceed])).2.endpoint.conn.state = .broken := by
    decide
  refine ⟨by decide, consistent, fun labels o later unopened => ?_⟩
  rw [final (by rw [broken]; rfl) labels o later unopened, broken]

end Machine

end SmtpLink
