import SmtpLink.Proofs.Fault
import SmtpLink.Proofs.Scope

/-!
# Connections that nobody closes

A connection that the application neither closes nor parks, gives back, breaks or opens anew is
steady: while it holds a socket it is active, and nobody of a graceful close waits for anything.
Such a connection loses its socket in one way only.  Some piece of work meets a fault, with a
command in flight, and then the fault is delivered.

## Main definitions

* `Operation.isOrdinary`, `Work.isOrdinary` — what leaves a connection to its use.
* `Work.Allowed` — what may be done to a connection that nobody closes.
* `Endpoint.Steady` — no graceful close is under way, and none is due.
* `Endpoint.Abides` — an endpoint stays steady, and keeps its socket.

## Main results

* `Endpoint.abides_or_meets` — **ordinary work keeps the socket, or meets a fault with a command
  in flight.**
* `Endpoint.steady_resume` — and either way the connection stays steady.
* `Endpoint.meets_of_cut` — the fault that a socket is lost over.
-/

namespace SmtpLink

variable {H : Type}

/-- The operation leaves a connection to its use: it neither opens it anew, nor closes it, breaks
it, parks it or gives it back. -/
def Operation.isOrdinary : Operation H → Bool
  | .dial _ _ _ | .setIdle | .returnToPool | .setBroken | .close => false
  | _ => true

/-- The work is no operation but an ordinary one. -/
def Work.isOrdinary : Work H → Bool
  | .perform operation => operation.isOrdinary
  | _ => true

/-- The work is ordinary, or makes the connection unusable. -/
def Work.Allowed (w : Work H) : Prop := w.isOrdinary = true ∨ w = .perform .setBroken

namespace Work

variable {w : Work H}

theorem isOrdinary_of_not_perform (h : w.isPerform = false) : w.isOrdinary = true := by
  cases w with
  | perform operation => exact absurd h (by simp [isPerform])
  | _ => rfl

theorem Allowed.not_dial (allowed : w.Allowed) : w.isDial = false := by
  rcases allowed with ordinary | rfl
  · cases w with
    | perform operation => cases operation <;> simp_all [isOrdinary, Operation.isOrdinary, isDial]
    | _ => rfl
  · rfl

end Work

namespace Endpoint

variable {e e' e'' found : Endpoint H} {err : Error} {w : Work H}

/-- No graceful close is under way, and none is due. -/
structure Steady (e : Endpoint H) : Prop where
  /-- A connection that holds a socket is active. -/
  active : e.conn.isLive = true → e.conn.state = .active
  /-- Nobody of a graceful close waits. -/
  calm : ¬ e.Quitting
  /-- Nor does the handler for errors that may come back. -/
  remembered : e.conn.baseErrorHandler ≠ some .quit
  /-- No graceful close is due. -/
  tasks : .close ∉ e.conn.scheduled

/-- An endpoint stays steady, and keeps the socket that it holds. -/
def Abides (e e' : Endpoint H) : Prop :=
  e.Steady → e'.Steady ∧ (e.conn.isLive = true → e'.conn.isLive = true)

namespace Steady

theorem errors (steady : e.Steady) : e.conn.errorHandler ≠ some .quit :=
  fun quit => steady.calm (.inl quit)

theorem slot (steady : e.Steady) : e.conn.phase.slot? ≠ some .quit :=
  fun quit => steady.calm (.inr (.inl quit))

theorem timer (steady : e.Steady) : e.conn.timer = none := by
  rw [← Option.not_isSome_iff_eq_none]
  exact fun armed => steady.calm (.inr (.inr armed))

/-- A connection that is not in flight holds no socket. -/
theorem not_live (steady : e.Steady) (h : e.conn.state.isInFlight = false) :
    e.conn.isLive = false := by
  cases live : e.conn.isLive with
  | false => rfl
  | true =>
    rw [steady.active live] at h
    exact absurd h (by simp [ConnectionState.isInFlight])

/-- What makes a connection steady lies in its phase, its handlers for errors, its deadline and its
deferred tasks. -/
theorem of_parts (steady : e.Steady) (active : e'.conn.isLive = true → e'.conn.state = .active)
    (slot : e'.conn.phase.slot? ≠ some .quit)
    (errors : e'.conn.errorHandler = e.conn.errorHandler)
    (remembered : e'.conn.baseErrorHandler = e.conn.baseErrorHandler)
    (timer : e'.conn.timer = none) (tasks : e'.conn.scheduled = e.conn.scheduled) :
    e'.Steady where
  active := active
  calm := by
    rintro (quit | quit | armed)
    · exact steady.errors (errors ▸ quit)
    · exact slot quit
    · rw [timer] at armed
      exact absurd armed (by simp)
  remembered := remembered ▸ steady.remembered
  tasks := tasks ▸ steady.tasks

theorem of_conn (steady : e.Steady) (h : e'.conn = e.conn) : e'.Steady :=
  steady.of_parts (by rw [h]; exact steady.active) (by rw [h]; exact steady.slot) (by rw [h])
    (by rw [h]) (by rw [h]; exact steady.timer) (by rw [h])

theorem remark (steady : e.Steady) (r : Remark) : (e.remark r).Steady := steady.of_conn rfl

/-- A connection without a socket has nobody in its slot. -/
theorem release (steady : e.Steady) {phase : Phase H} (h : phase.transport? = none) :
    (e.release phase).Steady := by
  have conn := conn_release e phase
  refine steady.of_parts (fun live => ?_) ?_ (by rw [conn]) (by rw [conn]) rfl (by rw [conn])
  · obtain ⟨id, held⟩ := isLive_iff.mp live
    exact absurd (h.symm.trans held) (by simp)
  · rw [phase_release]
    cases phase with
    | live => exact absurd h (by simp [Phase.transport?])
    | _ => simp [Phase.slot?]

theorem setBroken (steady : e.Steady) : e.setBroken.Steady := by
  unfold Endpoint.setBroken
  split
  · exact steady.remark _
  · exact ((steady.remark .breaking).release rfl).of_conn rfl

theorem deliverError (steady : e.Steady) (err : Error) : (e.deliverError err).1.Steady := by
  unfold Endpoint.deliverError
  split
  · exact steady
  · next quit => exact absurd quit steady.errors
  · exact steady.remark _

theorem fault (steady : e.Steady) (err : Error) : (e.fault err).1.Steady := by
  unfold Endpoint.fault
  split
  · exact steady.remark _
  · exact (steady.setBroken.remark .fault).deliverError err

end Steady

namespace Abides

theorem of_conn (h : e'.conn = e.conn) : Abides e e' :=
  fun steady => ⟨steady.of_conn h, fun live => by rw [h]; exact live⟩

theorem refl (e : Endpoint H) : Abides e e := .of_conn rfl

theorem trans (h : Abides e e') (h' : Abides e' e'') : Abides e e'' := by
  intro steady
  obtain ⟨steady', live⟩ := h steady
  obtain ⟨steady'', live'⟩ := h' steady'
  exact ⟨steady'', live' ∘ live⟩

/-- Other things make no difference. -/
theorem of_same (phase : e'.conn.phase = e.conn.phase)
    (errors : e'.conn.errorHandler = e.conn.errorHandler)
    (remembered : e'.conn.baseErrorHandler = e.conn.baseErrorHandler)
    (timer : e'.conn.timer = e.conn.timer) (tasks : e'.conn.scheduled = e.conn.scheduled) :
    Abides e e' := by
  have state : e'.conn.state = e.conn.state := by rw [Connection.state, phase, Connection.state]
  have live : e'.conn.isLive = e.conn.isLive := by rw [Connection.isLive, state, Connection.isLive]
  refine fun steady => ⟨?_, fun h => live.trans h⟩
  refine steady.of_parts (fun h => ?_) (by rw [phase]; exact steady.slot) errors remembered
    (timer.trans steady.timer) tasks
  exact state.trans (steady.active (live.symm.trans h))

/-- Who waits for a reply makes no difference, unless it is the graceful close. -/
theorem setSlot (e : Endpoint H) {slot : Option (ReplyHandler H)} (h : slot ≠ some .quit) :
    Abides e (e.setSlot slot) := by
  have state : (e.setSlot slot).conn.state = e.conn.state := Phase.state_setSlot _ _
  refine fun steady => ⟨?_, fun live => (isLive_setSlot e slot).trans live⟩
  refine steady.of_parts (fun live => ?_) ?_ rfl rfl steady.timer rfl
  · exact state.trans (steady.active ((isLive_setSlot e slot).symm.trans live))
  · rw [phase_setSlot]
    cases hp : e.conn.phase with
    | live usage id old => exact h
    | _ => simp [Phase.setSlot, Phase.slot?]

/-- A deferred task of the application makes no difference. -/
theorem retask {tasks : List (Task H)} (h : .close ∈ tasks → .close ∈ e.conn.scheduled) :
    Abides e { e with conn := { e.conn with scheduled := tasks } } :=
  fun steady => ⟨⟨steady.active, steady.calm, steady.remembered, fun due => steady.tasks (h due)⟩,
    id⟩

/-- Nor does another handler for errors. -/
theorem heard {errors remembered : Option (ErrorHandler H)}
    (he : e.Steady → errors ≠ some .quit) (hr : e.Steady → remembered ≠ some .quit) :
    Abides e { e with conn := { e.conn with
      errorHandler := errors, baseErrorHandler := remembered } } := by
  refine fun steady => ⟨⟨steady.active, ?_, hr steady, steady.tasks⟩, id⟩
  rintro (quit | waits)
  · exact he steady quit
  · exact steady.calm (.inr waits)

end Abides

/-! ### What keeps the socket -/

theorem abides_noteClosed (e : Endpoint H) : Abides e e.noteClosed := .of_same rfl rfl rfl rfl rfl

theorem abides_expect (e : Endpoint H) (n : Nat) : Abides e (e.expect n) :=
  .of_same rfl rfl rfl rfl rfl

/-- Nor does it matter what is read of the input. -/
theorem abides_withAssembler (e : Endpoint H) (assembler : Assembler) :
    Abides e { e with conn := { e.conn with assembler } } :=
  .of_same rfl rfl rfl rfl rfl

theorem abides_deliverError (e : Endpoint H) (err : Error) : Abides e (e.deliverError err).1 := by
  intro steady
  refine ⟨steady.deliverError err, fun live => ?_⟩
  unfold deliverError
  split
  · exact live
  · next quit => exact absurd quit steady.errors
  · exact live

/-- A fault takes the socket only if a command is in flight. -/
theorem abides_fault (e : Endpoint H) (err : Error) :
    Abides e (e.fault err).1 ∨ e.conn.state.isInFlight = true := by
  cases h : e.conn.state.isInFlight with
  | true => exact .inr rfl
  | false =>
    rw [fault_of_not_inFlight h]
    exact .inl (.of_conn rfl)

theorem abides_closed (e : Endpoint H) :
    Abides e e.closed.1 ∨ e.noteClosed.conn.state.isInFlight = true := by
  cases h : e.noteClosed.conn.state.isInFlight with
  | true => exact .inr rfl
  | false =>
    refine .inl fun steady => ?_
    have gone : e.conn.isLive = false := steady.not_live h
    have notIdle : e.noteClosed.conn.isIdle = false := by
      rw [Connection.isLive] at gone
      show (e.conn.state == .idle) = false
      cases hs : e.conn.state <;> simp_all [ConnectionState.isLive]
    rw [closed_eq, h, if_neg Bool.false_ne_true, notIdle, if_neg Bool.false_ne_true]
    exact (abides_noteClosed e).trans (.of_conn rfl) steady

theorem abides_connectFailed (e : Endpoint H) (err : Error) :
    Abides e (e.connectFailed err).1 := by
  refine .trans ?_ (abides_deliverError _ err)
  split
  · next waiting =>
    -- no socket is held, so none is lost
    refine fun steady => ⟨?_, fun live => ?_⟩
    · exact steady.of_parts (fun live => absurd live (by simp [Connection.isLive, Connection.state,
        setPhase, Phase.state, ConnectionState.isLive])) (by simp [setPhase, Phase.slot?]) rfl rfl
        steady.timer rfl
    · rw [Connection.isLive] at live
      have connecting : e.conn.state = .connecting := waiting
      rw [connecting] at live
      exact absurd live Bool.false_ne_true
  · exact .of_conn rfl

theorem abides_connected (e : Endpoint H) (t : Transport) : Abides e (e.connected t) := by
  by_cases waiting : e.conn.state = .connecting
  · obtain ⟨greeting, hp⟩ := phase_of_connecting waiting
    rw [connected_of_connecting t hp]
    refine fun steady => ⟨?_, fun _ => rfl⟩
    exact steady.of_parts (fun _ => rfl) (by simp [Phase.slot?]) rfl rfl steady.timer rfl
  · exact .of_conn (conn_connected_of_not_connecting t waiting)

/-- Replies take the socket only if they answer the QUIT of a graceful close. -/
theorem abides_deliverReplies (e : Endpoint H) (batch : List Reply) :
    Abides e (e.deliverReplies batch).1 := by
  have emptied : Abides e (e.setSlot none) := .setSlot e (by simp)
  unfold deliverReplies
  dsimp only
  split
  · exact .of_conn rfl
  · exact emptied.trans (.of_same rfl rfl rfl rfl rfl)
  · split
    · exact emptied.trans (.of_conn rfl)
    · exact emptied
  · split
    · exact emptied.trans (.of_conn rfl)
    · exact emptied
  · next quit => exact fun steady => absurd quit steady.slot

theorem abides_dispatch (e : Endpoint H) : Abides e e.dispatch.1 ∨
    ∃ found err, e.Meets .dispatch found err ∧ found.conn.state.isInFlight = true := by
  have polled := abides_withAssembler e e.conn.assembler.poll.1
  unfold dispatch
  dsimp only
  split
  · exact .inl polled
  · next err h =>
    refine (abides_fault _ err).imp polled.trans fun inFlight => ?_
    exact ⟨_, err, .malformed h, inFlight⟩
  · exact .inl (polled.trans (abides_deliverReplies _ _))

theorem abides_input (e : Endpoint H) (data : Bytes) : Abides e (e.input data).1 := by
  unfold input
  split
  · exact abides_withAssembler e _
  · exact .of_conn rfl

theorem abides_upgraded (e : Endpoint H) (result : Outcome) : Abides e (e.upgraded result).1 := by
  have dropped : Abides e (if result.isOk then e.dropInput else e) := by
    split
    · exact abides_withAssembler e _
    · exact .refl e
  unfold upgraded
  dsimp only
  split
  · exact dropped.trans (.of_same rfl rfl rfl rfl rfl)
  · exact dropped.trans (.of_conn rfl)

theorem abides_timeout (e : Endpoint H) (now : Instant) : Abides e (e.timeout now) := by
  intro steady
  rw [timeout, steady.timer]
  exact ⟨steady, id⟩

/-- A command of the application takes the socket only if it is refused. -/
theorem abides_writeWith (e : Endpoint H) (text : String) (mask : Option Nat)
    {handler : ReplyHandler H} (h : handler ≠ .quit) :
    Abides e (e.writeWith text mask handler).1.1 ∨
      ∃ found err, e.Refusal text mask handler found err ∧ found.conn.state.isInFlight = true := by
  have filled : Abides e ((e.setSlot (some handler)).remark (.command (redact text mask))) :=
    (Abides.setSlot e (by simpa using h)).trans (.of_conn rfl)
  have noted (r : Remark) : Abides e (e.remark r) := .of_conn rfl
  unfold writeWith
  split
  · exact .inl ((noted .peerGone).trans (abides_deliverError _ _))
  · next peer =>
    split
    · exact .inl ((noted .socketGone).trans (abides_deliverError _ _))
    · next id held =>
      have sent := filled.trans (.of_conn (conn_sendBytes _ id (lineBytes text)))
      dsimp only
      split
      · next e' h =>
        rw [h] at sent
        exact .inl sent
      · next found err h =>
        rw [h] at sent
        refine (abides_fault found err).imp sent.trans fun inFlight => ?_
        exact ⟨found, err, ⟨by simpa using peer, id, held, h⟩, inFlight⟩

theorem abides_writeCommands (e : Endpoint H) (commands : List String) (handler : H) :
    Abides e (e.writeCommands commands handler).1 ∨
      ∃ found err, e.Meets (.perform (.writeCommands commands handler)) found err ∧
        found.conn.state.isInFlight = true := by
  cases none : commands.isEmpty with
  | true =>
    rw [writeCommands, if_pos none]
    exact .inl (abides_deliverError _ _)
  | false =>
    rw [fst_writeCommands none]
    refine (abides_writeWith (e.expect commands.length) _ Option.none (by simp)).imp
      (abides_expect e _).trans ?_
    rintro ⟨found, err, refusal, inFlight⟩
    exact ⟨found, err, .writeCommands none refusal, inFlight⟩

theorem abides_writeLineWithRoom (e : Endpoint H) (line : String) (handler : H) :
    Abides e (e.writeLineWithRoom line handler).1 := by
  rcases e.writeLineWithRoom_cases line handler with ⟨d, waits, conn, -⟩ | ⟨d, _, told, conn, -⟩
  · rw [waits]
    exact .trans (.of_conn conn) (.of_same rfl rfl rfl rfl rfl)
  · rw [told]
    exact .of_conn conn

theorem abides_upgrade (e : Endpoint H) (handler : H) : Abides e (e.upgrade handler).1 := by
  rcases e.upgrade_cases handler with ⟨d, waits, conn⟩ | ⟨d, _, refused, conn⟩
  · rw [waits]
    exact .trans (.of_conn conn) (.of_same rfl rfl rfl rfl rfl)
  · rw [refused]
    exact .of_conn conn

/-- A steady connection is not parked, so it is not taken out of the pool either. -/
theorem abides_useConnection (e : Endpoint H) : Abides e (e.changeUsage .idle .active) := by
  intro steady
  have notIdle : e.conn.state ≠ .live .idle := by
    intro idle
    have live : e.conn.isLive = true := by
      rw [Connection.isLive, idle]
      rfl
    exact absurd (idle.symm.trans (steady.active live)) (by simp)
  rw [changeUsage, if_neg notIdle]
  exact Abides.of_conn rfl steady

theorem abides_runTasks (e : Endpoint H) : Abides e e.runTasks.1 := by
  unfold runTasks
  split
  · exact .refl e
  · next task rest oldest =>
    have later : .close ∈ rest → .close ∈ e.conn.scheduled := by
      rw [oldest]
      exact List.mem_cons_of_mem task
    dsimp only
    split
    · exact .retask later
    · exact fun steady => absurd (oldest ▸ List.mem_cons_self) steady.tasks

theorem abides_overrideErrorHandler (e : Endpoint H) (handler : H) :
    Abides e (e.overrideErrorHandler (.app handler)) := by
  refine .heard (fun _ => by simp) fun steady => ?_
  have remembered := steady.remembered
  cases h : e.conn.baseErrorHandler with
  | none => exact steady.errors
  | some first =>
    rw [h] at remembered
    exact remembered

/-- **Ordinary work keeps the socket, or meets a fault with a command in flight.** -/
theorem abides_or_meets (e : Endpoint H) (ordinary : w.isOrdinary = true) :
    Abides e (e.resume w).1 ∨
      ∃ found err, e.Meets w found err ∧ found.conn.state.isInFlight = true := by
  cases w with
  | call handler notice => exact .inl (.refl e)
  | dispatch => exact abides_dispatch e
  | sendDeferred deferred => exact .inl (.of_conn (conn_writeLine e deferred.line))
  | expectOne => exact .inl (abides_expect e 1)
  | runTasks => exact .inl (abides_runTasks e)
  | perform operation =>
    cases operation with
    | connected t => exact .inl (abides_connected e t)
    | connectFailed err => exact .inl (abides_connectFailed e err)
    | input data => exact .inl (abides_input e data)
    | fault err => exact (abides_fault e err).imp_right fun h => ⟨e, err, .fault err, h⟩
    | closed => exact (abides_closed e).imp_right fun h => ⟨_, _, .closed, h⟩
    | upgraded result => exact .inl (abides_upgraded e result)
    | timeout now => exact .inl (abides_timeout e now)
    | write text mask handler =>
      refine (abides_writeWith e text mask (by simp)).imp_right ?_
      rintro ⟨found, err, refusal, inFlight⟩
      exact ⟨found, err, .write refusal, inFlight⟩
    | writeCommands commands handler => exact abides_writeCommands e commands handler
    | writeLine line => exact .inl (.of_conn (conn_writeLine e line))
    | writeLineWithRoom line handler => exact .inl (abides_writeLineWithRoom e line handler)
    | upgrade handler => exact .inl (abides_upgrade e handler)
    | useConnection => exact .inl (abides_useConnection e)
    | setErrorHandler handler => exact .inl (abides_overrideErrorHandler e handler)
    | resetErrorHandler =>
      exact .inl (.heard (fun steady => steady.remembered) fun steady => steady.remembered)
    | runOnContext handler => exact .inl (.retask (by simp))
    | runScheduled =>
      refine .inl (.of_conn ?_)
      show e.runScheduled.1.conn = e.conn
      unfold runScheduled
      split <;> rfl
    | drained | learnCapabilities | requestShutdown => exact .inl (.of_same rfl rfl rfl rfl rfl)
    | _ => exact absurd ordinary Bool.false_ne_true

/-! ### What a fault finds -/

namespace Meets

/-- A fault finds a steady connection, and the handler for errors that is installed. -/
theorem found_of_steady (meets : e.Meets w found err) (steady : e.Steady) :
    found.Steady ∧ found.conn.errorHandler = e.conn.errorHandler := by
  have filled {d : Endpoint H} (hd : d.Steady) {handler : ReplyHandler H} (h : handler ≠ .quit)
      (conn : found.conn = (d.setSlot (some handler)).conn) : found.Steady :=
    (Abides.setSlot d (by simpa using h) hd).1.of_conn conn
  cases meets with
  | fault => exact ⟨steady, rfl⟩
  | closed => exact ⟨(abides_noteClosed e steady).1, rfl⟩
  | malformed h => exact ⟨(abides_withAssembler e _ steady).1, rfl⟩
  | write h => exact ⟨filled steady (by simp) h.conn_eq, by rw [h.conn_eq]; rfl⟩
  | writeCommands ne h =>
    exact ⟨filled (abides_expect e _ steady).1 (by simp) h.conn_eq, by rw [h.conn_eq]; rfl⟩
  | quit oldest live h => exact absurd (oldest ▸ List.mem_cons_self) steady.tasks

end Meets

/-- **A connection stays steady over ordinary work**, and when it is broken. -/
theorem steady_resume (steady : e.Steady) (allowed : w.Allowed) : (e.resume w).1.Steady := by
  rcases allowed with ordinary | rfl
  · rcases e.abides_or_meets ordinary with abides | ⟨found, err, meets, -⟩
    · exact (abides steady).1
    · have foundSteady := (meets.found_of_steady steady).1
      rcases meets.resume_eq with ⟨rest, -, -, resumed⟩ | ⟨rfl, rfl, resumed⟩
      · rw [resumed]
        exact foundSteady.fault err
      · rw [resumed, closed_eq]
        split
        · exact (foundSteady.setBroken.remark _).deliverError _
        · split
          · exact (foundSteady.remark _).setBroken
          · exact foundSteady.remark _
  · exact steady.setBroken

/-- The fault that a socket is lost over finds a command in flight, and the handler for errors that
is installed. -/
theorem meets_of_cut (steady : e.Steady) (ordinary : w.isOrdinary = true)
    (live : e.conn.isLive = true) (cut : (e.resume w).1.conn.isLive = false) :
    ∃ found err, e.Meets w found err ∧ found.conn.state.isInFlight = true ∧
      found.conn.errorHandler = e.conn.errorHandler := by
  rcases e.abides_or_meets ordinary with abides | ⟨found, err, meets, inFlight⟩
  · exact absurd (((abides steady).2 live).symm.trans cut) (by simp)
  · exact ⟨found, err, meets, inFlight, (meets.found_of_steady steady).2⟩

end Endpoint

end SmtpLink
