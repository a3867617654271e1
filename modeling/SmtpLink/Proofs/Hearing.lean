import SmtpLink.Proofs.Refusals

/-!
# Who hears of errors

Errors come from many operations, and all of them go the same way.  Whoever is in charge of errors
when the work is done hears of the error, and nobody else does: a handler of the application is
called, a graceful close ends, and where nobody is in charge the error is only remarked.

Who is in charge changes in four ways: a handler takes over, which the QUIT step does too; the
remembered handler comes back; the connection is given back; and it is opened.  Only a handler that
takes over can change which handler is remembered.

## Main definitions

* `Event.isStray` — an error reaches no handler of the application, or a batch brings no reply.
* `Endpoint.Mute` — nothing is said of errors, and nobody else is in charge of them.
* `Endpoint.raised?` — the error that a piece of work raises.
* `Handover`, `Endpoint.handover?` — what a piece of work does to who is in charge of errors.
* `Endpoint.Hears` — an error goes to a handler for errors, and to nobody else.

## Main results

* `Endpoint.hears_resume` — **who is in charge hears of errors**, whatever work raises them.
* `Endpoint.errorHandler_after`, `Endpoint.baseErrorHandler_after` — who is in charge, and who is
  remembered, behind a piece of work.
-/

namespace SmtpLink

variable {H : Type}

namespace Event

/-- An error reaches no handler of the application, or a batch brings no reply. -/
def isStray : Event → Bool
  | .remark .quitFaultIgnored | .remark .errorUnheard | .remark .emptyBatch => true
  | _ => false

theorem isStray_of_isClosing {event : Event} (h : event.isClosing = true) :
    event.isStray = false := by
  cases event with
  | remark r => cases r <;> simp_all [isClosing, isStray]
  | _ => rfl

end Event

/-- The work is the call of a handler with an error. -/
def Work.isErrorCall : Work H → Bool
  | .call _ (.error _) => true
  | _ => false

/-- What a piece of work does to who is in charge of errors. -/
inductive Handover (H : Type)
  /-- A handler takes over. -/
  | override (handler : ErrorHandler H)
  /-- The remembered handler comes back. -/
  | restore
  /-- Nobody is in charge any more. -/
  | dismiss

namespace Handover

/-- A handler takes over. -/
def isOverride : Handover H → Bool
  | .override _ => true
  | .restore | .dismiss => false

/-- Who is in charge of errors behind a handover, if this handler is remembered. -/
def successor (remembered : Option (ErrorHandler H)) : Handover H → Option (ErrorHandler H)
  | .override handler => some handler
  | .restore => remembered
  | .dismiss => none

end Handover

namespace Endpoint

variable {e e' e'' : Endpoint H} {err? : Option Error} {r : Reaction H}

/-- The errors that have reached no handler of the application, and the batches that have brought
no reply. -/
def strays (e : Endpoint H) : List Event := e.trace.filter Event.isStray

/-- What is remarked when an error goes to a handler for errors.  The application hears of it
without a remark. -/
def errorRemarks : Option (ErrorHandler H) → List Event
  | some (.app _) => []
  | some .quit => [.remark .quitFaultIgnored]
  | none => [.remark .errorUnheard]

/-! ### The errors that work raises -/

/-- The error that is raised when a command does not reach the wire.  An idle connection raises
none when its transport refuses the line. -/
def commandError? (e : Endpoint H) (text : String) : Option Error :=
  if e.conn.isIdle && !e.conn.peerClosed then none else e.refusal? text

/-- The error that is raised when the socket fails.  It counts while a command may be in flight. -/
def faultError? (e : Endpoint H) (err : Error) : Option Error :=
  if e.conn.peerClosed || !e.conn.state.isInFlight then none else some err

/-- The error that a piece of work raises. -/
def raised? (e : Endpoint H) : Work H → Option Error
  | .perform (.connectFailed err) => some err
  | .perform (.fault err) => e.faultError? err
  | .perform .closed => if e.conn.state.isInFlight then some .closedByServer else none
  | .perform (.write text _ _) => e.commandError? text
  | .perform (.writeCommands commands _) =>
    if commands.isEmpty then some (.invalidState .noCommands)
    else e.commandError? ("\r\n".intercalate commands)
  | .perform .returnToPool => if e.conn.isIdle then some (.invalidState .idleReturned) else none
  | .dispatch => match e.conn.assembler.poll.2 with
    | some (.error err) => e.faultError? err
    | _ => none
  | .runTasks => if e.beginsQuit then e.refusal? "QUIT" else none
  | _ => none

/-- What a piece of work does to who is in charge of errors, if anything.  A connection that is
given back stays in charge of its handler if it is idle, or if it is to be closed then. -/
def handover? (e : Endpoint H) : Work H → Option (Handover H)
  | .perform (.setErrorHandler handler) => some (.override (.app handler))
  | .perform .resetErrorHandler => some .restore
  | .perform .returnToPool =>
    if e.conn.isIdle || e.conn.shutdownRequested then none else some .dismiss
  | .runTasks => if e.beginsQuit then some (.override .quit) else none
  | _ => none

/-- An error, if there is one, goes to a handler for errors, and to nobody else. -/
structure Hears (handler : Option (ErrorHandler H)) (err? : Option Error) (e : Endpoint H)
    (r : Reaction H) : Prop where
  /-- The handler is called with the error, if it is one of the application, and no other call with
  an error is left. -/
  calls : r.2.filter Work.isErrorCall = err?.toList.flatMap (errorCalls handler)
  /-- It is remarked if the error goes to the graceful close, or to nobody. -/
  strays : r.1.strays = e.strays ++ err?.toList.flatMap fun _ => errorRemarks handler

/-- Whoever is to be called with an error is in charge. -/
theorem Hears.eq_of_mem {handler? : Option (ErrorHandler H)} (hears : Hears handler? err? e r)
    {handler : H} {err : Error} (mem : .call handler (.error err) ∈ r.2) :
    handler? = some (.app handler) := by
  have told : .call handler (.error err) ∈ r.2.filter Work.isErrorCall :=
    List.mem_filter.mpr ⟨mem, rfl⟩
  rw [hears.calls] at told
  obtain ⟨raised, -, called⟩ := List.mem_flatMap.mp told
  unfold errorCalls at called
  split at called
  · obtain ⟨rfl, -⟩ := Work.call.inj (List.mem_singleton.mp called)
    rfl
  · exact absurd called List.not_mem_nil

/-! ### Saying nothing of errors -/

/-- Nothing is said of errors, and nobody else is in charge of them. -/
structure Mute (e e' : Endpoint H) : Prop where
  /-- The same handler is in charge of errors. -/
  handler : e'.conn.errorHandler = e.conn.errorHandler
  /-- The same handler is remembered. -/
  base : e'.conn.baseErrorHandler = e.conn.baseErrorHandler
  /-- Nothing strays. -/
  strays : e'.strays = e.strays

namespace Mute

theorem refl (e : Endpoint H) : Mute e e := ⟨rfl, rfl, rfl⟩

theorem trans (h : Mute e e') (h' : Mute e' e'') : Mute e e'' :=
  ⟨h'.handler.trans h.handler, h'.base.trans h.base, h'.strays.trans h.strays⟩

theorem of_trace (handler : e'.conn.errorHandler = e.conn.errorHandler)
    (base : e'.conn.baseErrorHandler = e.conn.baseErrorHandler) {new : List Event}
    (trace : e'.trace = e.trace ++ new) (plain : ∀ event ∈ new, event.isStray = false) :
    Mute e e' := by
  refine ⟨handler, base, ?_⟩
  have none : new.filter Event.isStray = [] :=
    List.filter_eq_nil_iff.mpr fun event mem => by simp [plain event mem]
  rw [Endpoint.strays, trace, List.filter_append, none, List.append_nil]
  rfl

theorem emit (e : Endpoint H) {event : Event} (h : event.isStray = false) : Mute e (e.emit event) :=
  of_trace rfl rfl (trace_emit e event) (by simp [h])

theorem remark (e : Endpoint H) {r : Remark} (h : (Event.remark r).isStray = false) :
    Mute e (e.remark r) := emit e h

theorem noted (h : Mute e e') (r : Remark) (plain : (Event.remark r).isStray = false) :
    Mute e (e'.remark r) := h.trans (remark e' plain)

theorem operationEnded (e : Endpoint H) : Mute e e.operationEnded := emit e rfl

theorem release (e : Endpoint H) (phase : Phase H) : Mute e (e.release phase) := by
  obtain ⟨new, trace, closing⟩ := trace_release e phase
  have conn := conn_release e phase
  refine of_trace ?_ ?_ trace fun event mem => Event.isStray_of_isClosing (closing event mem)
  · rw [conn]
  · rw [conn]

theorem shutdown (e : Endpoint H) : Mute e e.shutdown := release e _

theorem finishQuit (e : Endpoint H) : Mute e e.finishQuit := by
  have unset : Mute e { e with conn := { e.conn with timer := none } } := ⟨rfl, rfl, rfl⟩
  exact unset.trans (shutdown _)

theorem setBroken (e : Endpoint H) : Mute e e.setBroken := by
  unfold Endpoint.setBroken
  split
  · exact remark e rfl
  · exact ((remark e rfl).trans (release _ _)).trans (operationEnded _)

theorem changeUsage (e : Endpoint H) (origin usage : Usage) :
    Mute e (e.changeUsage origin usage) := by
  unfold Endpoint.changeUsage
  split
  · exact ⟨rfl, rfl, rfl⟩
  · exact remark e rfl

theorem noteClosed (e : Endpoint H) : Mute e e.noteClosed := by
  have called : Mute e ((e.remark .socketClosed).emit (.connectionClosed e.conn.view)) :=
    (remark e rfl).trans (emit _ rfl)
  exact called.trans ⟨rfl, rfl, rfl⟩

theorem sendBytes (e : Endpoint H) (id : TransportId) (data : Bytes) :
    Mute e (e.sendBytes id data).1 := by
  unfold Endpoint.sendBytes
  split
  · exact refl e
  · split
    · exact of_trace rfl rfl (trace_emit _ _) (by simp [Event.isStray])
    · exact emit e rfl

theorem writeLine (e : Endpoint H) (line : String) : Mute e (e.writeLine line).1 := by
  unfold Endpoint.writeLine
  split
  · exact refl e
  · split
    · exact refl e
    · exact (remark e rfl).trans (sendBytes _ _ _)

theorem askFull (e : Endpoint H) (id : TransportId) : Mute e (e.askFull id).2 := by
  unfold Endpoint.askFull
  split
  · exact refl e
  · exact ⟨rfl, rfl, rfl⟩

theorem askUpgrade (e : Endpoint H) (id : TransportId) : Mute e (e.askUpgrade id).1 := by
  unfold Endpoint.askUpgrade
  split
  · exact refl e
  · split
    · exact of_trace rfl rfl (trace_emit _ _) (by simp [Event.isStray])
    · exact emit e rfl

theorem timeout (e : Endpoint H) (now : Instant) : Mute e (e.timeout now) := by
  unfold Endpoint.timeout
  split
  · split
    · exact ((refl e).noted .quitTimedOut rfl).trans (finishQuit _)
    · exact refl e
  · exact refl e

theorem connected (e : Endpoint H) (t : Transport) : Mute e (e.connected t) := by
  by_cases waiting : e.conn.state = .connecting
  · obtain ⟨greeting, phase⟩ := phase_of_connecting waiting
    rw [connected_of_connecting t phase]
    exact of_trace rfl rfl (trace_emit _ _) (by simp [Event.isStray])
  · have conn := conn_connected_of_not_connecting t waiting
    refine of_trace ?_ ?_ (trace_connected_of_not_connecting t waiting) (by simp [Event.isStray])
    · rw [conn]
    · rw [conn]

theorem close (e : Endpoint H) : Mute e e.close := by
  unfold Endpoint.close
  split
  · exact remark e rfl
  · exact ⟨rfl, rfl, rfl⟩

end Mute

/-! ### Telling of one error -/

/-- The handler that is in charge hears of the error, if there is one, and stays in charge. -/
structure Tells (err? : Option Error) (e : Endpoint H) (r : Reaction H) : Prop where
  /-- The same handler is in charge of errors. -/
  handler : r.1.conn.errorHandler = e.conn.errorHandler
  /-- The same handler is remembered. -/
  base : r.1.conn.baseErrorHandler = e.conn.baseErrorHandler
  /-- It hears of the error. -/
  hears : Hears e.conn.errorHandler err? e r

namespace Tells

theorem silent (h : Mute e e') {work : List (Work H)} (calls : work.filter Work.isErrorCall = []) :
    Tells none e (e', work) :=
  ⟨h.handler, h.base, calls, h.strays.trans (List.append_nil _).symm⟩

theorem done (h : Mute e e') : Tells none e e'.done := silent h rfl

theorem call {handler : H} {notice : Notice} (h : Mute e e')
    (other : (Work.call handler notice).isErrorCall = false) :
    Tells none e (e', [.call handler notice]) :=
  silent h (by rw [List.filter_cons, other]; rfl)

/-- What says nothing of errors may come before. -/
theorem of_mute (h : Mute e e') (tells : Tells err? e' r) : Tells err? e r where
  handler := tells.handler.trans h.handler
  base := tells.base.trans h.base
  hears := ⟨h.handler ▸ tells.hears.calls, by rw [tells.hears.strays, h.strays, h.handler]⟩

/-- Work that calls nobody may be left behind. -/
theorem append (h : Tells err? e r) {rest : List (Work H)}
    (calls : rest.filter Work.isErrorCall = []) : Tells err? e (r.1, r.2 ++ rest) where
  handler := h.handler
  base := h.base
  hears := ⟨by rw [List.filter_append, h.hears.calls, calls, List.append_nil], h.hears.strays⟩

end Tells

/-- Another handler is in charge of errors from now on, and hears of the error, if there is one. -/
structure HandsOver (handover : Handover H) (err? : Option Error) (e : Endpoint H)
    (r : Reaction H) : Prop where
  /-- The successor is in charge of errors. -/
  handler : r.1.conn.errorHandler = handover.successor e.conn.baseErrorHandler
  /-- A handler is remembered when the first one takes over from it, and from then on. -/
  base : r.1.conn.baseErrorHandler = if handover.isOverride
    then e.conn.baseErrorHandler <|> e.conn.errorHandler else e.conn.baseErrorHandler
  /-- The successor hears of the error. -/
  hears : Hears (handover.successor e.conn.baseErrorHandler) err? e r

theorem filter_errorCalls (handler : Option (ErrorHandler H)) (err : Error) :
    (errorCalls handler err).filter Work.isErrorCall = errorCalls handler err := by
  unfold errorCalls
  split <;> rfl

/-- **An error goes to the handler that is in charge.** -/
theorem tells_deliverError (e : Endpoint H) (err : Error) :
    Tells (some err) e (e.deliverError err) := by
  have calls : (e.deliverError err).2.filter Work.isErrorCall =
      (some err).toList.flatMap (errorCalls e.conn.errorHandler) := by
    rw [work_deliverError, filter_errorCalls]
    exact (List.append_nil _).symm
  -- the graceful close ends with the error, and a handler of the application is yet to be called
  have done : (e.deliverError err).1.conn.errorHandler = e.conn.errorHandler ∧
      (e.deliverError err).1.conn.baseErrorHandler = e.conn.baseErrorHandler ∧
      (e.deliverError err).1.strays = e.strays ++ errorRemarks e.conn.errorHandler := by
    unfold deliverError
    split
    · next h => exact ⟨rfl, rfl, by rw [h]; exact (List.append_nil _).symm⟩
    · next h =>
      have ended := Mute.finishQuit (e.remark .quitFaultIgnored)
      refine ⟨ended.handler, ended.base, ended.strays.trans ?_⟩
      rw [h]
      exact List.filter_append _ _
    · next h =>
      refine ⟨rfl, rfl, ?_⟩
      rw [h]
      exact List.filter_append _ _
  exact ⟨done.1, done.2.1, calls, done.2.2.trans (by simp)⟩

theorem tells_fault (e : Endpoint H) (err : Error) :
    Tells (e.faultError? err) e (e.fault err) := by
  unfold fault faultError?
  split
  · exact .done (.remark e rfl)
  · exact .of_mute ((Mute.setBroken e).trans (.remark _ rfl)) (tells_deliverError _ err)

theorem tells_closed (e : Endpoint H) :
    Tells (if e.conn.state.isInFlight then some .closedByServer else none) e e.closed := by
  have state : e.noteClosed.conn.state = e.conn.state := rfl
  rw [closed_eq, state]
  -- only a command that may be in flight makes an error of the close
  split
  · have broken := (Mute.noteClosed e).trans (.setBroken _)
    exact .of_mute (broken.trans (.remark _ rfl)) (tells_deliverError _ _)
  · split
    · exact .done (((Mute.noteClosed e).trans (.remark _ rfl)).trans (.setBroken _))
    · exact .done ((Mute.noteClosed e).trans (.remark _ rfl))

theorem tells_connectFailed (e : Endpoint H) (err : Error) :
    Tells (some err) e (e.connectFailed err) := by
  have heard : Mute e (if (e.remark .connectFailed).conn.state = .connecting
      then (e.remark .connectFailed).setPhase .broken else e.remark .connectFailed) := by
    split
    · exact ((Mute.refl e).noted .connectFailed rfl).trans ⟨rfl, rfl, rfl⟩
    · exact Mute.remark e rfl
  exact .of_mute (heard.trans (.emit _ rfl)) (tells_deliverError _ err)

/-! ### Input -/

/-- A batch that is not empty brings a reply to whoever waits for one. -/
theorem tells_deliverReplies (e : Endpoint H) {batch : List Reply} (some : batch ≠ []) :
    Tells none e (e.deliverReplies batch) := by
  obtain ⟨reply, rest, rfl⟩ := List.exists_cons_of_ne_nil some
  have emptied : Mute e (e.setSlot none) := ⟨rfl, rfl, rfl⟩
  unfold deliverReplies
  dsimp only
  split
  · exact .done (.remark e rfl)
  · exact .call ⟨rfl, rfl, rfl⟩ rfl
  · exact .call emptied rfl
  · exact .call emptied rfl
  · have told : Mute e (if reply.isSuccess then e.setSlot none
        else (e.setSlot none).remark .quitRefused) := by
      split
      · exact emptied
      · exact emptied.trans (.remark _ rfl)
    exact .done (told.trans (.finishQuit _))

theorem tells_dispatch (e : Endpoint H) : Tells (e.raised? .dispatch) e e.dispatch := by
  have polled : Mute e { e with conn := { e.conn with assembler := e.conn.assembler.poll.1 } } :=
    ⟨rfl, rfl, rfl⟩
  unfold dispatch
  simp only [raised?]
  cases h : e.conn.assembler.poll.2 with
  | none => exact .done polled
  | some result =>
    cases result with
    | error err =>
      have told := tells_fault
        { e with conn := { e.conn with assembler := e.conn.assembler.poll.1 } } err
      exact .of_mute polled told
    | ok batch =>
      have some := Assembler.batch_ne_nil h
      exact .of_mute polled ((tells_deliverReplies _ some).append rfl)

theorem tells_input (e : Endpoint H) (data : Bytes) : Tells none e (e.input data) := by
  unfold input
  split
  · have fed : Mute e { e with conn := { e.conn with assembler := e.conn.assembler.feed data } } :=
      ⟨rfl, rfl, rfl⟩
    exact .silent fed rfl
  · exact .done (.remark e rfl)

theorem tells_upgraded (e : Endpoint H) (result : Outcome) :
    Tells none e (e.upgraded result) := by
  have dropped : Mute e (if result.isOk then e.dropInput else e) := by
    split
    · exact ⟨rfl, rfl, rfl⟩
    · exact .refl e
  unfold upgraded
  dsimp only
  split
  · exact .call (dropped.trans ⟨rfl, rfl, rfl⟩) rfl
  · exact .done (dropped.trans (.remark _ rfl))

/-! ### Writing -/

theorem tells_writeWith (e : Endpoint H) (text : String) (mask : Option Nat)
    (handler : ReplyHandler H) :
    Tells (e.commandError? text) e (e.writeWith text mask handler).1 := by
  cases peer : e.conn.peerClosed with
  | true =>
    have raised : e.commandError? text = some .closedByServer := by
      simp [commandError?, refusal?, peer]
    rw [raised, writeWith, if_pos peer]
    exact .of_mute (.remark e rfl) (tells_deliverError _ _)
  | false =>
    cases held : e.conn.phase.transport? with
    | none =>
      have notIdle : e.conn.isIdle = false := by
        cases hp : e.conn.phase <;>
          simp_all [Phase.transport?, Connection.isIdle, Connection.state, Phase.state]
      have raised : e.commandError? text = some .notConnected := by
        simp [commandError?, refusal?, peer, held, notIdle]
      rw [raised, writeWith, if_neg (by simp [peer]), held]
      exact .of_mute (.remark e rfl) (tells_deliverError _ _)
    | some id =>
      have outcome := snd_sendBytes_posted peer held text handler (.command (redact text mask))
      have waiting : Mute e (e.setSlot (some handler)) := ⟨rfl, rfl, rfl⟩
      have posted := waiting.noted (.command (redact text mask)) rfl
      have sent := posted.trans (.sendBytes _ id (lineBytes text))
      have conn := conn_sendBytes
        ((e.setSlot (some handler)).remark (.command (redact text mask))) id (lineBytes text)
      rw [writeWith, if_neg (by simp [peer]), held]
      dsimp only
      split
      · next taken =>
        rw [taken] at sent outcome
        have raised : e.commandError? text = none := by
          cases refused : e.refusal? text with
          | none => simp [commandError?, refused]
          | some err => exact absurd outcome (by simp [refused])
        rw [raised]
        exact .done sent
      · next found err refused =>
        rw [refused] at sent outcome conn
        -- the refusal is a fault, which counts unless the connection is idle
        have raised : e.commandError? text = found.faultError? err := by
          have same : e.refusal? text = some err := by
            cases taken : e.refusal? text with
            | none => exact absurd outcome (by simp [taken])
            | some err' => simpa [taken] using outcome.symm
          have live := isLive_of_held held
          have state : found.conn.state = e.conn.state := by
            rw [conn]
            exact Phase.state_setSlot _ _
          have peer' : found.conn.peerClosed = false := by
            rw [conn]
            exact peer
          unfold commandError? faultError?
          rw [same, state, peer, peer']
          cases idle : e.conn.isIdle with
          | true => simp [not_inFlight_of_idle idle]
          | false => simp [isInFlight_of_live live idle]
        rw [raised]
        exact .of_mute sent (tells_fault found err)

theorem tells_writeCommands (e : Endpoint H) (commands : List String) (handler : H) :
    Tells (e.raised? (.perform (.writeCommands commands handler))) e
      (e.writeCommands commands handler) := by
  have written := tells_writeWith (e.expect commands.length) ("\r\n".intercalate commands) none
    (.replies handler commands.length)
  have sized : Mute e (e.expect commands.length) := ⟨rfl, rfl, rfl⟩
  have same : (e.expect commands.length).commandError? ("\r\n".intercalate commands) =
      e.commandError? ("\r\n".intercalate commands) := rfl
  rw [same] at written
  unfold writeCommands
  simp only [raised?]
  split
  · exact tells_deliverError e _
  · split
    · next taken =>
      rw [taken] at written
      exact .of_mute sized written
    · next refused =>
      rw [refused] at written
      exact .of_mute sized (written.append rfl)

theorem tells_writeLineWithRoom (e : Endpoint H) (line : String) (handler : H) :
    Tells none e (e.writeLineWithRoom line handler) := by
  unfold writeLineWithRoom
  split
  · exact .call (.refl e) rfl
  · split
    · exact .call (.refl e) rfl
    · next id _ =>
      have asked := Mute.askFull e id
      have held (d : Endpoint H) : Mute d (d.defer line handler) :=
        ((Mute.refl d).noted .queueFull rfl).trans ⟨rfl, rfl, rfl⟩
      split
      · exact .done (held e)
      · split
        · next full =>
          rw [full] at asked
          exact .done (asked.trans (held _))
        · next room =>
          rw [room] at asked
          exact .call ((asked.trans (.remark _ rfl)).trans (.sendBytes _ _ _)) rfl

theorem tells_upgrade (e : Endpoint H) (handler : H) : Tells none e (e.upgrade handler) := by
  unfold upgrade
  split
  · exact .call (.refl e) rfl
  · next id _ =>
    have asked := Mute.askUpgrade e id
    split
    · next waits =>
      rw [waits] at asked
      exact .done (asked.trans ⟨rfl, rfl, rfl⟩)
    · next refused =>
      rw [refused] at asked
      exact .call asked rfl

/-! ### The pool and deferred tasks -/

theorem tells_returnToPool (e : Endpoint H) (stays : e.handover? (.perform .returnToPool) = none) :
    Tells (e.raised? (.perform .returnToPool)) e e.returnToPool := by
  simp only [handover?] at stays
  unfold returnToPool
  simp only [raised?]
  split
  · exact .of_mute (.remark e rfl) (tells_deliverError _ _)
  · next busy =>
    split
    · exact .done ((Mute.remark e rfl).trans (.close _))
    · -- the connection is given back, and that dismisses the handler
      next unrequested => exact absurd stays (by simp [busy, unrequested])

theorem tells_runClose (e : Endpoint H) (h : e.canQuit = false) : Tells none e e.runClose := by
  unfold runClose
  split
  · exact .done (.remark e rfl)
  · dsimp only
    split
    · exact .done (((Mute.remark e rfl).trans (.remark _ rfl)).trans (.shutdown _))
    · -- otherwise QUIT would be sent
      next can =>
        refine absurd ?_ can
        rw [canQuit, Bool.and_eq_false_iff, Bool.not_eq_false'] at h
        rw [Bool.or_eq_true, Bool.not_eq_true']
        exact h.symm

theorem tells_runTasks (e : Endpoint H) (stays : e.beginsQuit = false) :
    Tells none e e.runTasks := by
  unfold beginsQuit at stays
  unfold runTasks
  cases tasks : e.conn.scheduled with
  | nil => exact .done (.refl e)
  | cons oldest rest =>
    have taken : Mute e { e with conn := { e.conn with scheduled := rest } } := ⟨rfl, rfl, rfl⟩
    cases oldest with
    | app handler => exact .silent taken rfl
    | close =>
      rw [tasks] at stays
      have cannot : canQuit { e with conn := { e.conn with scheduled := rest } } = false := stays
      exact .of_mute taken ((tells_runClose _ cannot).append rfl)

/-- The graceful close is in charge of errors while it writes QUIT, and the socket is in use then,
so that a refusal counts. -/
theorem tells_quit (live : e.conn.isLive = true) :
    Tells (e.refusal? "QUIT") e.beginQuit (e.beginQuit.writeWith "QUIT" none .quit).1 := by
  have inUse : e.beginQuit.conn.isIdle = false := by
    rw [Connection.isIdle, state_beginQuit live]
    rfl
  have held : e.beginQuit.conn.phase.transport? = e.conn.phase.transport? :=
    Phase.transport?_relabel _ _
  have raised : e.beginQuit.commandError? "QUIT" = e.refusal? "QUIT" := by
    rw [commandError?, inUse, Bool.false_and, if_neg Bool.false_ne_true]
    apply refusal?_of_same
    · rfl
    · exact held
    · rfl
  rw [← raised]
  exact tells_writeWith _ "QUIT" none .quit

/-- The QUIT step is in charge of errors from its beginning, so it hears of its own. -/
theorem handsOver_runTasks (h : e.beginsQuit = true) :
    HandsOver (.override .quit) (e.refusal? "QUIT") e e.runTasks := by
  unfold beginsQuit at h
  split at h
  · next rest oldest =>
    let taken : Endpoint H := { e with conn := { e.conn with scheduled := rest } }
    have can : taken.canQuit = true := h
    have live : (taken.remark .shuttingDown).conn.isLive = true := by
      rw [canQuit, Bool.and_eq_true] at can
      exact can.1
    have tells := tells_quit live
    have begins : (taken.remark .shuttingDown).beginQuit.strays = e.strays :=
      (Mute.remark taken rfl).strays
    have work : e.runTasks =
        let r := ((taken.remark .shuttingDown).beginQuit.writeWith "QUIT" none .quit).1
        (r.1, r.2 ++ [.runTasks]) := by
      rw [runTasks, oldest]
      dsimp only
      rw [runClose_of_canQuit can]
    have quiet : ([.runTasks] : List (Work H)).filter Work.isErrorCall = [] := rfl
    have left := tells.append quiet
    rw [work]
    refine ⟨left.handler, left.base, left.hears.calls, left.hears.strays.trans ?_⟩
    rw [begins]
    rfl
  · exact absurd h (by simp)

theorem tells_runScheduled (e : Endpoint H) : Tells none e e.runScheduled := by
  unfold runScheduled
  split
  · exact .silent (.refl e) rfl
  · exact .done (.emit e rfl)

/-! ### Operations and work -/

theorem tells_perform (e : Endpoint H) {operation : Operation H}
    (stays : e.handover? (.perform operation) = none)
    (notDial : (Work.perform operation).isDial = false) :
    Tells (e.raised? (.perform operation)) e (e.perform operation) := by
  cases operation with
  | dial config greeting onError => exact absurd notDial (by simp [Work.isDial])
  | connected t => exact .done (.connected e t)
  | connectFailed err => exact tells_connectFailed e err
  | input data => exact tells_input e data
  | fault err => exact tells_fault e err
  | closed => exact tells_closed e
  | drained =>
    have calls : (e.conn.deferred.map Work.sendDeferred).filter Work.isErrorCall = [] :=
      List.filter_eq_nil_iff.mpr fun w mem => by
        obtain ⟨d, -, rfl⟩ := List.mem_map.mp mem
        exact Bool.false_ne_true
    have taken : Mute e { e with conn := { e.conn with deferred := [] } } := ⟨rfl, rfl, rfl⟩
    exact .silent (taken.noted .drained rfl) calls
  | upgraded result => exact tells_upgraded e result
  | timeout now => exact .done (.timeout e now)
  | write text mask handler => exact tells_writeWith e text mask (.reply handler)
  | writeCommands commands handler => exact tells_writeCommands e commands handler
  | writeLine line => exact .done ((Mute.writeLine e line).trans (.emit _ rfl))
  | writeLineWithRoom line handler => exact tells_writeLineWithRoom e line handler
  | upgrade handler => exact tells_upgrade e handler
  | learnCapabilities reply =>
    have learnt : Mute e { e with conn := { e.conn with capabilities := .ofReply reply } } :=
      ⟨rfl, rfl, rfl⟩
    exact .done (learnt.noted .capabilitiesLearned rfl)
  | setIdle => exact .done (.changeUsage e _ _)
  | useConnection => exact .done (.changeUsage e _ _)
  | returnToPool => exact tells_returnToPool e stays
  | requestShutdown =>
    exact .done (((Mute.refl e).noted .shutdownRequested rfl).trans ⟨rfl, rfl, rfl⟩)
  | setBroken => exact .done (.setBroken e)
  | close => exact .done (.close e)
  | setErrorHandler handler => exact absurd stays (by simp [handover?])
  | resetErrorHandler => exact absurd stays (by simp [handover?])
  | runOnContext handler => exact .done ⟨rfl, rfl, rfl⟩
  | runScheduled => exact tells_runScheduled e

/-- Work that changes nothing about who is in charge tells whoever is in charge. -/
theorem tells_resume (e : Endpoint H) {w : Work H} (stays : e.handover? w = none)
    (notDial : w.isDial = false) : Tells (e.raised? w) e (e.resume w) := by
  cases w with
  | call handler notice => exact .done (.refl e)
  | perform operation => exact tells_perform e stays notDial
  | dispatch => exact tells_dispatch e
  | sendDeferred d => exact .call (.writeLine e d.line) rfl
  | expectOne => exact .done ⟨rfl, rfl, rfl⟩
  | runTasks =>
    have quits : e.beginsQuit = false := by simpa [handover?] using stays
    have raised : e.raised? .runTasks = none := by simp [raised?, quits]
    rw [raised]
    exact tells_runTasks e quits

/-- The one operation that dismisses a handler raises no error then. -/
theorem handsOver_returnToPool (busy : e.conn.isIdle = false)
    (unrequested : e.conn.shutdownRequested = false) :
    HandsOver .dismiss (e.raised? (.perform .returnToPool)) e e.returnToPool := by
  have freed : Mute e ((e.remark .returned).setSlot none) :=
    ((Mute.refl e).noted .returned rfl).trans ⟨rfl, rfl, rfl⟩
  have ended := freed.trans (.operationEnded _)
  have raised : e.raised? (.perform .returnToPool) = none := by simp [raised?, busy]
  rw [raised, returnToPool, busy, unrequested]
  exact ⟨rfl, ended.base, rfl, ended.strays.trans (List.append_nil _).symm⟩

/-- Work that changes who is in charge tells the successor. -/
theorem handsOver_resume {w : Work H} {handover : Handover H}
    (hands : e.handover? w = some handover) : HandsOver handover (e.raised? w) e (e.resume w) := by
  unfold handover? at hands
  -- one case for each kind of work that may hand over
  split at hands
  · cases hands
    exact ⟨rfl, rfl, rfl, (List.append_nil _).symm⟩
  · cases hands
    exact ⟨rfl, rfl, rfl, (List.append_nil _).symm⟩
  · split at hands
    · exact absurd hands (by simp)
    · next goes =>
      cases hands
      rw [Bool.or_eq_true, not_or, Bool.not_eq_true, Bool.not_eq_true] at goes
      exact handsOver_returnToPool goes.1 goes.2
  · split at hands
    · next quits =>
      cases hands
      have raised : e.raised? .runTasks = e.refusal? "QUIT" := by simp [raised?, quits]
      rw [raised]
      exact handsOver_runTasks quits
    · exact absurd hands (by simp)
  · exact absurd hands (by simp)

theorem strays_dial (e : Endpoint H) (config : Config) (greeting onError : H) :
    (e.dial config greeting onError).strays = e.strays := by
  have trace : (e.dial config greeting onError).trace = e.trace ++ [.remark .opening] := by
    refine (trace_emit _ _).trans (congrArg (· ++ _) ?_)
    unfold releaseTransport
    split <;> rfl
  rw [strays, trace, List.filter_append]
  exact List.append_nil _

/-- **Whoever is in charge of errors hears of each, and nobody else does**, whatever work raises
it. -/
theorem hears_resume (e : Endpoint H) (w : Work H) :
    Hears (e.resume w).1.conn.errorHandler (e.raised? w) e (e.resume w) := by
  by_cases dials : w.isDial = true
  · obtain ⟨config, greeting, onError, rfl⟩ := Work.exists_of_isDial dials
    exact ⟨rfl, (strays_dial e config greeting onError).trans (List.append_nil _).symm⟩
  · rw [Bool.not_eq_true] at dials
    cases hands : e.handover? w with
    | none =>
      have tells := tells_resume e hands dials
      rw [tells.handler]
      exact tells.hears
    | some handover =>
      have handsOver := handsOver_resume hands
      rw [handsOver.handler]
      exact handsOver.hears

/-- Who is in charge of errors behind work that does not open the connection. -/
theorem errorHandler_after {w : Work H} (notDial : w.isDial = false) :
    (e.resume w).1.conn.errorHandler =
      (e.handover? w).elim e.conn.errorHandler (·.successor e.conn.baseErrorHandler) := by
  cases hands : e.handover? w with
  | none => exact (tells_resume e hands notDial).handler
  | some handover => exact (handsOver_resume hands).handler

/-- Only a handler that takes over can change which one is remembered. -/
theorem baseErrorHandler_after (e : Endpoint H) (w : Work H) :
    (e.resume w).1.conn.baseErrorHandler = if (e.handover? w).any Handover.isOverride
      then e.conn.baseErrorHandler <|> e.conn.errorHandler else e.conn.baseErrorHandler := by
  by_cases dials : w.isDial = true
  · obtain ⟨config, greeting, onError, rfl⟩ := Work.exists_of_isDial dials
    show e.releaseTransport.conn.baseErrorHandler = _
    rw [conn_releaseTransport]
    rfl
  · rw [Bool.not_eq_true] at dials
    cases hands : e.handover? w with
    | none => exact (tells_resume e hands dials).base
    | some handover => exact (handsOver_resume hands).base

end Endpoint

end SmtpLink
