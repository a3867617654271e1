import SmtpLink.Proofs.Keep

/-!
# What work may touch

Most work leaves the handler for errors, the deadline, the lines held back and the list of the
transports as they are, unless the connection loses its socket over it; and it hands over no
bytes but those of its own line.  What a piece of work may do beyond that is its *scope*.

## Main definitions

* `Scope` — what may be touched.
* `Endpoint.written` — the bytes that transports took.
* `Endpoint.Touches`, `Endpoint.Within` — an endpoint, and a reaction, that keep to a scope.
* `Endpoint.beginsQuit` — the oldest deferred task is a graceful close that sends QUIT.
* `Endpoint.scope` — the scope of a piece of work.

## Main results

* `Endpoint.within_resume` — **work keeps to its scope.**
-/

namespace SmtpLink

variable {H : Type}

/-- What a piece of work may touch. -/
structure Scope where
  /-- A transport may be handed over. -/
  transports : Bool := false
  /-- The handler for errors may change. -/
  errorHandler : Bool := false
  /-- A deadline may be set. -/
  timer : Bool := false
  /-- A line may be held back, and lines held back may be sent on their way. -/
  deferred : Bool := false
  /-- The bytes that a transport may take. -/
  line : Option Bytes := none

/-- The bytes that a transport took. -/
def Event.bytes? : Event → Option Bytes
  | .wrote _ data => some data
  | _ => none

/-- The line that the work sends on its way. -/
def Work.deferred? : Work H → Option (Deferred H)
  | .sendDeferred deferred => some deferred
  | _ => none

namespace Endpoint

variable {s : Scope} {e e' e'' : Endpoint H} {r : Reaction H}

/-- The bytes that transports took, in order. -/
def written (e : Endpoint H) : List Bytes := e.trace.filterMap Event.bytes?

/-- An endpoint keeps to a scope. -/
structure Touches (s : Scope) (e e' : Endpoint H) : Prop where
  /-- No transport is handed over. -/
  transports : s.transports = false → e'.transports.length = e.transports.length
  /-- The handler for errors stays. -/
  errorHandler : s.errorHandler = false → e'.conn.errorHandler = e.conn.errorHandler
  /-- The deadline stays, or there is none any more. -/
  timer : s.timer = false → e'.conn.timer = e.conn.timer ∨ e'.conn.timer = none
  /-- The lines held back stay, or there are none any more. -/
  deferred : s.deferred = false → e'.conn.deferred = e.conn.deferred ∨ e'.conn.deferred = []
  /-- A transport takes the line of the scope, or nothing. -/
  written : e'.written = e.written ∨
    ∃ data, s.line = some data ∧ e'.written = e.written ++ [data]

namespace Touches

/-- An endpoint that differs in other things keeps to every scope. -/
theorem of_same (transports : e'.transports.length = e.transports.length)
    (errorHandler : e'.conn.errorHandler = e.conn.errorHandler)
    (timer : e'.conn.timer = e.conn.timer) (deferred : e'.conn.deferred = e.conn.deferred)
    (written : e'.written = e.written) : Touches s e e' :=
  ⟨fun _ => transports, fun _ => errorHandler, fun _ => .inl timer, fun _ => .inl deferred,
    .inl written⟩

theorem refl (e : Endpoint H) : Touches s e e := .of_same rfl rfl rfl rfl rfl

/-- A transport takes nothing unless the scope has a line. -/
theorem written_eq (h : Touches s e e') (hs : s.line = none) : e'.written = e.written :=
  h.written.resolve_right (by simp [hs])

theorem trans (h : Touches {} e e') (h' : Touches s e' e'') : Touches s e e'' where
  transports hs := (h'.transports hs).trans (h.transports rfl)
  errorHandler hs := (h'.errorHandler hs).trans (h.errorHandler rfl)
  timer hs := by
    rcases h'.timer hs with same | none
    · rw [same]
      exact h.timer rfl
    · exact .inr none
  deferred hs := by
    rcases h'.deferred hs with same | none
    · rw [same]
      exact h.deferred rfl
    · exact .inr none
  written := by
    rw [← h.written_eq rfl]
    exact h'.written

/-- The empty scope is part of every scope. -/
theorem mono (h : Touches {} e e') : Touches s e e' := h.trans (.refl e')

theorem «then» (h : Touches s e e') (h' : Touches {} e' e'') : Touches s e e'' where
  transports hs := (h'.transports rfl).trans (h.transports hs)
  errorHandler hs := (h'.errorHandler rfl).trans (h.errorHandler hs)
  timer hs := by
    rcases h'.timer rfl with same | none
    · rw [same]
      exact h.timer hs
    · exact .inr none
  deferred hs := by
    rcases h'.deferred rfl with same | none
    · rw [same]
      exact h.deferred hs
    · exact .inr none
  written := by
    rw [h'.written_eq rfl]
    exact h.written

end Touches

/-- A reaction keeps to a scope. -/
structure Within (s : Scope) (e : Endpoint H) (r : Reaction H) : Prop where
  /-- The endpoint keeps to the scope. -/
  touches : Touches s e r.1
  /-- No line is sent on its way. -/
  sends : s.deferred = false → r.2.filterMap Work.deferred? = []

namespace Within

theorem done (h : Touches s e e') : Within s e e'.done := ⟨h, fun _ => rfl⟩

/-- Calls send no line on its way. -/
theorem call {handler : H} {notice : Notice} (h : Touches s e e') :
    Within s e (e', [.call handler notice]) :=
  ⟨h, fun _ => rfl⟩

theorem trans (h : Touches {} e e') (h' : Within s e' r) : Within s e r :=
  ⟨h.trans h'.touches, h'.sends⟩

theorem «then» (h : Touches s e e') (h' : Within {} e' r) : Within s e r :=
  ⟨h.then h'.touches, fun _ => h'.sends rfl⟩

theorem append (h : Within s e r) {rest : List (Work H)}
    (hrest : rest.filterMap Work.deferred? = []) : Within s e (r.1, r.2 ++ rest) :=
  ⟨h.touches, fun hs => by rw [List.filterMap_append, h.sends hs, hrest, List.append_nil]⟩

end Within

/-! ### The single effects -/

theorem written_emit (e : Endpoint H) (event : Event) :
    (e.emit event).written = e.written ++ event.bytes?.toList := by
  rw [written, trace_emit, List.filterMap_append]
  cases h : event.bytes? <;> simp [written, h]

theorem touches_emit (e : Endpoint H) {event : Event} (h : event.bytes? = none) :
    Touches s e (e.emit event) :=
  .of_same rfl rfl rfl rfl (by rw [written_emit, h, Option.toList_none, List.append_nil])

theorem touches_remark (e : Endpoint H) (r : Remark) : Touches s e (e.remark r) :=
  touches_emit e rfl

theorem length_transports_closeTransport (e : Endpoint H) (id : TransportId) :
    (e.closeTransport id).transports.length = e.transports.length := by
  unfold closeTransport
  split
  · rfl
  · exact List.length_set

theorem conn_closeTransport (e : Endpoint H) (id : TransportId) :
    (e.closeTransport id).conn = e.conn := by
  unfold closeTransport
  split <;> rfl

theorem conn_releaseTransport (e : Endpoint H) : e.releaseTransport.conn = e.conn := by
  unfold releaseTransport
  split <;> rfl

/-- What is let go of with a socket. -/
theorem conn_release (e : Endpoint H) (phase : Phase H) : (e.release phase).conn =
    { e.conn with phase, deferred := [], upgradeHandler := none, timer := none } := by
  unfold release
  dsimp only
  split
  · rw [conn_releaseTransport, conn_closeTransport, conn_remark]
  · rfl

theorem touches_closeTransport (e : Endpoint H) (id : TransportId) :
    Touches s e (e.closeTransport id) := by
  have conn := conn_closeTransport e id
  refine .of_same (length_transports_closeTransport e id) (by rw [conn]) (by rw [conn])
    (by rw [conn]) ?_
  unfold closeTransport
  split
  · rfl
  · rw [written_emit]
    exact List.append_nil _

theorem touches_releaseTransport (e : Endpoint H) : Touches s e e.releaseTransport := by
  unfold releaseTransport
  split
  · exact .refl e
  · exact .of_same (List.length_modify _ _ _) rfl rfl rfl rfl

theorem touches_release (e : Endpoint H) (phase : Phase H) : Touches s e (e.release phase) := by
  have cleared {d : Endpoint H} (h : Touches {} e d) : Touches {} e { d with conn := { d.conn with
      phase, deferred := [], upgradeHandler := none, timer := none } } :=
    ⟨fun _ => h.transports rfl, fun _ => h.errorHandler rfl, fun _ => .inr rfl, fun _ => .inr rfl,
      h.written⟩
  unfold release
  dsimp only
  split
  · exact (cleared (((touches_remark e .closingSocket).trans (touches_closeTransport _ _)).trans
      (touches_releaseTransport _))).mono
  · exact (cleared (.refl e)).mono

theorem touches_shutdown (e : Endpoint H) : Touches s e e.shutdown := touches_release e _

theorem touches_finishQuit (e : Endpoint H) : Touches s e e.finishQuit := by
  have ended : Touches {} e { e with conn := { e.conn with timer := none } } :=
    ⟨fun _ => rfl, fun _ => rfl, fun _ => .inr rfl, fun _ => .inl rfl, .inl rfl⟩
  exact ended.trans (touches_shutdown _)

theorem touches_setBroken (e : Endpoint H) : Touches s e e.setBroken := by
  unfold setBroken
  split
  · exact touches_remark e _
  · have broken := (touches_remark e .breaking).trans (touches_release (s := {}) _ .broken)
    exact broken.trans (touches_emit _ rfl)

theorem touches_changeUsage (e : Endpoint H) (origin usage : Usage) :
    Touches s e (e.changeUsage origin usage) := by
  unfold changeUsage
  split
  · exact .of_same rfl rfl rfl rfl rfl
  · exact touches_remark e _

theorem touches_noteClosed (e : Endpoint H) : Touches s e e.noteClosed := by
  have noted : Touches {} e
      ((e.remark .socketClosed).emit (.connectionClosed (e.remark .socketClosed).conn.view)) :=
    (touches_remark e .socketClosed).trans (touches_emit _ rfl)
  exact noted.trans (.of_same rfl rfl rfl rfl rfl)

/-- The transport takes the bytes, or refuses them. -/
theorem written_sendBytes {id : TransportId} {data : Bytes} {o : Outcome}
    (h : e.sendBytes id data = (e', o)) :
    e'.written = e.written ++ if o.isOk then [data] else [] := by
  unfold sendBytes at h
  split at h
  · obtain ⟨rfl, rfl⟩ := Prod.mk.inj h
    exact (List.append_nil _).symm
  · split at h
    · obtain ⟨rfl, rfl⟩ := Prod.mk.inj h
      exact written_emit (e.setTransport id _) (.wrote id data)
    · obtain ⟨rfl, rfl⟩ := Prod.mk.inj h
      exact written_emit e (.writeRefused id)

theorem touches_sendBytes (e : Endpoint H) (id : TransportId) {data : Bytes}
    (h : s.line = some data) : Touches s e (e.sendBytes id data).1 := by
  have conn := conn_sendBytes e id data
  refine ⟨fun _ => length_transports_sendBytes e id data, fun _ => by rw [conn],
    fun _ => .inl (by rw [conn]), fun _ => .inl (by rw [conn]), ?_⟩
  have wrote : (e.sendBytes id data).1.written = _ :=
    written_sendBytes (o := (e.sendBytes id data).2) rfl
  rw [wrote]
  split
  · exact .inr ⟨data, h, rfl⟩
  · exact .inl (List.append_nil _)

theorem touches_askFull (e : Endpoint H) (id : TransportId) : Touches s e (e.askFull id).2 := by
  have conn := conn_askFull e id
  refine .of_same (length_transports_askFull e id) (by rw [conn]) (by rw [conn]) (by rw [conn]) ?_
  unfold askFull
  split <;> rfl

theorem touches_askUpgrade (e : Endpoint H) (id : TransportId) :
    Touches s e (e.askUpgrade id).1 := by
  have conn := conn_askUpgrade e id
  refine .of_same (length_transports_askUpgrade e id) (by rw [conn]) (by rw [conn])
    (by rw [conn]) ?_
  unfold askUpgrade
  split
  · rfl
  · split
    · rw [written_emit]
      exact List.append_nil _
    · rw [written_emit]
      exact List.append_nil _

/-! ### Errors and events -/

theorem within_deliverError (e : Endpoint H) (err : Error) : Within s e (e.deliverError err) := by
  unfold deliverError
  split
  · exact .call (.refl e)
  · exact .done ((touches_remark e _).trans (touches_finishQuit _))
  · exact .done (touches_remark e _)

theorem within_fault (e : Endpoint H) (err : Error) : Within s e (e.fault err) := by
  unfold fault
  split
  · exact .done (touches_remark e _)
  · exact .trans ((touches_setBroken e).trans (touches_remark _ _)) (within_deliverError _ err)

theorem within_closed (e : Endpoint H) : Within s e e.closed := by
  rw [closed_eq]
  split
  · have broken := (touches_noteClosed e).trans (touches_setBroken (s := {}) _)
    exact .trans (broken.trans (touches_remark _ _)) (within_deliverError _ _)
  · split
    · have noted := (touches_noteClosed e).trans (touches_remark (s := {}) _ .closedWhileIdle)
      exact .done (noted.trans (touches_setBroken _))
    · exact .done ((touches_noteClosed e).trans (touches_remark _ _))

theorem within_connectFailed (e : Endpoint H) (err : Error) :
    Within s e (e.connectFailed err) := by
  have heard : Touches {} e (if (e.remark .connectFailed).conn.state = .connecting
      then (e.remark .connectFailed).setPhase .broken else e.remark .connectFailed) := by
    split
    · exact (touches_remark e _).trans (.of_same rfl rfl rfl rfl rfl)
    · exact touches_remark e _
  exact .trans (heard.trans (touches_emit _ rfl)) (within_deliverError _ err)

theorem within_deliverReplies (e : Endpoint H) (batch : List Reply) :
    Within s e (e.deliverReplies batch) := by
  have emptied : Touches {} e (e.setSlot none) := .of_same rfl rfl rfl rfl rfl
  unfold deliverReplies
  dsimp only
  split
  · exact .done (touches_remark e _)
  · exact .call (.of_same rfl rfl rfl rfl rfl)
  · split
    · exact .done (emptied.trans (touches_remark _ _))
    · exact .call emptied.mono
  · split
    · exact .done (emptied.trans (touches_remark _ _))
    · exact .call emptied.mono
  · split
    · exact .done (emptied.trans (touches_remark _ _))
    · split
      · exact .done (emptied.trans (touches_finishQuit _))
      · exact .done ((emptied.trans (touches_remark _ _)).trans (touches_finishQuit _))

theorem within_dispatch (e : Endpoint H) : Within s e e.dispatch := by
  have polled : Touches {} e { e with conn := { e.conn with
      assembler := e.conn.assembler.poll.1 } } := .of_same rfl rfl rfl rfl rfl
  unfold dispatch
  dsimp only
  split
  · exact .done polled.mono
  · exact .trans polled (within_fault _ _)
  · exact .trans polled ((within_deliverReplies _ _).append rfl)

theorem within_input (e : Endpoint H) (data : Bytes) : Within s e (e.input data) := by
  unfold input
  split
  · exact ⟨.of_same rfl rfl rfl rfl rfl, fun _ => rfl⟩
  · exact .done (touches_remark e _)

theorem within_upgraded (e : Endpoint H) (result : Outcome) :
    Within s e (e.upgraded result) := by
  have dropped : Touches {} e (if result.isOk then e.dropInput else e) := by
    split
    · exact .of_same rfl rfl rfl rfl rfl
    · exact .refl e
  unfold upgraded
  dsimp only
  split
  · exact .call (dropped.trans (.of_same rfl rfl rfl rfl rfl))
  · exact .done (dropped.trans (touches_remark _ _))

theorem touches_timeout (e : Endpoint H) (now : Instant) : Touches s e (e.timeout now) := by
  unfold timeout
  split
  · split
    · exact ((touches_remark e .quitTimedOut).trans (touches_finishQuit _))
    · exact .refl e
  · exact .refl e

/-! ### Writing -/

theorem within_writeWith (e : Endpoint H) {text : String} (mask : Option Nat)
    (handler : ReplyHandler H) (h : s.line = some (lineBytes text)) :
    Within s e (e.writeWith text mask handler).1 := by
  unfold writeWith
  split
  · exact .trans (touches_remark e _) (within_deliverError _ _)
  · split
    · exact .trans (touches_remark e _) (within_deliverError _ _)
    · next id held =>
      have filled : Touches {} e (e.setSlot (some handler)) := .of_same rfl rfl rfl rfl rfl
      have posted := filled.trans
        (touches_remark (s := {}) (e.setSlot (some handler)) (.command (redact text mask)))
      have sent := posted.trans (touches_sendBytes
        ((e.setSlot (some handler)).remark (.command (redact text mask))) id h)
      dsimp only
      split
      · next hsent =>
        rw [hsent] at sent
        exact .done sent
      · next hsent =>
        rw [hsent] at sent
        exact .then sent (within_fault _ _)

theorem within_writeCommands (e : Endpoint H) {commands : List String} (handler : H)
    (h : s.line = some (lineBytes ("\r\n".intercalate commands))) :
    Within s e (e.writeCommands commands handler) := by
  have expecting : Touches {} e (e.expect commands.length) := .of_same rfl rfl rfl rfl rfl
  have written := Within.trans expecting
    (within_writeWith _ none (.replies handler commands.length) h)
  unfold writeCommands
  split
  · exact within_deliverError _ _
  · dsimp only
    split
    · next hw =>
      rw [hw] at written
      exact written
    · next hw =>
      rw [hw] at written
      exact written.append rfl

theorem conn_writeLine (e : Endpoint H) (line : String) : (e.writeLine line).1.conn = e.conn := by
  unfold writeLine
  split
  · rfl
  · split
    · rfl
    · exact conn_sendBytes _ _ _

theorem touches_writeLine (e : Endpoint H) {line : String} (h : s.line = some (lineBytes line)) :
    Touches s e (e.writeLine line).1 := by
  unfold writeLine
  split
  · exact .refl e
  · split
    · exact .refl e
    · exact (touches_remark e _).trans (touches_sendBytes _ _ h)

/-- A line held back is in the scope if lines may be held back. -/
theorem touches_defer (e : Endpoint H) (line : String) (handler : H) (h : s.deferred = true) :
    Touches s e (e.defer line handler) := by
  refine (touches_remark e .queueFull).trans ⟨fun _ => rfl, fun _ => rfl, fun _ => .inl rfl,
    fun hs => ?_, .inl rfl⟩
  rw [h] at hs
  exact absurd hs (by simp)

/-- What becomes of a line that is submitted: it is held back, or its fate is told at once. -/
theorem writeLineWithRoom_cases (e : Endpoint H) (line : String) (handler : H) :
    (∃ d : Endpoint H, e.writeLineWithRoom line handler = (d.defer line handler, []) ∧
      d.conn = e.conn ∧ d.written = e.written) ∨
    ∃ (d : Endpoint H) (result : Outcome),
      e.writeLineWithRoom line handler = (d, [.call handler (.line result)]) ∧
      d.conn = e.conn ∧ d.written = e.written ++ if result.isOk then [lineBytes line] else [] := by
  unfold writeLineWithRoom
  split
  · exact .inr ⟨e, .error .closedByServer, rfl, rfl, (List.append_nil _).symm⟩
  · split
    · exact .inr ⟨e, .error .notConnected, rfl, rfl, (List.append_nil _).symm⟩
    · next id _ =>
      have conn := conn_askFull e id
      have asked : (e.askFull id).2.written = e.written :=
        (touches_askFull (s := {}) e id).written_eq rfl
      split
      · exact .inl ⟨e, rfl, rfl, rfl⟩
      · split
        · next d full =>
          rw [full] at conn asked
          exact .inl ⟨d, rfl, conn, asked⟩
        · next d notFull =>
          rw [notFull] at conn asked
          have sent := conn_sendBytes (d.remark (.content line)) id (lineBytes line)
          have tried : (d.remark (.content line)).sendBytes id (lineBytes line) = (_, _) := rfl
          have wrote := written_sendBytes tried
          have before : (d.remark (.content line)).written = e.written :=
            ((touches_remark (s := {}) d _).written_eq rfl).trans asked
          rw [before] at wrote
          exact .inr ⟨_, _, rfl, sent.trans conn, wrote⟩

theorem within_writeLineWithRoom (e : Endpoint H) {line : String} (handler : H)
    (hd : s.deferred = true) (h : s.line = some (lineBytes line)) :
    Within s e (e.writeLineWithRoom line handler) := by
  unfold writeLineWithRoom
  split
  · exact .call (.refl e)
  · split
    · exact .call (.refl e)
    · next id held =>
      have asked : Touches {} e (e.askFull id).2 := touches_askFull e id
      split
      · exact .done (touches_defer e line handler hd)
      · split
        · next hask =>
          rw [hask] at asked
          exact .done (asked.trans (touches_defer _ line handler hd))
        · next hask =>
          rw [hask] at asked
          exact .call ((asked.trans (touches_remark _ _)).trans (touches_sendBytes _ _ h))

/-- What becomes of an upgrade that is asked for: it is waited for, or it is refused at once. -/
theorem upgrade_cases (e : Endpoint H) (handler : H) :
    (∃ d : Endpoint H, e.upgrade handler =
        ({ d with conn := { d.conn with upgradeHandler := some handler } }, []) ∧
      d.conn = e.conn) ∨
    ∃ (d : Endpoint H) (err : Error),
      e.upgrade handler = (d, [.call handler (.upgrade (.error err))]) ∧ d.conn = e.conn := by
  unfold upgrade
  split
  · exact .inr ⟨e, .notConnected, rfl, rfl⟩
  · next id _ =>
    have conn := conn_askUpgrade e id
    split
    · next d asked =>
      rw [asked] at conn
      exact .inl ⟨d, rfl, conn⟩
    · next d err asked =>
      rw [asked] at conn
      exact .inr ⟨d, err, rfl, conn⟩

theorem within_upgrade (e : Endpoint H) (handler : H) : Within s e (e.upgrade handler) := by
  unfold upgrade
  split
  · exact .call (.refl e)
  · next id held =>
    have asked : Touches {} e (e.askUpgrade id).1 := touches_askUpgrade e id
    split
    · next hask =>
      rw [hask] at asked
      exact .done (asked.trans (.of_same rfl rfl rfl rfl rfl))
    · next hask =>
      rw [hask] at asked
      exact .call asked.mono

/-! ### The pool and deferred tasks -/

theorem touches_close (e : Endpoint H) : Touches s e e.close := by
  unfold close
  split
  · exact touches_remark e _
  · exact .of_same rfl rfl rfl rfl rfl

theorem within_returnToPool (e : Endpoint H) (h : s.errorHandler = true) :
    Within s e e.returnToPool := by
  unfold returnToPool
  split
  · exact .trans (touches_remark e _) (within_deliverError _ _)
  · split
    · exact .done ((touches_remark e _).trans (touches_close _))
    · have emptied : Touches {} e ((e.remark .returned).setSlot none) :=
        (touches_remark e _).trans (.of_same rfl rfl rfl rfl rfl)
      have ended : Touches {} e ((e.remark .returned).setSlot none).operationEnded :=
        emptied.trans (touches_emit _ rfl)
      refine .done (ended.trans ⟨fun _ => rfl, fun hs => ?_, fun _ => .inl rfl, fun _ => .inl rfl,
        .inl rfl⟩)
      rw [h] at hs
      exact absurd hs (by simp)

/-- The graceful close would send QUIT. -/
def canQuit (e : Endpoint H) : Bool := e.conn.isLive && !e.conn.peerClosed

/-- The oldest deferred task is a graceful close that sends QUIT. -/
def beginsQuit (e : Endpoint H) : Bool :=
  match e.conn.scheduled with
  | .close :: _ => e.canQuit
  | _ => false

/-- What the QUIT step may touch. -/
def quitScope : Scope where
  errorHandler := true
  timer := true
  line := some (lineBytes "QUIT")

/-- The graceful close begins with QUIT exactly if it can. -/
theorem runClose_of_canQuit (h : e.canQuit = true) : e.runClose =
    ((e.remark .shuttingDown).beginQuit.writeWith "QUIT" none .quit).1 := by
  rw [canQuit, Bool.and_eq_true, Bool.not_eq_true'] at h
  have notTerminal : ¬ e.conn.state.isTerminal = true := by
    intro terminal
    rw [not_live_of_terminal terminal] at h
    exact absurd h.1 (by simp)
  unfold runClose
  rw [if_neg notTerminal]
  dsimp only
  rw [if_neg (by simp [h.2]; exact h.1)]
  rfl

theorem within_runClose_of_canQuit (h : e.canQuit = true) : Within quitScope e e.runClose := by
  rw [runClose_of_canQuit h]
  have began : Touches quitScope e (e.remark .shuttingDown).beginQuit :=
    (touches_remark e .shuttingDown).trans ⟨fun _ => rfl, fun hs => absurd hs (by simp [quitScope]),
      fun hs => absurd hs (by simp [quitScope]), fun _ => .inl rfl, .inl rfl⟩
  have wrote : Within { line := some (lineBytes "QUIT") } (e.remark .shuttingDown).beginQuit
      ((e.remark .shuttingDown).beginQuit.writeWith "QUIT" none .quit).1 :=
    within_writeWith _ none .quit rfl
  -- what begins the step writes nothing, and what writes the line changes nothing else
  refine ⟨⟨fun _ => (wrote.touches.transports rfl).trans (began.transports rfl),
    fun hs => absurd hs (by simp [quitScope]), fun hs => absurd hs (by simp [quitScope]),
    fun _ => wrote.touches.deferred rfl, ?_⟩, fun _ => wrote.sends rfl⟩
  have same : (e.remark .shuttingDown).beginQuit.written = e.written :=
    (touches_remark (s := {}) e .shuttingDown).written_eq rfl
  rw [← same]
  exact wrote.touches.written

theorem within_runClose (h : e.canQuit = false) : Within s e e.runClose := by
  unfold runClose
  split
  · exact .done (touches_remark e _)
  · dsimp only
    split
    · have remarked := (touches_remark e .shuttingDown).trans
        (touches_remark (s := {}) _ .quitUnneeded)
      exact .done (remarked.trans (touches_shutdown _))
    · next can =>
      refine absurd ?_ can
      rw [canQuit, Bool.and_eq_false_iff, Bool.not_eq_false'] at h
      rw [Bool.or_eq_true, Bool.not_eq_true']
      exact h.symm

theorem within_runTasks (e : Endpoint H) :
    Within (if e.beginsQuit then quitScope else {}) e e.runTasks := by
  unfold beginsQuit runTasks
  cases hq : e.conn.scheduled with
  | nil => exact .done (.refl e)
  | cons task rest =>
    have taken : Touches {} e { e with conn := { e.conn with scheduled := rest } } :=
      .of_same rfl rfl rfl rfl rfl
    cases task with
    | app handler => exact ⟨taken, fun _ => rfl⟩
    | close =>
      have can : canQuit { e with conn := { e.conn with scheduled := rest } } = e.canQuit := rfl
      dsimp only
      cases hc : e.canQuit with
      | true => exact .trans taken ((within_runClose_of_canQuit (can.trans hc)).append rfl)
      | false => exact .trans taken ((within_runClose (can.trans hc)).append rfl)

theorem within_runScheduled (e : Endpoint H) : Within s e e.runScheduled := by
  unfold runScheduled
  split
  · exact ⟨.refl e, fun _ => rfl⟩
  · exact .done (touches_emit e rfl)

/-! ### Operations and work -/

/-- What an operation may touch. -/
def operationScope : Operation H → Scope
  | .dial _ _ _ | .returnToPool | .setErrorHandler _ | .resetErrorHandler =>
    { errorHandler := true }
  | .connected _ => { transports := true }
  | .drained => { deferred := true }
  | .write text _ _ => { line := some (lineBytes text) }
  | .writeCommands commands _ => { line := some (lineBytes ("\r\n".intercalate commands)) }
  | .writeLine line => { line := some (lineBytes line) }
  | .writeLineWithRoom line _ => { deferred := true, line := some (lineBytes line) }
  | _ => {}

/-- What a piece of work may touch. -/
def scope (e : Endpoint H) : Work H → Scope
  | .perform operation => operationScope operation
  | .sendDeferred deferred => { line := some (lineBytes deferred.line) }
  | .runTasks => if e.beginsQuit then quitScope else {}
  | _ => {}

theorem touches_dial (e : Endpoint H) (config : Config) (greeting onError : H)
    (h : s.errorHandler = true) : Touches s e (e.dial config greeting onError) := by
  have opening : Touches s e.releaseTransport { e.releaseTransport with
      conn := { e.releaseTransport.conn with
        address := config.address
        quitTimeout := config.quitTimeout
        errorHandler := some (.app onError)
        peerClosed := false
        phase := .connecting greeting } } :=
    ⟨fun _ => rfl, fun hs => absurd (h.symm.trans hs) (by simp), fun _ => .inl rfl,
      fun _ => .inl rfl, .inl rfl⟩
  exact (touches_releaseTransport e).trans (opening.then (touches_remark _ .opening))

theorem phase_of_connecting (h : e.conn.state = .connecting) :
    ∃ greeting, e.conn.phase = .connecting greeting := by
  rw [Connection.state] at h
  cases hp : e.conn.phase <;> simp_all [Phase.state]

/-- A socket that nobody waits for is only put with the others, and closed. -/
theorem trace_connected_of_not_connecting (t : Transport) (h : e.conn.state ≠ .connecting) :
    (e.connected t).trace =
      e.trace ++ [.remark .lateSocket, .transportClosed e.transports.length] := by
  unfold connected
  dsimp only
  split
  · next greeting hp => exact absurd (by rw [Connection.state, hp]; rfl) h
  · simp [closeTransport, setTransport, emit, remark]

theorem touches_connected (e : Endpoint H) (t : Transport) (h : s.transports = true) :
    Touches s e (e.connected t) := by
  have added (same : (e.connected t).conn.errorHandler = e.conn.errorHandler ∧
      (e.connected t).conn.timer = e.conn.timer ∧ (e.connected t).conn.deferred = e.conn.deferred)
      (wrote : (e.connected t).written = e.written) : Touches s e (e.connected t) :=
    ⟨fun hs => absurd (h.symm.trans hs) (by simp), fun _ => same.1, fun _ => .inl same.2.1,
      fun _ => .inl same.2.2, .inl wrote⟩
  by_cases hs : e.conn.state = .connecting
  · obtain ⟨greeting, hp⟩ := phase_of_connecting hs
    rw [connected_of_connecting t hp] at added ⊢
    refine added ⟨rfl, rfl, rfl⟩ ?_
    rw [written, trace_remark, List.filterMap_append]
    exact List.append_nil _
  · have conn := conn_connected_of_not_connecting t hs
    refine added ⟨by rw [conn], by rw [conn], by rw [conn]⟩ ?_
    rw [written, trace_connected_of_not_connecting t hs, List.filterMap_append]
    exact List.append_nil _

theorem within_perform (e : Endpoint H) (operation : Operation H) :
    Within (operationScope operation) e (e.perform operation) := by
  cases operation with
  | dial config greeting onError => exact .done (touches_dial e config greeting onError rfl)
  | connected t => exact .done (touches_connected e t rfl)
  | connectFailed err => exact within_connectFailed e err
  | input data => exact within_input e data
  | fault err => exact within_fault e err
  | closed => exact within_closed e
  | drained =>
    have taken : Touches { deferred := true } e { e with conn := { e.conn with deferred := [] } } :=
      ⟨fun _ => rfl, fun _ => rfl, fun _ => .inl rfl, fun _ => .inr rfl, .inl rfl⟩
    exact ⟨taken.then (touches_remark _ .drained), fun hs => absurd hs (by simp [operationScope])⟩
  | upgraded result => exact within_upgraded e result
  | timeout now => exact .done (touches_timeout e now)
  | write text mask handler => exact within_writeWith e mask (.reply handler) rfl
  | writeCommands commands handler => exact within_writeCommands e handler rfl
  | writeLine line => exact .done ((touches_writeLine e rfl).then (touches_emit _ rfl))
  | writeLineWithRoom line handler => exact within_writeLineWithRoom e handler rfl rfl
  | upgrade handler => exact within_upgrade e handler
  | learnCapabilities reply =>
    have learned : Touches {} e
        { e with conn := { e.conn with capabilities := .ofReply reply } } :=
      .of_same rfl rfl rfl rfl rfl
    exact .done (learned.trans (touches_remark _ .capabilitiesLearned))
  | setIdle => exact .done (touches_changeUsage e _ _)
  | useConnection => exact .done (touches_changeUsage e _ _)
  | returnToPool => exact within_returnToPool e rfl
  | requestShutdown =>
    exact .done ((touches_remark e .shutdownRequested).trans (.of_same rfl rfl rfl rfl rfl))
  | setBroken => exact .done (touches_setBroken e)
  | close => exact .done (touches_close e)
  | setErrorHandler handler =>
    exact .done ⟨fun _ => rfl, fun hs => absurd hs (by simp [operationScope]), fun _ => .inl rfl,
      fun _ => .inl rfl, .inl rfl⟩
  | resetErrorHandler =>
    exact .done ⟨fun _ => rfl, fun hs => absurd hs (by simp [operationScope]), fun _ => .inl rfl,
      fun _ => .inl rfl, .inl rfl⟩
  | runOnContext handler => exact .done (.of_same rfl rfl rfl rfl rfl)
  | runScheduled => exact within_runScheduled e

/-- **Work keeps to its scope.** -/
theorem within_resume (e : Endpoint H) (w : Work H) : Within (e.scope w) e (e.resume w) := by
  cases w with
  | call handler notice => exact .done (.refl e)
  | perform operation => exact within_perform e operation
  | dispatch => exact within_dispatch e
  | sendDeferred deferred => exact .call (touches_writeLine e rfl)
  | expectOne => exact .done (.of_same rfl rfl rfl rfl rfl)
  | runTasks => exact within_runTasks e

end Endpoint

end SmtpLink
