import SmtpLink.Proofs.Serial

/-!
# The end of an operation

The listener hears that an operation has ended when the connection breaks, and when the connection
is given back.  Whatever else is done to a connection lets the operation go on: the listener hears
nothing, and nobody waits for a reply who has not been waiting or asks for one now.

## Main definitions

* `Phase.asker?`, `Work.asker?` — the handler that waits for replies, and the one that begins to.
* `Endpoint.ends` — what the listener saw each time it heard that an operation has ended.
* `Endpoint.Proceeds` — the operation goes on, or ends with the connection broken.

## Main results

* `Endpoint.proceeds_resume` — **work lets the operation go on, or breaks the connection**; only
  what opens the connection or gives it back does not.
* `Endpoint.returnToPool_cases` — what giving the connection back does.
* `Endpoint.asker?_of_mem_resume` — **only who waits for replies is called with some.**
-/

namespace SmtpLink

variable {H : Type}

namespace Event

/-- What the listener sees of the connection when it hears that an operation has ended. -/
def ended? : Event → Option View
  | .operationEnded view => some view
  | _ => none

/-- The event tells that a socket is closed. -/
def isClosing : Event → Bool
  | .remark .closingSocket | .transportClosed _ => true
  | _ => false

theorem ended?_of_isPlain {event : Event} (h : event.isPlain = true) : event.ended? = none := by
  cases event <;> simp_all [isPlain, ended?]

theorem ended?_of_isClosing {event : Event} (h : event.isClosing = true) :
    event.ended? = none := by
  cases event <;> simp_all [isClosing, ended?]

end Event

/-- The handler of the application that is called with the replies, if it is not the graceful
close that waits. -/
def ReplyHandler.asker? : ReplyHandler H → Option H
  | .greeting handler | .reply handler | .replies handler _ => some handler
  | .quit => none

namespace Phase

variable {phase : Phase H}

/-- The handler that waits for the greeting of a socket that is still to come. -/
def greeter? : Phase H → Option H
  | .connecting greeting => some greeting
  | _ => none

/-- The handler of the application that waits for replies. -/
def asker? : Phase H → Option H
  | .connecting greeting => some greeting
  | .live _ _ slot => slot.bind ReplyHandler.asker?
  | _ => none

@[simp] theorem asker?_relabel (phase : Phase H) (usage : Usage) :
    (phase.relabel usage).asker? = phase.asker? := by
  cases phase <;> rfl

/-- Emptying the slot leaves only who waits for a greeting without a socket. -/
@[simp] theorem asker?_setSlot_none (phase : Phase H) :
    (phase.setSlot none).asker? = phase.greeter? := by
  cases phase <;> rfl

theorem asker?_of_setSlot {slot : Option (ReplyHandler H)} {h : H}
    (waits : (phase.setSlot slot).asker? = some h) :
    phase.asker? = some h ∨ slot.bind ReplyHandler.asker? = some h := by
  cases phase with
  | live usage id old => exact .inr waits
  | _ => exact .inl waits

theorem asker?_of_slot? {handler : ReplyHandler H} (h : phase.slot? = some handler) :
    phase.asker? = handler.asker? := by
  cases phase with
  | live usage id slot =>
    obtain rfl : slot = some handler := h
    rfl
  | _ => exact absurd h (by simp [slot?])

theorem asker?_of_terminal (h : phase.state.isTerminal = true) : phase.asker? = none := by
  cases phase <;> simp_all [state, ConnectionState.isTerminal, asker?]

theorem asker?_of_greeter? {h : H} (waits : phase.greeter? = some h) : phase.asker? = some h := by
  cases phase <;> simp_all [greeter?, asker?]

end Phase

/-- The handler that begins to wait for replies with a piece of work. -/
def Work.asker? : Work H → Option H
  | .perform operation => operation.request?.bind ReplyHandler.asker?
  | _ => none

namespace Endpoint

variable {e e' e'' : Endpoint H} {asked : Option H}

/-! ### What the listener saw -/

/-- What the listener saw of the connection each time it heard that an operation has ended. -/
def ends (e : Endpoint H) : List View := e.trace.filterMap Event.ended?

theorem ends_emit (e : Endpoint H) (event : Event) :
    (e.emit event).ends = e.ends ++ event.ended?.toList := by
  rw [ends, trace_emit, List.filterMap_append]
  cases h : event.ended? <;> simp [ends, h]

theorem ends_emit_of_none {event : Event} (h : event.ended? = none) :
    (e.emit event).ends = e.ends := by
  rw [ends_emit, h]
  exact List.append_nil _

@[simp] theorem ends_remark (e : Endpoint H) (r : Remark) : (e.remark r).ends = e.ends :=
  ends_emit_of_none rfl

theorem ends_of_trace (h : e'.trace = e.trace) : e'.ends = e.ends := by
  rw [ends, ends, h]

/-- A connection that lets go of its socket closes it, and nothing else is told. -/
theorem trace_release (e : Endpoint H) (phase : Phase H) :
    ∃ new, (e.release phase).trace = e.trace ++ new ∧ ∀ event ∈ new, event.isClosing = true := by
  have freed (d : Endpoint H) : d.releaseTransport.trace = d.trace := by
    unfold releaseTransport
    split <;> rfl
  unfold release
  dsimp only
  split
  · next id held =>
    rw [freed]
    unfold closeTransport
    split
    · exact ⟨[.remark .closingSocket], rfl, by simp [Event.isClosing]⟩
    · refine ⟨[.remark .closingSocket, .transportClosed id], ?_, by simp [Event.isClosing]⟩
      exact List.append_assoc _ _ _
  · exact ⟨[], (List.append_nil _).symm, by simp⟩

@[simp] theorem ends_release (e : Endpoint H) (phase : Phase H) :
    (e.release phase).ends = e.ends := by
  obtain ⟨new, trace, closing⟩ := trace_release e phase
  have none : new.filterMap Event.ended? = [] :=
    List.filterMap_eq_nil_iff.mpr fun event mem => Event.ended?_of_isClosing (closing event mem)
  rw [ends, trace, List.filterMap_append, none, List.append_nil]
  rfl

@[simp] theorem ends_shutdown (e : Endpoint H) : e.shutdown.ends = e.ends := ends_release _ _

@[simp] theorem ends_finishQuit (e : Endpoint H) : e.finishQuit.ends = e.ends := ends_shutdown _

@[simp] theorem ends_noteClosed (e : Endpoint H) : e.noteClosed.ends = e.ends :=
  (ends_emit_of_none rfl).trans (ends_remark e _)

@[simp] theorem ends_sendBytes (e : Endpoint H) (id : TransportId) (data : Bytes) :
    (e.sendBytes id data).1.ends = e.ends := by
  unfold sendBytes
  split
  · rfl
  · split <;> exact ends_emit_of_none rfl

@[simp] theorem ends_askFull (e : Endpoint H) (id : TransportId) :
    (e.askFull id).2.ends = e.ends := by
  unfold askFull
  split <;> rfl

@[simp] theorem ends_askUpgrade (e : Endpoint H) (id : TransportId) :
    (e.askUpgrade id).1.ends = e.ends := by
  unfold askUpgrade
  split
  · rfl
  · split <;> exact ends_emit_of_none rfl

theorem ends_deliverError (e : Endpoint H) (err : Error) :
    (e.deliverError err).1.ends = e.ends := by
  unfold deliverError
  split
  · rfl
  · exact (ends_finishQuit _).trans (ends_remark e _)
  · exact ends_remark e _

theorem ends_close (e : Endpoint H) : e.close.ends = e.ends := by
  unfold close
  split
  · exact ends_remark e _
  · rfl

theorem ends_connected (e : Endpoint H) (t : Transport) : (e.connected t).ends = e.ends := by
  unfold connected
  dsimp only
  split
  · exact ends_remark _ _
  · unfold closeTransport
    split
    · exact ends_remark _ _
    · exact (ends_emit_of_none rfl).trans (ends_remark _ _)

theorem ends_dial (e : Endpoint H) (config : Config) (greeting onError : H) :
    (e.dial config greeting onError).ends = e.ends := by
  refine (ends_remark _ _).trans (ends_of_trace ?_)
  unfold releaseTransport
  split <;> rfl

/-! ### Going on -/

/-- The operation goes on, or ends with the connection broken; `asked` begins to wait for
replies. -/
structure Proceeds (asked : Option H) (e e' : Endpoint H) : Prop where
  /-- Who waits for replies has been waiting, or begins to. -/
  asker : ∀ h, e'.conn.phase.asker? = some h → e.conn.phase.asker? = some h ∨ asked = some h
  /-- A connection that can no longer be used stays as it is, and no operation of it ends. -/
  terminal : e.conn.state.isTerminal = true → e'.conn.state = e.conn.state ∧ e'.ends = e.ends
  /-- The listener hears nothing, or sees a broken connection. -/
  ends : e'.ends = e.ends ∨ e'.conn.state = .broken ∧
    ∃ c : Connection H, c.phase = .broken ∧ e'.ends = e.ends ++ [c.view]

namespace Proceeds

theorem of_parts (asker : e'.conn.phase.asker? = e.conn.phase.asker?)
    (state : e.conn.state.isTerminal = true → e'.conn.state = e.conn.state)
    (ends : e'.ends = e.ends) : Proceeds asked e e' where
  asker _ waits := .inl (asker ▸ waits)
  terminal ended := ⟨state ended, ends⟩
  ends := .inl ends

theorem of_phase (phase : e'.conn.phase = e.conn.phase) (ends : e'.ends = e.ends) :
    Proceeds asked e e' :=
  .of_parts (by rw [phase]) (fun _ => by rw [Connection.state, phase]; rfl) ends

theorem of_conn (conn : e'.conn = e.conn) (ends : e'.ends = e.ends) : Proceeds asked e e' :=
  .of_phase (by rw [conn]) ends

theorem refl (e : Endpoint H) : Proceeds asked e e := .of_conn rfl rfl

theorem remark (e : Endpoint H) (r : Remark) : Proceeds asked e (e.remark r) :=
  .of_conn rfl (ends_remark e r)

/-- An operation ends once with a connection, since a broken one has no other to end. -/
theorem trans (h : Proceeds asked e e') (h' : Proceeds asked e' e'') : Proceeds asked e e'' where
  asker handler waits := (h'.asker handler waits).elim (h.asker handler) .inr
  terminal ended := by
    obtain ⟨state, same⟩ := h.terminal ended
    obtain ⟨state', same'⟩ := h'.terminal (by rw [state, ended])
    exact ⟨state'.trans state, same'.trans same⟩
  ends := by
    rcases h.ends with same | ⟨broken, c, phase, told⟩
    · rcases h'.ends with same' | ⟨broken, c, phase, told⟩
      · exact .inl (same'.trans same)
      · exact .inr ⟨broken, c, phase, by rw [told, same]⟩
    · obtain ⟨state, same⟩ := h'.terminal (by rw [broken]; rfl)
      exact .inr ⟨state.trans broken, c, phase, same.trans told⟩

theorem setBroken (e : Endpoint H) : Proceeds asked e e.setBroken := by
  cases terminal : e.conn.state.isTerminal with
  | true =>
    rw [setBroken_of_terminal terminal]
    exact .remark e _
  | false =>
    rw [setBroken_of_not_terminal terminal]
    refine ⟨fun h waits => absurd waits (by simp [operationEnded, Phase.asker?]),
      fun ended => absurd (terminal.symm.trans ended) (by simp),
      .inr ⟨rfl, ((e.remark .breaking).release .broken).conn, rfl, ?_⟩⟩
    rw [operationEnded, ends_emit, ends_release, ends_remark]
    rfl

theorem shutdown (e : Endpoint H) : Proceeds asked e e.shutdown where
  asker h waits := by
    rw [phase_shutdown] at waits
    split at waits <;> exact absurd waits (by simp [Phase.asker?])
  terminal ended := by
    refine ⟨?_, ends_shutdown e⟩
    rw [state_shutdown]
    cases hs : e.conn.state <;> simp_all [ConnectionState.isTerminal]
  ends := .inl (ends_shutdown e)

theorem finishQuit (e : Endpoint H) : Proceeds asked e e.finishQuit := by
  have ended : Proceeds asked e { e with conn := { e.conn with timer := none } } :=
    .of_phase rfl rfl
  exact ended.trans (shutdown _)

theorem relabel (live : e.conn.isLive = true) (usage : Usage) :
    Proceeds asked e (e.setPhase (e.conn.phase.relabel usage)) := by
  refine .of_parts (Phase.asker?_relabel _ _) (fun ended => ?_) rfl
  rw [not_live_of_terminal ended] at live
  exact absurd live (by simp)

theorem changeUsage (e : Endpoint H) (origin usage : Usage) :
    Proceeds asked e (e.changeUsage origin usage) := by
  unfold Endpoint.changeUsage
  split
  · next h => exact relabel (by rw [Connection.isLive, h]; rfl) usage
  · exact .remark e _

theorem noteClosed (e : Endpoint H) : Proceeds asked e e.noteClosed :=
  .of_phase rfl (ends_noteClosed e)

/-- A handler that is put into the slot begins to wait. -/
theorem setSlot (e : Endpoint H) {slot : Option (ReplyHandler H)}
    (begins : ∀ h, slot.bind ReplyHandler.asker? = some h → asked = some h) :
    Proceeds asked e (e.setSlot slot) where
  asker h waits := (Phase.asker?_of_setSlot waits).imp_right (begins h)
  terminal _ := ⟨Phase.state_setSlot _ _, rfl⟩
  ends := .inl rfl

theorem emptySlot (e : Endpoint H) : Proceeds asked e (e.setSlot none) :=
  setSlot e fun h waits => absurd waits (by simp)

end Proceeds

/-- Quiet effects let the operation go on, or break the connection. -/
theorem Effect.proceeds_of_quiet (effect : Effect false e e') : Proceeds asked e e' := by
  cases effect with
  | event plain => exact .of_conn rfl (ends_emit_of_none (Event.ended?_of_isPlain plain))
  | outside outside => exact .of_conn outside.conn_eq (ends_of_trace outside.trace_eq)
  | send data held peer => exact .of_conn (conn_sendBytes e _ data) (ends_sendBytes e _ data)
  | askFull held => exact .of_conn (conn_askFull e _) (ends_askFull e _)
  | askUpgrade held => exact .of_conn (conn_askUpgrade e _) (ends_askUpgrade e _)
  | park => exact .changeUsage e _ _
  | use => exact .changeUsage e _ _
  | refused waiting =>
    refine ⟨fun h waits => absurd waits (by simp [setPhase, Phase.asker?]), fun ended => ?_,
      .inl rfl⟩
    rw [waiting] at ended
    exact absurd ended (by simp [ConnectionState.isTerminal])
  | setBroken => exact .setBroken e
  | retire idle => exact ((Proceeds.noteClosed e).trans (.remark _ _)).trans (.setBroken _)
  | closeExpected gone => exact .noteClosed e
  | beginQuit peer live =>
    have relabelled : Proceeds asked e (e.setPhase (e.conn.phase.relabel .shuttingDown)) :=
      .relabel live .shuttingDown
    exact relabelled.trans (.of_phase rfl rfl)
  | finishQuit waits => exact .finishQuit e
  | shutdown gone notYet => exact .shutdown e
  | _ => exact .of_phase rfl rfl

theorem Effects.proceeds_of_quiet (effects : Effects false e e') : Proceeds asked e e' :=
  effects.invariant (P := Proceeds asked e) (fun h effect => h.trans effect.proceeds_of_quiet)
    (.refl e)

/-! ### Operations and work -/

theorem proceeds_deliverError (e : Endpoint H) (err : Error) :
    Proceeds asked e (e.deliverError err).1 :=
  (effects_deliverError e err).proceeds_of_quiet

theorem proceeds_fault (e : Endpoint H) (err : Error) : Proceeds asked e (e.fault err).1 := by
  unfold fault
  split
  · exact .remark e _
  · exact ((Proceeds.setBroken e).trans (.remark _ _)).trans (proceeds_deliverError _ err)

theorem proceeds_closed (e : Endpoint H) : Proceeds asked e e.closed.1 := by
  have noted : Proceeds asked e e.noteClosed := .noteClosed e
  rw [closed_eq]
  split
  · exact ((noted.trans (.setBroken _)).trans (.remark _ _)).trans (proceeds_deliverError _ _)
  · split
    · exact (noted.trans (.remark _ _)).trans (.setBroken _)
    · exact noted.trans (.remark _ _)

theorem proceeds_connected (e : Endpoint H) (t : Transport) :
    Proceeds asked e (e.connected t) := by
  cases hp : e.conn.phase with
  | connecting greeting =>
    refine .of_parts ?_ (fun ended => ?_) (ends_connected e t)
    · rw [connected_of_connecting t hp, hp]
      rfl
    · rw [Connection.state, hp] at ended
      exact absurd ended (by simp [Phase.state, ConnectionState.isTerminal])
  | _ =>
    refine .of_conn (conn_connected_of_not_connecting t ?_) (ends_connected e t)
    simp [Connection.state, hp, Phase.state]

theorem proceeds_deliverReplies (e : Endpoint H) (batch : List Reply) :
    Proceeds asked e (e.deliverReplies batch).1 := by
  have emptied : Proceeds asked e (e.setSlot none) := .emptySlot e
  have remarked (r : Remark) : Proceeds asked e ((e.setSlot none).remark r) :=
    emptied.trans (.remark _ r)
  unfold deliverReplies
  dsimp only
  split
  · exact .remark e _
  · exact emptied.trans (.of_phase rfl rfl)
  · split
    · exact remarked _
    · exact emptied
  · split
    · exact remarked _
    · exact emptied
  · split
    · exact remarked _
    · dsimp only [done]
      split
      · exact emptied.trans (.finishQuit _)
      · exact (remarked _).trans (.finishQuit _)

theorem proceeds_dispatch (e : Endpoint H) : Proceeds asked e e.dispatch.1 := by
  have polled : Proceeds asked e
      { e with conn := { e.conn with assembler := e.conn.assembler.poll.1 } } := .of_phase rfl rfl
  unfold dispatch
  dsimp only
  split
  · exact polled
  · exact polled.trans (proceeds_fault _ _)
  · exact polled.trans (proceeds_deliverReplies _ _)

theorem proceeds_input (e : Endpoint H) (data : Bytes) : Proceeds asked e (e.input data).1 := by
  unfold input
  split
  · exact .of_phase rfl rfl
  · exact .remark e _

theorem proceeds_upgraded (e : Endpoint H) (result : Outcome) :
    Proceeds asked e (e.upgraded result).1 := by
  have dropped : Proceeds asked e (if result.isOk then e.dropInput else e) := by
    split
    · exact .of_phase rfl rfl
    · exact .refl e
  unfold upgraded
  dsimp only
  split
  · exact dropped.trans (.of_phase rfl rfl)
  · exact dropped.trans (.remark _ _)

/-- A command's handler begins to wait, whatever becomes of the command. -/
theorem proceeds_writeWith (e : Endpoint H) (text : String) (mask : Option Nat)
    (handler : ReplyHandler H) :
    Proceeds handler.asker? e (e.writeWith text mask handler).1.1 := by
  unfold writeWith
  split
  · exact (Proceeds.remark e _).trans (proceeds_deliverError _ _)
  · split
    · exact (Proceeds.remark e _).trans (proceeds_deliverError _ _)
    · next id held =>
      have posted : Proceeds handler.asker? e (e.setSlot (some handler)) :=
        .setSlot e fun h waits => waits
      have sent := (posted.trans (.remark _ (.command (redact text mask)))).trans
        (.of_conn (conn_sendBytes _ id (lineBytes text)) (ends_sendBytes _ id (lineBytes text)))
      dsimp only
      split
      · next e' h =>
        rw [h] at sent
        exact sent
      · next e' err h =>
        rw [h] at sent
        exact sent.trans (proceeds_fault e' err)

theorem proceeds_writeCommands (e : Endpoint H) (commands : List String) (handler : H) :
    Proceeds (Work.perform (.writeCommands commands handler)).asker? e
      (e.writeCommands commands handler).1 := by
  cases ne : commands.isEmpty with
  | true =>
    unfold writeCommands
    rw [if_pos ne]
    exact proceeds_deliverError e _
  | false =>
    have asker : (Work.perform (.writeCommands commands handler)).asker? = some handler := by
      simp [Work.asker?, Operation.request?, ne, ReplyHandler.asker?]
    have expecting : Proceeds (some handler) e (e.expect commands.length) := .of_phase rfl rfl
    rw [fst_writeCommands ne, asker]
    exact expecting.trans
      (proceeds_writeWith _ _ none (.replies handler commands.length))

theorem proceeds_runClose (e : Endpoint H) : Proceeds none e e.runClose.1 := by
  unfold runClose
  split
  · exact .remark e _
  · have begun : Proceeds none e (e.remark .shuttingDown) := .remark e _
    dsimp only
    split
    · exact (begun.trans (.remark _ _)).trans (.shutdown _)
    · next h =>
      simp only [Bool.or_eq_true, Bool.not_eq_true', not_or, Bool.not_eq_true,
        Bool.not_eq_false] at h
      have quits : Effect false (e.remark .shuttingDown) (e.remark .shuttingDown).beginQuit :=
        .beginQuit h.1 h.2
      exact (begun.trans quits.proceeds_of_quiet).trans (proceeds_writeWith _ "QUIT" none .quit)

theorem proceeds_runTasks (e : Endpoint H) : Proceeds none e e.runTasks.1 := by
  unfold runTasks
  split
  · exact .refl e
  · next task rest oldest =>
    have taken : Proceeds none e { e with conn := { e.conn with scheduled := rest } } :=
      .of_phase rfl rfl
    dsimp only
    split
    · exact taken
    · exact taken.trans (proceeds_runClose _)

/-- What giving a connection back does: the operation ends, unless the connection is idle or a
graceful close is due. -/
theorem returnToPool_cases (e : Endpoint H) :
    ((e.conn.isIdle = true ∨ e.conn.shutdownRequested = true) ∧
        Effects false e e.returnToPool.1 ∧ e.returnToPool.1.ends = e.ends) ∨
      e.conn.isIdle = false ∧ e.conn.shutdownRequested = false ∧
        e.returnToPool = ((e.remark .returned).giveBack, []) := by
  unfold returnToPool
  split
  · next idle =>
    exact .inl ⟨.inl idle, (effects_remark rfl).append (effects_deliverError _ _),
      (ends_deliverError _ _).trans (ends_remark e _)⟩
  · next notIdle =>
    split
    · next requested =>
      exact .inl ⟨.inr requested, (effects_remark rfl).append (effects_close _),
        (ends_close _).trans (ends_remark e _)⟩
    · next notRequested => exact .inr ⟨by simpa using notIdle, by simpa using notRequested, rfl⟩

theorem proceeds_perform (e : Endpoint H) (operation : Operation H)
    (notDial : (Work.perform operation).isDial = false) (notReturn : operation ≠ .returnToPool) :
    Proceeds (Work.perform operation).asker? e (e.perform operation).1 := by
  cases operation with
  | dial config greeting onError => exact absurd notDial (by simp [Work.isDial])
  | returnToPool => exact absurd rfl notReturn
  | connected t => exact proceeds_connected e t
  | input data => exact proceeds_input e data
  | upgraded result => exact proceeds_upgraded e result
  | fault err => exact proceeds_fault e err
  | closed => exact proceeds_closed e
  | write text mask handler => exact proceeds_writeWith e text mask (.reply handler)
  | writeCommands commands handler => exact proceeds_writeCommands e commands handler
  | _ => exact (effects_perform_of_quiet e rfl).proceeds_of_quiet

/-- **Work lets the operation go on, or breaks the connection**; only what opens the connection or
gives it back does not. -/
theorem proceeds_resume (e : Endpoint H) (w : Work H) (notDial : w.isDial = false)
    (notReturn : w ≠ .perform .returnToPool) : Proceeds w.asker? e (e.resume w).1 := by
  cases w with
  | call handler notice => exact .refl e
  | perform operation =>
    exact proceeds_perform e operation notDial fun same => notReturn (by rw [same])
  | dispatch => exact proceeds_dispatch e
  | sendDeferred deferred => exact (effects_writeLine e deferred.line).proceeds_of_quiet
  | expectOne => exact .of_phase rfl rfl
  | runTasks => exact proceeds_runTasks e

/-! ### Replies -/

theorem asker?_of_mem_deliverReplies {batch : List Reply} {h : H} {notice : Notice}
    (mem : .call h notice ∈ (e.deliverReplies batch).2) : e.conn.phase.asker? = some h := by
  unfold deliverReplies at mem
  dsimp only at mem
  split at mem
  · exact absurd mem (by simp [done])
  · next handler count slot =>
    rw [Phase.asker?_of_slot? slot]
    simp_all [ReplyHandler.asker?]
  · next handler slot =>
    rw [Phase.asker?_of_slot? slot]
    split at mem <;> simp_all [ReplyHandler.asker?, done]
  · next handler slot =>
    rw [Phase.asker?_of_slot? slot]
    split at mem <;> simp_all [ReplyHandler.asker?, done]
  · split at mem <;> exact absurd mem (by simp [done])

theorem asker?_of_mem_dispatch {h : H} {notice : Notice} (mem : .call h notice ∈ e.dispatch.2)
    (replies : notice.isReplies = true) : e.conn.phase.asker? = some h := by
  unfold dispatch at mem
  dsimp only at mem
  split at mem
  · exact absurd mem (by simp [done])
  · exact absurd ((leaves_fault _ _).replies_of_isReplyCall mem replies) (by simp)
  · next batch polled =>
    simp only [List.mem_append, List.mem_singleton, reduceCtorEq, or_false] at mem
    -- polling leaves alone who waits
    have waits := asker?_of_mem_deliverReplies mem
    exact waits

/-- **Only who waits for replies is called with some.** -/
theorem asker?_of_mem_resume {w : Work H} {h : H} {notice : Notice}
    (mem : .call h notice ∈ (e.resume w).2) (replies : notice.isReplies = true) :
    e.conn.phase.asker? = some h := by
  cases w with
  | call handler notice => exact absurd mem (by simp [resume, done])
  | perform operation =>
    exact absurd ((leaves_perform e operation).replies_of_isReplyCall mem replies) (by simp)
  | dispatch => exact asker?_of_mem_dispatch mem replies
  | sendDeferred deferred =>
    obtain ⟨rfl, rfl⟩ : h = deferred.handler ∧ notice = .line (e.writeLine deferred.line).2 := by
      simpa [resume, sendDeferred] using mem
    exact absurd replies (by simp [Notice.isReplies])
  | expectOne => exact absurd mem (by simp [resume, done])
  | runTasks => exact absurd ((leaves_runTasks e).replies_of_isReplyCall mem replies) (by simp)

end Endpoint

end SmtpLink
