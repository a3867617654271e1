import SmtpLink.Proofs.Fault
import SmtpLink.Proofs.Reports
import SmtpLink.Proofs.Scope

/-!
# Commands that do not reach the wire

A command does not reach the wire if the peer has closed the socket, if there is none, or if the
transport refuses the line.  The error is then handed on, once: to the handler for errors, which
may be that of a graceful close.  Nobody waits for a reply after it.  The refusal of a transport is
a fault, though, and faults of an idle connection are only remarked.

## Main definitions

* `Operation.command?` — what an operation asks to be sent as a command.
* `Endpoint.refusal?` — why a command would not reach the wire.
* `Endpoint.HandsOn` — an error is handed on once, and leaves nothing behind.
* `Endpoint.Passes` — an error is only remarked.

## Main results

* `Endpoint.handsOn_writeWith`, `Endpoint.passes_writeWith` — what becomes of a refused command.
* `Machine.refused_command_handed_on` — **a refused command leaves no trace but its error**, which
  is handed on exactly once unless the connection is idle.
-/

namespace SmtpLink

variable {H : Type}

/-- What an operation asks to be sent as a command or as a group of commands. -/
def Operation.command? : Operation H → Option String
  | .write text _ _ => some text
  | .writeCommands commands _ =>
    if commands.isEmpty then none else some ("\r\n".intercalate commands)
  | _ => none

/-- The graceful close, which is in charge of errors, is handed one. -/
def Event.isQuitFault : Event → Bool
  | .remark .quitFaultIgnored => true
  | _ => false

theorem Event.isQuitFault_of_isClosing {event : Event} (h : event.isClosing = true) :
    event.isQuitFault = false := by
  cases event with
  | remark r => cases r <;> simp_all [isClosing, isQuitFault]
  | _ => rfl

namespace Endpoint

variable {e e' : Endpoint H} {err : Error} {text : String} {r : Reaction H}

/-- Why a command would not reach the wire, if it would not. -/
def refusal? (e : Endpoint H) (text : String) : Option Error :=
  if e.conn.peerClosed then some .closedByServer
  else match e.conn.phase.transport?.bind (e.transports[·]?) with
    | none => some .notConnected
    | some t => match t.write (lineBytes text) with
      | .ok _ => none
      | .error err => some err

/-- How often the graceful close, being in charge of errors, was handed one. -/
def quitFaults (e : Endpoint H) : ℕ := e.trace.countP Event.isQuitFault

/-- How many of the errors that are handed to this handler the graceful close gets: all or none. -/
def quitShare : Option (ErrorHandler H) → ℕ
  | some .quit => 1
  | _ => 0

/-- An error is handed to the handler for errors, once, and leaves nothing else behind. -/
structure HandsOn (e : Endpoint H) (err : Error) (r : Reaction H) : Prop where
  /-- The handler for errors, if it is one of the application, is called next, and no other call
  is left. -/
  calls : ∃ rest, (∀ v ∈ rest, v.isInner = true) ∧
    r.2 = errorCalls e.conn.errorHandler err ++ rest
  /-- The graceful close gets the error if it is in charge of errors. -/
  quit : r.1.quitFaults = e.quitFaults + quitShare e.conn.errorHandler
  /-- Nobody waits for a reply over the socket. -/
  slot : r.1.conn.phase.slot? = none
  /-- Nothing goes over the wire. -/
  written : r.1.written = e.written

/-- An error is only remarked. -/
structure Passes (e : Endpoint H) (r : Reaction H) : Prop where
  /-- Nobody is called. -/
  calls : ∀ v ∈ r.2, v.isInner = true
  /-- The graceful close does not get the error. -/
  quit : r.1.quitFaults = e.quitFaults
  /-- The connection is used as before. -/
  state : r.1.conn.state = e.conn.state
  /-- Nothing goes over the wire. -/
  written : r.1.written = e.written

/-! ### Errors that are handed on -/

theorem quitFaults_emit_of_not {event : Event} (h : event.isQuitFault = false) :
    (e.emit event).quitFaults = e.quitFaults := by
  rw [quitFaults, trace_emit, List.countP_append, List.countP_singleton, h]
  rfl

theorem quitFaults_release (e : Endpoint H) (phase : Phase H) :
    (e.release phase).quitFaults = e.quitFaults := by
  obtain ⟨new, trace, closing⟩ := trace_release e phase
  have none : new.countP Event.isQuitFault = 0 := List.countP_eq_zero.mpr fun event mem => by
    simp [Event.isQuitFault_of_isClosing (closing event mem)]
  rw [quitFaults, trace, List.countP_append, none]
  rfl

theorem quitFaults_setBroken (e : Endpoint H) : e.setBroken.quitFaults = e.quitFaults := by
  unfold setBroken
  split
  · exact quitFaults_emit_of_not rfl
  · rw [operationEnded, quitFaults_emit_of_not rfl, quitFaults_release]
    exact quitFaults_emit_of_not rfl

theorem quitFaults_deliverError (e : Endpoint H) (err : Error) :
    (e.deliverError err).1.quitFaults = e.quitFaults + quitShare e.conn.errorHandler := by
  unfold deliverError
  split
  · next h => rw [h]; rfl
  · next h =>
    rw [h]
    refine (quitFaults_release _ _).trans ?_
    exact List.countP_append
  · next h =>
    rw [h]
    exact quitFaults_emit_of_not rfl

theorem slot?_deliverError (empty : e.conn.phase.slot? = none) (err : Error) :
    (e.deliverError err).1.conn.phase.slot? = none := by
  unfold deliverError
  split
  · exact empty
  · show (shutdown _).conn.phase.slot? = none
    rw [phase_shutdown]
    split <;> rfl
  · exact empty

/-- With nobody waiting, an error that is handed on leaves nothing behind. -/
theorem handsOn_deliverError (empty : e.conn.phase.slot? = none) (err : Error) :
    e.HandsOn err (e.deliverError err) where
  calls := ⟨[], by simp, by rw [work_deliverError, List.append_nil]⟩
  quit := quitFaults_deliverError e err
  slot := slot?_deliverError empty err
  written := (within_deliverError (s := {}) e err).touches.written_eq rfl

namespace HandsOn

/-- What was done before the error was handed on makes no difference. -/
theorem of_same (h : e'.HandsOn err r) (errorHandler : e'.conn.errorHandler = e.conn.errorHandler)
    (quit : e'.quitFaults = e.quitFaults) (written : e'.written = e.written) :
    e.HandsOn err r where
  calls := errorHandler ▸ h.calls
  quit := by rw [h.quit, quit, errorHandler]
  slot := h.slot
  written := h.written.trans written

theorem append (h : e.HandsOn err r) {more : List (Work H)} (inner : ∀ v ∈ more, v.isInner = true) :
    e.HandsOn err (r.1, r.2 ++ more) where
  calls := by
    obtain ⟨rest, innerRest, calls⟩ := h.calls
    refine ⟨rest ++ more, fun v mem => (List.mem_append.mp mem).elim (innerRest v) (inner v), ?_⟩
    rw [calls, List.append_assoc]
  quit := h.quit
  slot := h.slot
  written := h.written

end HandsOn

/-! ### Refused commands -/

theorem written_posted (e : Endpoint H) (handler : ReplyHandler H) (r : Remark) :
    ((e.setSlot (some handler)).remark r).written = e.written :=
  (touches_remark (s := {}) (e.setSlot (some handler)) r).written_eq rfl

namespace Refusal

variable {mask : Option Nat} {handler : ReplyHandler H} {found : Endpoint H}

theorem state_found (h : e.Refusal text mask handler found err) :
    found.conn.state = e.conn.state := by
  rw [h.conn_eq]
  exact Phase.state_setSlot _ _

theorem quitFaults_found (h : e.Refusal text mask handler found err) :
    found.quitFaults = e.quitFaults := by
  obtain ⟨id, held, sent⟩ := h.refused
  have posted : ((e.setSlot (some handler)).remark (.command (redact text mask))).quitFaults =
      e.quitFaults := quitFaults_emit_of_not rfl
  rw [← posted]
  unfold sendBytes at sent
  split at sent
  · rw [(Prod.mk.inj sent).1]
  · split at sent
    · exact absurd (Prod.mk.inj sent).2 (by simp)
    · rw [← (Prod.mk.inj sent).1]
      exact quitFaults_emit_of_not rfl

theorem written_found (h : e.Refusal text mask handler found err) :
    found.written = e.written := by
  obtain ⟨id, held, sent⟩ := h.refused
  rw [written_sendBytes sent, written_posted]
  exact List.append_nil _

end Refusal

theorem refusal?_of_same (peer : e'.conn.peerClosed = e.conn.peerClosed)
    (transport : e'.conn.phase.transport? = e.conn.phase.transport?)
    (transports : e'.transports = e.transports) (text : String) :
    e'.refusal? text = e.refusal? text := by
  rw [refusal?, refusal?, peer, transport, transports]

/-- The transport that is held takes a command, or does not, as is foreseen. -/
theorem snd_sendBytes {id : TransportId} (peer : e.conn.peerClosed = false)
    (held : e.conn.phase.transport? = some id) (text : String) :
    (e.sendBytes id (lineBytes text)).2 =
      match e.refusal? text with
      | none => .ok ()
      | some err => .error err := by
  rw [refusal?, if_neg (by simp [peer]), held, Option.bind_some]
  unfold sendBytes
  cases ht : e.transports[id]? with
  | none => rfl
  | some t =>
    dsimp only
    cases t.write (lineBytes text) <;> rfl

/-- The handler is in the slot already when the transport is asked. -/
theorem snd_sendBytes_posted {id : TransportId} (peer : e.conn.peerClosed = false)
    (held : e.conn.phase.transport? = some id) (text : String) (handler : ReplyHandler H)
    (r : Remark) : (((e.setSlot (some handler)).remark r).sendBytes id (lineBytes text)).2 =
      match e.refusal? text with
      | none => .ok ()
      | some err => .error err := by
  obtain ⟨held', -⟩ := accepts_posted held handler r text
  have same : ((e.setSlot (some handler)).remark r).refusal? text = e.refusal? text := by
    apply refusal?_of_same
    · rfl
    · exact held'.trans held.symm
    · rfl
  rw [← same]
  exact snd_sendBytes (e := (e.setSlot (some handler)).remark r) peer held' text

/-- A line that the transport would not take is refused. -/
theorem refusal_of_held {id : TransportId} (peer : e.conn.peerClosed = false)
    (held : e.conn.phase.transport? = some id) (refused : e.refusal? text = some err)
    (mask : Option Nat) (handler : ReplyHandler H) :
    ∃ found, e.Refusal text mask handler found err := by
  have outcome := snd_sendBytes_posted peer held text handler (.command (redact text mask))
  rw [refused] at outcome
  exact ⟨_, peer, id, held, Prod.ext rfl outcome⟩

/-- Without a socket a command is not tried: the error is handed on. -/
theorem writeWith_of_gone (gone : e.conn.phase.transport? = none)
    (refused : e.refusal? text = some err) (mask : Option Nat) (handler : ReplyHandler H) :
    ∃ r : Remark, (Event.remark r).isQuitFault = false ∧
      e.writeWith text mask handler = ((e.remark r).deliverError err, false) := by
  unfold refusal? at refused
  unfold writeWith
  split at refused
  · next peer =>
    obtain rfl := Option.some.inj refused
    exact ⟨.peerGone, rfl, if_pos peer⟩
  · next peer =>
    rw [gone] at refused ⊢
    obtain rfl := Option.some.inj refused
    exact ⟨.socketGone, rfl, if_neg peer⟩

/-- **A refused command leaves no trace but its error**, unless the connection is idle. -/
theorem handsOn_writeWith (sound : e.Sound) (notIdle : e.conn.isIdle = false)
    (refused : e.refusal? text = some err) (mask : Option Nat) (handler : ReplyHandler H) :
    ∃ r, e.writeWith text mask handler = (r, false) ∧ e.HandsOn err r := by
  cases held : e.conn.phase.transport? with
  | none =>
    have empty : e.conn.phase.slot? = none := by
      cases hp : e.conn.phase <;> simp_all [Phase.transport?, Phase.slot?]
    obtain ⟨r, other, wrote⟩ := writeWith_of_gone held refused mask handler
    have handed : (e.remark r).HandsOn err ((e.remark r).deliverError err) :=
      handsOn_deliverError (e := e.remark r) empty err
    exact ⟨_, wrote, handed.of_same rfl (quitFaults_emit_of_not other)
      ((touches_remark (s := {}) e r).written_eq rfl)⟩
  | some id =>
    have live := isLive_of_held held
    have peer := sound.peer live
    obtain ⟨found, refusal⟩ := refusal_of_held peer held refused mask handler
    have inFlight : found.conn.state.isInFlight = true := by
      rw [refusal.state_found]
      exact isInFlight_of_live live notIdle
    -- the fault breaks the connection, so that the slot is gone before the error is handed on
    have empty : (found.setBroken.remark .fault).conn.phase.slot? = none := by
      apply slot?_of_terminal
      show found.setBroken.conn.state.isTerminal = true
      rw [state_setBroken_of_inFlight inFlight]
      rfl
    refine ⟨_, refusal.writeWith_eq, ?_⟩
    rw [fault_of_inFlight (by rw [refusal.conn_eq]; exact peer) inFlight]
    refine (handsOn_deliverError empty err).of_same ?_ ?_ ?_
    · rw [conn_remark, errorHandler_setBroken, refusal.conn_eq]
      rfl
    · rw [remark, quitFaults_emit_of_not rfl, quitFaults_setBroken, refusal.quitFaults_found]
    · have broken := (touches_setBroken (s := {}) found).trans (touches_remark (s := {}) _ .fault)
      rw [broken.written_eq rfl, refusal.written_found]

/-- An idle connection only remarks that a command was refused. -/
theorem passes_writeWith (sound : e.Sound) (idle : e.conn.isIdle = true)
    (refused : e.refusal? text = some err) (mask : Option Nat) (handler : ReplyHandler H) :
    ∃ r, e.writeWith text mask handler = (r, false) ∧ e.Passes r := by
  have live : e.conn.isLive = true := by
    rw [Connection.isIdle, beq_iff_eq] at idle
    rw [Connection.isLive, idle]
    rfl
  obtain ⟨id, held⟩ := isLive_iff.mp live
  obtain ⟨found, refusal⟩ := refusal_of_held (sound.peer live) held refused mask handler
  refine ⟨_, refusal.writeWith_eq, ?_⟩
  rw [fault_of_not_inFlight (by rw [refusal.state_found]; exact not_inFlight_of_idle idle)]
  refine ⟨by simp, ?_, refusal.state_found, ?_⟩
  · exact (quitFaults_emit_of_not rfl).trans refusal.quitFaults_found
  · exact ((touches_remark (s := {}) found _).written_eq rfl).trans refusal.written_found

/-- A command that is not refused goes over the wire. -/
theorem written_writeWith (taken : e.refusal? text = none) (mask : Option Nat)
    (handler : ReplyHandler H) :
    (e.writeWith text mask handler).1.1.written = e.written ++ [lineBytes text] := by
  have none := taken
  unfold refusal? at taken
  split at taken
  · exact absurd taken (by simp)
  · next peer =>
    cases held : e.conn.phase.transport? with
    | none => exact absurd taken (by simp [held])
    | some id =>
      have outcome := snd_sendBytes_posted (by simpa using peer) held text handler
        (.command (redact text mask))
      rw [none] at outcome
      rw [writeWith, if_neg peer, held]
      dsimp only
      split
      · next e' sent =>
        show e'.written = _
        rw [written_sendBytes sent, written_posted]
        rfl
      · next e' err sent =>
        rw [sent] at outcome
        exact absurd outcome (by simp)

/-! ### Operations -/

/-- A command is written by itself or as a group, whose size is set before and may be set back
after. -/
theorem perform_command {operation : Operation H} (command : operation.command? = some text) :
    ∃ (assembler : Assembler) (mask : Option Nat) (handler : ReplyHandler H) (rest : List (Work H)),
      (∀ v ∈ rest, v.isInner = true) ∧ ∃ r taken,
        writeWith { e with conn := { e.conn with assembler } } text mask handler = (r, taken) ∧
        e.perform operation = (r.1, r.2 ++ rest) := by
  cases operation with
  | write text' mask handler =>
    obtain rfl : text' = text := Option.some.inj command
    exact ⟨e.conn.assembler, mask, .reply handler, [], by simp, _, _, rfl,
      Prod.ext rfl (List.append_nil _).symm⟩
  | writeCommands commands handler =>
    cases ne : commands.isEmpty with
    | true => exact absurd command (by simp [Operation.command?, ne])
    | false =>
      obtain rfl : "\r\n".intercalate commands = text := by
        simpa [Operation.command?, ne] using command
      cases wrote : (e.expect commands.length).writeWith ("\r\n".intercalate commands) none
          (.replies handler commands.length) with
      | mk r taken =>
        have sized : e.writeCommands commands handler =
            (r.1, r.2 ++ if taken then [] else [.expectOne]) := by
          unfold writeCommands
          rw [if_neg (by simp [ne])]
          dsimp only
          rw [wrote]
          cases taken with
          | true => exact Prod.ext rfl (List.append_nil _).symm
          | false => rfl
        refine ⟨_, none, _, _, fun v mem => ?_, r, taken, wrote, sized⟩
        cases taken with
        | true => exact absurd mem List.not_mem_nil
        | false =>
          obtain rfl := List.mem_singleton.mp mem
          rfl
  | _ => exact absurd command (by simp [Operation.command?])

theorem handsOn_perform (sound : e.Sound) (notIdle : e.conn.isIdle = false)
    {operation : Operation H} (command : operation.command? = some text)
    (refused : e.refusal? text = some err) : e.HandsOn err (e.perform operation) := by
  obtain ⟨assembler, mask, handler, rest, inner, r, taken, wrote, performed⟩ :=
    perform_command (e := e) command
  obtain ⟨r', refusal, handed⟩ := handsOn_writeWith
    (e := { e with conn := { e.conn with assembler } }) (sound.of_same rfl rfl rfl) notIdle refused
    mask handler
  obtain ⟨rfl, -⟩ := Prod.mk.inj (wrote.symm.trans refusal)
  have here : e.HandsOn err r := handed.of_same rfl rfl rfl
  rw [performed]
  exact here.append inner

theorem passes_perform (sound : e.Sound) (idle : e.conn.isIdle = true)
    {operation : Operation H} (command : operation.command? = some text)
    (refused : e.refusal? text = some err) : e.Passes (e.perform operation) := by
  obtain ⟨assembler, mask, handler, rest, inner, r, taken, wrote, performed⟩ :=
    perform_command (e := e) command
  obtain ⟨r', refusal, passes⟩ := passes_writeWith
    (e := { e with conn := { e.conn with assembler } }) (sound.of_same rfl rfl rfl) idle refused
    mask handler
  obtain ⟨rfl, -⟩ := Prod.mk.inj (wrote.symm.trans refusal)
  rw [performed]
  exact ⟨fun v mem => (List.mem_append.mp mem).elim (passes.calls v) (inner v), passes.quit,
    passes.state, passes.written⟩

theorem written_perform {operation : Operation H} (command : operation.command? = some text)
    (taken : e.refusal? text = none) :
    (e.perform operation).1.written = e.written ++ [lineBytes text] := by
  obtain ⟨assembler, mask, handler, rest, inner, r, took, wrote, performed⟩ :=
    perform_command (e := e) command
  have written := written_writeWith (e := { e with conn := { e.conn with assembler } }) taken mask
    handler
  rw [wrote] at written
  rw [performed]
  exact written

end Endpoint

namespace Machine

variable {m n : Machine H} {labels : List (Label H)}

/-- **A refused command leaves no trace but its error.**  A command either goes over the wire or is
refused.  Unless the connection is idle, the error is handed on exactly once, nobody waits for a
reply over the socket any more, and who is called with replies afterwards has asked for them
afterwards, but for the greeting of a socket that is still to come.  On an idle connection the
refusal is only remarked. -/
theorem refused_command_handed_on (run : Run Operation.Any initial labels m)
    {operation : Operation H} (move : Move Operation.Any m (.operate operation) n) {text : String}
    (command : operation.command? = some text) :
    (m.endpoint.refusal? text = none →
      n.endpoint.written = m.endpoint.written ++ [Endpoint.lineBytes text]) ∧
    ∀ err, m.endpoint.refusal? text = some err →
      (m.endpoint.conn.isIdle = false →
        m.endpoint.HandsOn err (m.endpoint.perform operation) ∧ n.Clean) ∧
      (m.endpoint.conn.isIdle = true → m.endpoint.Passes (m.endpoint.perform operation)) := by
  have tidy := tidy_of_run run
  have sound := sound_of_run run
  have done : n.endpoint = (m.endpoint.perform operation).1 := by
    cases move with
    | operate => rfl
  refine ⟨fun taken => ?_, fun err refused => ⟨fun notIdle => ?_, fun idle => ?_⟩⟩
  · rw [done]
    exact Endpoint.written_perform command taken
  · have handed := Endpoint.handsOn_perform sound notIdle command refused
    have empty : n.endpoint.conn.phase.slot? = none := by rw [done, handed.slot]
    exact ⟨handed, clean_of_operate tidy move empty⟩
  · exact Endpoint.passes_perform sound idle command refused

/-- The greeting has come over a transport that takes no lines. -/
def mute : List (Choice Nat) :=
  [.operate (.dial (Config.build "mail" []) 0 1),
    .operate (.connected (.manual { failWrites := some .notConnected })),
    .operate (.input [50, 50, 48, 32, 104, 105, 13, 10]), .proceed, .proceed, .leave, .proceed]

/-- A command that is refused in use is told to the handler for errors. -/
theorem mute_command_handed_on :
    (initial.play mute).2.endpoint.HandsOn .notConnected
      ((initial.play mute).2.endpoint.perform (.write "NOOP" none 2)) ∧
    ((initial.play mute).2.performed (.write "NOOP" none 2)).Clean := by
  have move : Move Operation.Any (initial.play mute).2 (.operate (.write "NOOP" none 2))
      ((initial.play mute).2.performed (.write "NOOP" none 2)) := .operate trivial
  exact ((refused_command_handed_on (run_play initial mute) move rfl).2 .notConnected
    (by decide)).1 (by decide)

/-- **A command that is refused while the connection is idle is told to nobody**, and its handler
is called with a reply that comes later. -/
theorem mute_command_unheard : ∃ (labels labels' : List (Label Nat)) (m n o : Machine Nat),
    Run Operation.Any initial labels m ∧ m.endpoint.conn.isIdle = true ∧
      m.endpoint.conn.errorHandler = some (.app 1) ∧
      m.endpoint.refusal? "NOOP" = some .notConnected ∧
      Move Operation.Any m (.operate (.write "NOOP" none 2)) n ∧ n.Settled ∧
      Run Operation.Any n labels' o ∧ askers labels' = [] ∧
      labels'.any Label.isReplyCall = true :=
  ⟨_, _, _, _, _, run_play initial (mute ++ [.operate .setIdle]), by decide, rfl, by decide,
    .operate trivial, by decide,
    run_play _ [.operate (.input [50, 53, 48, 32, 120, 13, 10]), .proceed, .proceed],
    by decide, by decide⟩

end Machine

end SmtpLink
