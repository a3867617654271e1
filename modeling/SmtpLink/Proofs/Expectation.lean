import SmtpLink.Proofs.Keep
import SmtpLink.Proofs.Play

/-!
# The size of a batch and the slot

The assembler hands out replies in batches.  As long as a handler waits, a batch is to be as
large as the handler asks for: one reply for a single command, one for each command of a group.
With nobody waiting, replies are dropped one by one.

The size of a batch is set when a group is written, when it has been answered, and when it could
not be written.  It is not set when a single command, QUIT among them, takes the slot of a group
that is not answered yet, nor when the connection is given back meanwhile; and a group that was
refused sets it back late, perhaps under the feet of another group.  These are the only ways to
lose the agreement.

## Main definitions

* `Endpoint.Agrees` — the size of a batch is what the slot asks for.
* `Endpoint.Forgets` — a piece of work that does not set the size of a batch where it should.

## Main results

* `Endpoint.agrees_resume_iff` — **work keeps the agreement exactly if it does not forget.**
* `Machine.expected_matches_slot` — so the agreement holds in every run that forgets nothing,
  and is lost with the first move that forgets.
-/

namespace SmtpLink

variable {H : Type}

/-- How many replies a handler is called with. -/
def ReplyHandler.count : ReplyHandler H → Nat
  | .replies _ count => count
  | _ => 1

namespace Endpoint

variable {e e' e'' : Endpoint H} {w : Work H}

/-- How many replies the slot asks for. -/
def wanted (e : Endpoint H) : Nat :=
  match e.conn.phase.slot? with
  | some handler => handler.count
  | none => 1

/-- The size of a batch is what the slot asks for, as long as the connection holds a socket. -/
def Agrees (e : Endpoint H) : Prop :=
  e.conn.isLive = true → e.conn.assembler.expected = e.wanted

/-- A piece of work does not set the size of a batch where it should. -/
inductive Forgets (e : Endpoint H) : Work H → Prop
  /-- A single command takes the slot of a group. -/
  | write {text : String} {mask : Option Nat} {handler : H} (live : e.conn.isLive = true)
      (group : e.wanted ≠ 1) (stays : e.conn.isIdle = true ∨ e.accepts text = true) :
      Forgets e (.perform (.write text mask handler))
  /-- The connection is given back while a group waits. -/
  | returnToPool (live : e.conn.isLive = true) (group : e.wanted ≠ 1)
      (notIdle : e.conn.isIdle = false) (notRequested : e.conn.shutdownRequested = false) :
      Forgets e (.perform .returnToPool)
  /-- QUIT takes the slot of a group. -/
  | quit {rest : List (Task H)} (oldest : e.conn.scheduled = .close :: rest)
      (live : e.conn.isLive = true) (group : e.wanted ≠ 1) (taken : e.accepts "QUIT" = true) :
      Forgets e .runTasks
  /-- A group that was refused sets the size back while a group waits. -/
  | expectOne (live : e.conn.isLive = true) (group : e.wanted ≠ 1) : Forgets e .expectOne

/-! ### What keeps the agreement -/

theorem wanted_of_slot? (h : e'.conn.phase.slot? = e.conn.phase.slot?) : e'.wanted = e.wanted := by
  rw [wanted, wanted, h]

theorem Keeps.agrees (keeps : Keeps e e') (agrees : e.Agrees) : e'.Agrees := by
  intro live
  obtain ⟨live, assembler, slot⟩ := keeps live
  rw [assembler, wanted_of_slot? slot]
  exact agrees live

theorem agrees_of_gone (gone : e.conn.isLive = false) : e.Agrees := by
  intro live
  rw [gone] at live
  exact absurd live (by simp)

/-! ### Commands -/

/-- A command that asks for `n` replies restores the agreement if batches have that size, or if
no connection is left. -/
theorem agrees_writeWith_iff (sound : e.Sound) (text : String) (mask : Option Nat)
    (handler : ReplyHandler H) : (e.writeWith text mask handler).1.1.Agrees ↔
      (e.conn.isLive = true → e.conn.isIdle = true ∨ e.accepts text = true →
        e.conn.assembler.expected = handler.count) := by
  by_cases stays : e.conn.isLive = true ∧ (e.conn.isIdle = true ∨ e.accepts text = true)
  · obtain ⟨live, stays⟩ := stays
    have conn := conn_writeWith sound live stays mask handler
    have wanted : (e.writeWith text mask handler).1.1.wanted = handler.count := by
      rw [Endpoint.wanted, conn, slot?_setSlot_of_live live]
    rw [Agrees, conn, isLive_setSlot, wanted]
    exact ⟨fun h live _ => h live, fun h live => h live stays⟩
  · rw [not_and] at stays
    refine iff_of_true (agrees_of_gone (isLive_writeWith sound (fun live => ?_) mask handler))
      fun live h => absurd h (stays live)
    simpa using stays live

theorem agrees_write_iff (sound : e.Sound) (agrees : e.Agrees) (text : String)
    (mask : Option Nat) (handler : H) : (e.write text mask handler).1.Agrees ↔
      ¬ e.Forgets (.perform (.write text mask handler)) := by
  refine (agrees_writeWith_iff sound text mask (.reply handler)).trans ⟨?_, ?_⟩
  · intro one h
    cases h with
    | write live group stays => exact group ((agrees live).symm.trans (one live stays))
  · intro notForgets live stays
    by_cases one : e.wanted = 1
    · exact (agrees live).trans one
    · exact absurd (.write live one stays) notForgets

/-- A group of commands always restores the agreement. -/
theorem agrees_writeCommands (sound : e.Sound) (agrees : e.Agrees) (commands : List String)
    (handler : H) : (e.writeCommands commands handler).1.Agrees := by
  cases ne : commands.isEmpty with
  | true =>
    unfold writeCommands
    rw [if_pos ne]
    exact (effects_deliverError e _).keeps_of_quiet.agrees agrees
  | false =>
    have expecting : (e.expect commands.length).Sound := sound.of_same rfl rfl rfl
    rw [fst_writeCommands ne, agrees_writeWith_iff expecting]
    intro _ _
    show max commands.length 1 = commands.length
    rw [← Bool.not_eq_true, List.isEmpty_iff, ← List.length_eq_zero_iff] at ne
    omega

/-! ### Replies, returns and QUIT -/

theorem agrees_deliverReplies (agrees : e.Agrees) (batch : List Reply) :
    (e.deliverReplies batch).1.Agrees := by
  -- a single reply was waited for, so batches have the size that an empty slot asks for
  have emptied {handler : ReplyHandler H} (h : e.conn.phase.slot? = some handler)
      (one : handler.count = 1) {d : Endpoint H} (conn : d.conn = (e.setSlot none).conn) :
      d.Agrees := by
    intro live
    rw [conn, isLive_setSlot] at live
    rw [wanted, conn, slot?_setSlot_of_live live]
    show e.conn.assembler.expected = 1
    rw [agrees live, wanted, h]
    exact one
  unfold deliverReplies
  dsimp only
  split
  · exact (effects_remark (e := e) rfl).keeps_of_quiet.agrees agrees
  · intro live
    have live' : (e.setSlot none).conn.isLive = true := live
    rw [isLive_setSlot] at live'
    show 1 = (e.setSlot none).wanted
    rw [wanted, slot?_setSlot_of_live live']
  · next h => split <;> exact emptied h rfl rfl
  · next h => split <;> exact emptied h rfl rfl
  · next h =>
    split
    · exact emptied h rfl rfl
    · exact agrees_of_gone (isLive_shutdown _)

theorem agrees_dispatch (agrees : e.Agrees) : e.dispatch.1.Agrees := by
  have polled : Agrees { e with conn := { e.conn with assembler := e.conn.assembler.poll.1 } } :=
    fun live => (Assembler.expected_poll _).trans (agrees live)
  unfold dispatch
  dsimp only
  split
  · exact polled
  · exact (keeps_fault _ _).agrees polled
  · exact agrees_deliverReplies polled _

theorem agrees_input (agrees : e.Agrees) (data : Bytes) : (e.input data).1.Agrees := by
  unfold input
  split
  · exact fun live => agrees live
  · exact (Keeps.of_conn (e := e) rfl).agrees agrees

theorem agrees_upgraded (agrees : e.Agrees) (result : Outcome) :
    (e.upgraded result).1.Agrees := by
  have dropped : (if result.isOk then e.dropInput else e).Agrees := by
    split
    · exact fun live => agrees live
    · exact agrees
  unfold upgraded
  dsimp only
  split
  · exact fun live => dropped live
  · exact fun live => dropped live

theorem agrees_connected (agrees : e.Agrees) (t : Transport) : (e.connected t).Agrees := by
  cases hp : e.conn.phase with
  | connecting greeting =>
    rw [connected_of_connecting t hp]
    intro _
    rfl
  | _ =>
    have conn := conn_connected_of_not_connecting (e := e) t
      (by simp [Connection.state, hp, Phase.state])
    exact (Keeps.of_conn conn).agrees agrees

theorem agrees_returnToPool_iff (agrees : e.Agrees) :
    e.returnToPool.1.Agrees ↔ ¬ e.Forgets (.perform .returnToPool) := by
  unfold returnToPool
  split
  · next idle =>
    have quiet (err : Error) : Effects false e ((e.remark .idleReturned).deliverError err).1 :=
      (effects_remark rfl).append (effects_deliverError _ _)
    refine iff_of_true ((quiet _).keeps_of_quiet.agrees agrees) ?_
    intro h
    cases h with
    | returnToPool live group notIdle => exact absurd idle (by simp [notIdle])
  · next notIdle =>
    split
    · next requested =>
      have quiet : Effects false e (e.remark .shutdownOnReturn).close :=
        (effects_remark rfl).append (effects_close _)
      refine iff_of_true (quiet.keeps_of_quiet.agrees agrees) ?_
      intro h
      cases h with
      | returnToPool live group notIdle notRequested =>
        exact absurd requested (by simp [notRequested])
    · next notRequested =>
      show ((e.remark .returned).giveBack).Agrees ↔ _
      have one : (e.remark .returned).giveBack.Agrees ↔
          (e.conn.isLive = true → e.conn.assembler.expected = 1) := by
        have live : (e.remark .returned).giveBack.conn.isLive = e.conn.isLive :=
          isLive_setSlot e none
        rw [Agrees, live]
        refine forall_congr' fun live => ?_
        show e.conn.assembler.expected = (e.setSlot none).wanted ↔ _
        rw [wanted, slot?_setSlot_of_live live]
      rw [one]
      constructor
      · intro one h
        cases h with
        | returnToPool live group => exact group ((agrees live).symm.trans (one live))
      · intro notForgets live
        by_cases one : e.wanted = 1
        · exact (agrees live).trans one
        · have forgets : e.Forgets (.perform .returnToPool) :=
            .returnToPool live one (by simpa using notIdle) (by simpa using notRequested)
          exact absurd forgets notForgets

theorem agrees_expectOne_iff (e : Endpoint H) :
    (e.expect 1).Agrees ↔ ¬ e.Forgets .expectOne := by
  have one : (e.expect 1).Agrees ↔ (e.conn.isLive = true → 1 = e.wanted) := Iff.rfl
  rw [one]
  constructor
  · intro one h
    cases h with
    | expectOne live group => exact group (one live).symm
  · intro notForgets live
    by_cases one : e.wanted = 1
    · exact one.symm
    · exact absurd (.expectOne live one) notForgets

/-- The graceful close keeps the agreement if no group waits when QUIT is taken. -/
theorem agrees_runClose_iff (sound : e.Sound) (agrees : e.Agrees) : e.runClose.1.Agrees ↔
    (e.conn.isLive = true → e.accepts "QUIT" = true → e.wanted = 1) := by
  unfold runClose
  split
  · next terminal =>
    refine iff_of_true ((effects_remark (e := e) rfl).keeps_of_quiet.agrees agrees) fun live _ => ?_
    rw [not_live_of_terminal terminal] at live
    exact absurd live (by simp)
  · dsimp only
    split
    · next gone =>
      refine iff_of_true (agrees_of_gone (isLive_shutdown _)) fun live _ => ?_
      have : (!e.conn.isLive) = true := by simpa [sound.peer live] using gone
      simp [live] at this
    · next h =>
      simp only [Bool.or_eq_true, Bool.not_eq_true', not_or, Bool.not_eq_true,
        Bool.not_eq_false] at h
      obtain ⟨peer, live⟩ : e.conn.peerClosed = false ∧ e.conn.isLive = true := h
      have began : Effect false (e.remark .shuttingDown) (e.remark .shuttingDown).beginQuit :=
        .beginQuit peer live
      have sound' : (e.remark .shuttingDown).beginQuit.Sound :=
        began.sound (e := e.remark .shuttingDown) (sound.of_same rfl rfl rfl)
      have transport := Phase.transport?_relabel e.conn.phase .shuttingDown
      have live' : (e.remark .shuttingDown).beginQuit.conn.isLive = true := by
        obtain ⟨id, held⟩ := isLive_iff.mp live
        exact isLive_of_held (transport.trans held)
      have notIdle : (e.remark .shuttingDown).beginQuit.conn.isIdle = false := by
        show ((e.conn.phase.relabel .shuttingDown).state == .idle) = false
        rw [Connection.isLive, Connection.state] at live
        cases hp : e.conn.phase <;> simp_all [Phase.relabel, Phase.state, ConnectionState.isLive]
      have accepts : (e.remark .shuttingDown).beginQuit.accepts "QUIT" = e.accepts "QUIT" := by
        refine accepts_of_same ?_ ?_ "QUIT"
        · exact transport
        · rfl
      show ((e.remark .shuttingDown).beginQuit.writeWith "QUIT" none .quit).1.1.Agrees ↔ _
      rw [agrees_writeWith_iff sound', notIdle, accepts]
      constructor
      · intro one live taken
        rw [← agrees live]
        exact one live' (.inr taken)
      · intro one _ taken
        exact (agrees live).trans (one live (taken.resolve_left (by simp)))

theorem agrees_runTasks_iff (sound : e.Sound) (agrees : e.Agrees) :
    e.runTasks.1.Agrees ↔ ¬ e.Forgets .runTasks := by
  unfold runTasks
  split
  · next none =>
    refine iff_of_true agrees ?_
    intro h
    cases h with
    | quit oldest => exact absurd (none.symm.trans oldest) (by simp)
  · next task rest oldest =>
    dsimp only
    split
    · refine iff_of_true agrees ?_
      intro h
      cases h with
      | quit oldest' => exact absurd (oldest.symm.trans oldest') (by simp)
    · -- the task that was taken out makes no difference to what is asked of the connection
      rw [agrees_runClose_iff (e := { e with conn := { e.conn with scheduled := rest } })
        (sound.of_same rfl rfl rfl) agrees]
      constructor
      · intro one h
        cases h with
        | quit _ live group taken => exact group (one live taken)
      · intro notForgets live taken
        by_cases one : e.wanted = 1
        · exact one
        · exact absurd (.quit oldest live one taken) notForgets

theorem agrees_perform_iff (sound : e.Sound) (agrees : e.Agrees) (operation : Operation H) :
    (e.perform operation).1.Agrees ↔ ¬ e.Forgets (.perform operation) := by
  cases operation with
  | dial config greeting onError =>
    exact iff_of_true (agrees_of_gone rfl) fun h => by cases h
  | connected t => exact iff_of_true (agrees_connected agrees t) fun h => by cases h
  | input data => exact iff_of_true (agrees_input agrees data) fun h => by cases h
  | upgraded result => exact iff_of_true (agrees_upgraded agrees result) fun h => by cases h
  | fault err => exact iff_of_true ((keeps_fault e err).agrees agrees) fun h => by cases h
  | closed => exact iff_of_true ((keeps_closed e).agrees agrees) fun h => by cases h
  | write text mask handler => exact agrees_write_iff sound agrees text mask handler
  | writeCommands commands handler =>
    exact iff_of_true (agrees_writeCommands sound agrees commands handler) fun h => by cases h
  | returnToPool => exact agrees_returnToPool_iff agrees
  | _ =>
    exact iff_of_true ((effects_perform_of_quiet e rfl).keeps_of_quiet.agrees agrees)
      fun h => by cases h

/-- **Work keeps the agreement exactly if it does not forget.** -/
theorem agrees_resume_iff (sound : e.Sound) (agrees : e.Agrees) (w : Work H) :
    (e.resume w).1.Agrees ↔ ¬ e.Forgets w := by
  cases w with
  | call handler notice => exact iff_of_true agrees fun h => by cases h
  | perform operation => exact agrees_perform_iff sound agrees operation
  | dispatch => exact iff_of_true (agrees_dispatch agrees) fun h => by cases h
  | sendDeferred deferred =>
    exact iff_of_true ((effects_writeLine e deferred.line).keeps_of_quiet.agrees agrees)
      fun h => by cases h
  | expectOne => exact agrees_expectOne_iff e
  | runTasks => exact agrees_runTasks_iff sound agrees

end Endpoint

/-! ### Runs -/

namespace Machine

variable {m n : Machine H} {label : Label H} {labels : List (Label H)}

/-- The work of the move with this label does not set the size of a batch where it should. -/
def Forgets (m : Machine H) (label : Label H) : Prop :=
  ∃ w frames, Due m label w frames ∧ m.endpoint.Forgets w

/-- Of the operations only single commands and returns forget. -/
theorem Forgets.operation {operation : Operation H} (h : m.Forgets (.operate operation)) :
    (∃ text mask handler, operation = .write text mask handler) ∨ operation = .returnToPool := by
  obtain ⟨w, frames, due, forgets⟩ := h
  cases due
  cases forgets with
  | write live group stays => exact .inl ⟨_, _, _, rfl⟩
  | returnToPool => exact .inr rfl

/-- A move keeps the agreement exactly if it does not forget. -/
theorem agrees_move_iff (sound : m.endpoint.Sound) (agrees : m.endpoint.Agrees)
    {admitted : Operation H → Prop} (move : Move admitted m label n) :
    n.endpoint.Agrees ↔ ¬ m.Forgets label :=
  move.keeps_iff (Endpoint.agrees_resume_iff sound agrees)
    fun conn => (Endpoint.Keeps.of_conn conn).agrees agrees

/-- In a run that forgets nothing the agreement holds all the time. -/
theorem agrees_of_runBy (run : RunBy (fun _ k label => ¬ k.Forgets label) initial labels m) :
    m.endpoint.Agrees := by
  induction run with
  | nil => exact Endpoint.agrees_of_gone rfl
  | snoc run move keeps ih => exact (agrees_move_iff (sound_of_run run.run) ih move).mpr keeps

/-- **The size of a batch is what the slot asks for** in every run that forgets nothing, and the
first move that forgets loses the agreement. -/
theorem expected_matches_slot
    (run : RunBy (fun _ k label => ¬ k.Forgets label) initial labels m) :
    m.endpoint.Agrees ∧ ∀ label n, Move Operation.Any m label n →
      (n.endpoint.Agrees ↔ ¬ m.Forgets label) :=
  ⟨agrees_of_runBy run, fun _ _ move =>
    agrees_move_iff (sound_of_run run.run) (agrees_of_runBy run) move⟩

/-- A group of two commands is written. -/
def groupWritten : List (Choice Nat) :=
  [.operate (.dial (Config.build "mail" []) 0 1), .operate (.connected (.manual {})),
    .operate (.writeCommands ["RSET", "NOOP"] 2)]

/-- The agreement holds while the group waits, and is lost when a single command takes its
slot. -/
theorem group_loses_slot :
    (initial.play groupWritten).2.endpoint.Agrees ∧
      ¬ ((initial.play groupWritten).2.performed (.write "QUIT" none 3)).endpoint.Agrees := by
  have keeps : PlaysBy (fun _ k label => ¬ k.Forgets label) [] initial groupWritten :=
    ⟨fun h => by simpa using h.operation, fun h => by simpa using h.operation,
      fun h => by simpa using h.operation, trivial⟩
  obtain ⟨agrees, iff⟩ := expected_matches_slot (runBy_play groupWritten .nil keeps)
  refine ⟨agrees, fun h => ?_⟩
  have move : Move Operation.Any (initial.play groupWritten).2 (.operate (.write "QUIT" none 3))
      ((initial.play groupWritten).2.performed (.write "QUIT" none 3)) := .operate trivial
  have live : (initial.play groupWritten).2.endpoint.conn.isLive = true := by decide
  have group : (initial.play groupWritten).2.endpoint.wanted ≠ 1 := by decide
  have taken : (initial.play groupWritten).2.endpoint.accepts "QUIT" = true := by decide
  exact (iff _ _ move).mp h ⟨_, _, .operate, .write live group (.inr taken)⟩

/-- **The agreement does not hold in every run.** -/
theorem expected_misses_slot : ¬ ∀ (labels : List (Label Nat)) (m : Machine Nat),
    Run Operation.Any initial labels m → m.endpoint.Agrees := by
  intro h
  have replaced := h _ _ (run_play initial (groupWritten ++ [.operate (.write "NOOP" none 3)]))
  have live : (initial.play (groupWritten ++
    [.operate (.write "NOOP" none 3)])).2.endpoint.conn.isLive = true := by decide
  exact absurd (replaced live) (by decide)

end Machine

end SmtpLink
