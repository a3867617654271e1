import SmtpLink.Proofs.Scope

/-!
# What work does to the deferred tasks

An operation may put one task at the end of those that are deferred; all other work leaves them as
they are, except where they are run.  There the oldest has its turn: a task of the application is
called, whereas a graceful close, which is a deferred task as well, is carried out at once.

## Main definitions

* `Endpoint.deferral?`, `Endpoint.closing?` — the task that a piece of work defers, and the graceful
  close that it carries out.
* `Endpoint.Defers` — a reaction puts a task at the end of those that are deferred, or leaves them
  alone.

## Main results

* `Endpoint.defers_resume`, `Endpoint.runTasks_cases` — **work defers its task, or the oldest task
  has its turn.**
* `Endpoint.tasks_resume` — the tasks stay in their order.
-/

namespace SmtpLink

variable {H : Type}

/-- The deferred task that is called. -/
def Work.task? : Work H → Option (Task H)
  | .call handler .task => some (.app handler)
  | _ => none

theorem Work.task?_eq_none {w : Work H} (noCall : w.isCall = false) : w.task? = none := by
  cases w with
  | call => exact absurd noCall (by simp [isCall])
  | _ => rfl

/-- The deferred task that is called next. -/
def Frame.task? : Frame H → Option (Task H)
  | .work w => w.task?
  | .code => none

/-! ### The tasks that work defers -/

namespace Endpoint

variable {e e' : Endpoint H} {task : Option (Task H)} {r : Reaction H}

/-- The task that a piece of work defers.  A graceful close is deferred as long as there is
something to close. -/
def deferral? (e : Endpoint H) : Work H → Option (Task H)
  | .perform (.runOnContext handler) => some (.app handler)
  | .perform .close => if e.conn.state.isTerminal then none else some .close
  | .perform .returnToPool =>
    if e.conn.isIdle || !e.conn.shutdownRequested || e.conn.state.isTerminal then none
    else some .close
  | _ => none

/-- The graceful close that a piece of work carries out: it is the oldest deferred task when its
turn comes. -/
def closing? (e : Endpoint H) : Work H → Option (Task H)
  | .runTasks => match e.conn.scheduled with
    | .close :: _ => some .close
    | _ => none
  | _ => none

/-- A reaction puts the task, if there is one, at the end of those that are deferred, leaves the
others where they are, and calls none. -/
structure Defers (task : Option (Task H)) (e : Endpoint H) (r : Reaction H) : Prop where
  /-- The task comes last. -/
  tasks : r.1.conn.scheduled = e.conn.scheduled ++ task.toList
  /-- No deferred task is called. -/
  calls : r.2.filterMap Work.task? = []

namespace Defers

theorem done (same : e'.conn.scheduled = e.conn.scheduled) : Defers none e e'.done where
  tasks := same.trans (List.append_nil _).symm
  calls := rfl

theorem call {handler : H} {notice : Notice} (same : e'.conn.scheduled = e.conn.scheduled)
    (notTask : (Work.call handler notice).task? = none) :
    Defers none e (e', [.call handler notice]) where
  tasks := same.trans (List.append_nil _).symm
  calls := by rw [List.filterMap_cons, notTask, List.filterMap_nil]

theorem of_same (h : Defers task e' r) (same : e'.conn.scheduled = e.conn.scheduled) :
    Defers task e r where
  tasks := same ▸ h.tasks
  calls := h.calls

theorem append (h : Defers task e r) {rest : List (Work H)}
    (hrest : rest.filterMap Work.task? = []) : Defers task e (r.1, r.2 ++ rest) where
  tasks := h.tasks
  calls := by rw [List.filterMap_append, h.calls, hrest, List.append_nil]

end Defers

@[simp] theorem scheduled_release (e : Endpoint H) (phase : Phase H) :
    (e.release phase).conn.scheduled = e.conn.scheduled := by
  rw [conn_release]

@[simp] theorem scheduled_finishQuit (e : Endpoint H) :
    e.finishQuit.conn.scheduled = e.conn.scheduled :=
  scheduled_release _ _

@[simp] theorem scheduled_setBroken (e : Endpoint H) :
    e.setBroken.conn.scheduled = e.conn.scheduled := by
  unfold setBroken
  split
  · rfl
  · exact scheduled_release _ _

@[simp] theorem scheduled_sendBytes (e : Endpoint H) (id : TransportId) (data : Bytes) :
    (e.sendBytes id data).1.conn.scheduled = e.conn.scheduled := by
  rw [conn_sendBytes]

theorem scheduled_changeUsage (e : Endpoint H) (origin usage : Usage) :
    (e.changeUsage origin usage).conn.scheduled = e.conn.scheduled := by
  unfold changeUsage
  split <;> rfl

theorem scheduled_timeout (e : Endpoint H) (now : Instant) :
    (e.timeout now).conn.scheduled = e.conn.scheduled := by
  unfold timeout
  split
  · split
    · exact scheduled_finishQuit _
    · rfl
  · rfl

theorem scheduled_dial (e : Endpoint H) (config : Config) (greeting onError : H) :
    (e.dial config greeting onError).conn.scheduled = e.conn.scheduled := by
  show e.releaseTransport.conn.scheduled = _
  rw [conn_releaseTransport]

theorem scheduled_connected (e : Endpoint H) (t : Transport) :
    (e.connected t).conn.scheduled = e.conn.scheduled := by
  unfold connected
  dsimp only
  split
  · rfl
  · exact congrArg Connection.scheduled (conn_closeTransport _ _)

theorem defers_deliverError (e : Endpoint H) (err : Error) :
    Defers none e (e.deliverError err) := by
  unfold deliverError
  split
  · exact .call rfl rfl
  · exact .done (scheduled_finishQuit _)
  · exact .done rfl

theorem defers_fault (e : Endpoint H) (err : Error) : Defers none e (e.fault err) := by
  unfold fault
  split
  · exact .done rfl
  · exact (defers_deliverError _ err).of_same (scheduled_setBroken e)

theorem defers_connectFailed (e : Endpoint H) (err : Error) :
    Defers none e (e.connectFailed err) := by
  refine (defers_deliverError _ err).of_same ?_
  show (if (e.remark .connectFailed).conn.state = .connecting
    then (e.remark .connectFailed).setPhase .broken else e.remark .connectFailed).conn.scheduled = _
  split <;> rfl

theorem defers_deliverReplies (e : Endpoint H) (batch : List Reply) :
    Defers none e (e.deliverReplies batch) := by
  unfold deliverReplies
  dsimp only
  split
  · exact .done rfl
  · exact .call rfl rfl
  · split
    · exact .done rfl
    · exact .call rfl rfl
  · split
    · exact .done rfl
    · exact .call rfl rfl
  · split
    · exact .done rfl
    · refine .done ((scheduled_finishQuit _).trans ?_)
      split <;> rfl

theorem defers_dispatch (e : Endpoint H) : Defers none e e.dispatch := by
  unfold dispatch
  dsimp only
  split
  · exact .done rfl
  · exact (defers_fault _ _).of_same rfl
  · exact ((defers_deliverReplies _ _).append rfl).of_same rfl

theorem defers_input (e : Endpoint H) (data : Bytes) : Defers none e (e.input data) := by
  unfold input
  split
  · exact ⟨(List.append_nil _).symm, rfl⟩
  · exact .done rfl

theorem defers_closed (e : Endpoint H) : Defers none e e.closed := by
  rw [closed_eq]
  split
  · exact (defers_deliverError _ _).of_same (scheduled_setBroken e.noteClosed)
  · split
    · exact .done (scheduled_setBroken _)
    · exact .done rfl

theorem defers_drained (e : Endpoint H) : Defers none e e.drained where
  tasks := (List.append_nil _).symm
  calls := by
    rw [drained, List.filterMap_map]
    exact List.filterMap_eq_nil_iff.mpr fun _ _ => rfl

theorem defers_upgraded (e : Endpoint H) (result : Outcome) :
    Defers none e (e.upgraded result) := by
  have dropped : (if result.isOk then e.dropInput else e).conn.scheduled = e.conn.scheduled := by
    split <;> rfl
  unfold upgraded
  dsimp only
  split
  · exact .call dropped rfl
  · exact .done dropped

theorem defers_writeWith (e : Endpoint H) (text : String) (mask : Option Nat)
    (handler : ReplyHandler H) : Defers none e (e.writeWith text mask handler).1 := by
  unfold writeWith
  split
  · exact (defers_deliverError _ _).of_same rfl
  · split
    · exact (defers_deliverError _ _).of_same rfl
    · next id _ =>
      have sent := scheduled_sendBytes
        ((e.setSlot (some handler)).remark (.command (redact text mask))) id (lineBytes text)
      dsimp only
      split
      · next taken =>
        rw [taken] at sent
        exact .done sent
      · next refused =>
        rw [refused] at sent
        exact (defers_fault _ _).of_same sent

theorem defers_writeCommands (e : Endpoint H) (commands : List String) (handler : H) :
    Defers none e (e.writeCommands commands handler) := by
  have written := defers_writeWith (e.expect commands.length) ("\r\n".intercalate commands) none
    (.replies handler commands.length)
  unfold writeCommands
  split
  · exact defers_deliverError _ _
  · dsimp only
    split
    · next taken =>
      rw [taken] at written
      exact written.of_same rfl
    · next refused =>
      rw [refused] at written
      exact (written.append rfl).of_same rfl

theorem defers_writeLineWithRoom (e : Endpoint H) (line : String) (handler : H) :
    Defers none e (e.writeLineWithRoom line handler) := by
  rcases e.writeLineWithRoom_cases line handler with ⟨d, held, conn, -⟩ |
    ⟨d, result, told, conn, -⟩
  · have same : d.conn.scheduled = e.conn.scheduled := congrArg Connection.scheduled conn
    rw [held]
    exact .done same
  · rw [told]
    exact .call (congrArg Connection.scheduled conn) rfl

theorem defers_upgrade (e : Endpoint H) (handler : H) : Defers none e (e.upgrade handler) := by
  rcases e.upgrade_cases handler with ⟨d, waits, conn⟩ | ⟨d, err, told, conn⟩
  · have same : d.conn.scheduled = e.conn.scheduled := congrArg Connection.scheduled conn
    rw [waits]
    exact .done same
  · rw [told]
    exact .call (congrArg Connection.scheduled conn) rfl

/-- A graceful close defers nothing when its turn has come, and calls no deferred task. -/
theorem defers_runClose (e : Endpoint H) : Defers none e e.runClose := by
  unfold runClose
  split
  · exact .done rfl
  · dsimp only
    split
    · exact .done (scheduled_release _ _)
    · exact (defers_writeWith _ "QUIT" none .quit).of_same rfl

theorem defers_close (e : Endpoint H) :
    Defers (if e.conn.state.isTerminal then none else some .close) e e.close.done := by
  unfold close
  split
  · exact .done rfl
  · exact ⟨rfl, rfl⟩

/-- A connection that is given back is closed if that was asked for. -/
theorem defers_returnToPool (e : Endpoint H) :
    Defers (e.deferral? (.perform .returnToPool)) e e.returnToPool := by
  unfold returnToPool
  split
  · next idle =>
    rw [deferral?, if_pos (by simp [idle])]
    exact (defers_deliverError _ _).of_same rfl
  · next busy =>
    split
    · next requested =>
      have same : e.deferral? (.perform .returnToPool) =
          if e.conn.state.isTerminal then none else some .close := by
        simp [deferral?, busy, requested]
      rw [same]
      exact (defers_close (e.remark .shutdownOnReturn)).of_same rfl
    · next unrequested =>
      rw [deferral?, if_pos (by simp [unrequested])]
      exact .done rfl

theorem defers_perform (e : Endpoint H) (operation : Operation H) :
    Defers (e.deferral? (.perform operation)) e (e.perform operation) := by
  cases operation with
  | dial config greeting onError => exact .done (scheduled_dial e config greeting onError)
  | connected t => exact .done (scheduled_connected e t)
  | connectFailed err => exact defers_connectFailed e err
  | input data => exact defers_input e data
  | fault err => exact defers_fault e err
  | closed => exact defers_closed e
  | drained => exact defers_drained e
  | upgraded result => exact defers_upgraded e result
  | timeout now => exact .done (scheduled_timeout e now)
  | write text mask handler => exact defers_writeWith e text mask (.reply handler)
  | writeCommands commands handler => exact defers_writeCommands e commands handler
  | writeLine line => exact .done (congrArg Connection.scheduled (conn_writeLine e line))
  | writeLineWithRoom line handler => exact defers_writeLineWithRoom e line handler
  | upgrade handler => exact defers_upgrade e handler
  | setIdle => exact .done (scheduled_changeUsage e .active .idle)
  | useConnection => exact .done (scheduled_changeUsage e .idle .active)
  | returnToPool => exact defers_returnToPool e
  | setBroken => exact .done (scheduled_setBroken e)
  | close => exact defers_close e
  | runOnContext handler => exact ⟨rfl, rfl⟩
  | runScheduled =>
    show Defers none e e.runScheduled
    unfold runScheduled
    split
    · exact ⟨(List.append_nil _).symm, rfl⟩
    · exact .done rfl
  | _ => exact .done rfl

/-- **Work defers its task, if it has one, and leaves the others alone**; only where the deferred
tasks are run, one is taken away. -/
theorem defers_resume (e : Endpoint H) {w : Work H} (h : w ≠ .runTasks) :
    Defers (e.deferral? w) e (e.resume w) := by
  cases w with
  | call handler notice => exact .done rfl
  | perform operation => exact defers_perform e operation
  | dispatch => exact defers_dispatch e
  | sendDeferred d => exact .call (congrArg Connection.scheduled (conn_writeLine e d.line)) rfl
  | expectOne => exact .done rfl
  | runTasks => exact absurd rfl h

/-- **The oldest deferred task has its turn**, and the run goes on until none is left.  A task of
the application is called; a graceful close is carried out. -/
theorem runTasks_cases (e : Endpoint H) :
    (e.conn.scheduled = [] ∧ e.runTasks = (e, [])) ∨
    (∃ handler rest, e.conn.scheduled = .app handler :: rest ∧
      e.runTasks.1.conn.scheduled = rest ∧ e.runTasks.2 = [.call handler .task, .runTasks]) ∨
    ∃ rest left, e.conn.scheduled = .close :: rest ∧
      e.runTasks.1.conn.scheduled = rest ∧ e.runTasks.2 = left ++ [.runTasks] ∧
      left.filterMap Work.task? = [] := by
  cases tasks : e.conn.scheduled with
  | nil => exact .inl ⟨rfl, by rw [runTasks, tasks]; rfl⟩
  | cons oldest rest =>
    cases oldest with
    | app handler =>
      refine .inr (.inl ⟨handler, rest, rfl, ?_, ?_⟩) <;> rw [runTasks, tasks]
    | close =>
      -- the task is taken out of the queue before it is carried out
      have closes := defers_runClose { e with conn := { e.conn with scheduled := rest } }
      refine .inr (.inr ⟨rest, _, rfl, ?_, ?_, closes.calls⟩) <;> rw [runTasks, tasks]
      exact closes.tasks.trans (List.append_nil _)

/-- A run of the deferred tasks goes on until none is left. -/
theorem runTasks_last (e : Endpoint H) :
    (e.runTasks.2 = [] ∧ e.runTasks.1.conn.scheduled = []) ∨
      ∃ left, e.runTasks.2 = left ++ [.runTasks] := by
  rcases e.runTasks_cases with ⟨none, ended⟩ | ⟨handler, rest, -, -, work⟩ |
    ⟨rest, left, -, -, work, -⟩
  · rw [ended]
    exact .inl ⟨rfl, none⟩
  · exact .inr ⟨[.call handler .task], work⟩
  · exact .inr ⟨left, work⟩

/-- The deferred tasks before a piece of work, and the one that it defers, are the one that it
starts, the one that is called next, and those that wait. -/
theorem tasks_resume (e : Endpoint H) (w : Work H) :
    e.conn.scheduled ++ (e.deferral? w).toList = (e.closing? w).toList ++
      ((e.resume w).2.filterMap Work.task? ++ (e.resume w).1.conn.scheduled) := by
  by_cases h : w = .runTasks
  · subst h
    show e.conn.scheduled ++ [] =
      _ ++ (e.runTasks.2.filterMap Work.task? ++ e.runTasks.1.conn.scheduled)
    rw [List.append_nil]
    rcases e.runTasks_cases with ⟨none, ended⟩ | ⟨handler, rest, oldest, tasks, work⟩ |
      ⟨rest, left, oldest, tasks, work, noTask⟩
    · rw [ended, none, closing?, none]
      rfl
    · rw [tasks, work, oldest, closing?, oldest]
      rfl
    · rw [tasks, work, oldest, closing?, oldest, List.filterMap_append, noTask]
      rfl
  · -- all other work starts nothing
    have defers := e.defers_resume h
    have notClosing : e.closing? w = none := by
      cases w with
      | runTasks => exact absurd rfl h
      | _ => rfl
    rw [defers.tasks, defers.calls, notClosing]
    rfl

/-- A deferred task is called by a run of the deferred tasks, which goes on below it. -/
theorem task_of_resume (e : Endpoint H) (w : Work H) :
    (e.resume w).2.filterMap Work.task? = [] ∨
      ∃ handler, (e.resume w).2 = [.call handler .task, .runTasks] := by
  by_cases h : w = .runTasks
  · subst h
    show e.runTasks.2.filterMap Work.task? = [] ∨ ∃ handler, e.runTasks.2 = _
    rcases e.runTasks_cases with ⟨-, ended⟩ | ⟨handler, rest, -, -, work⟩ |
      ⟨rest, left, -, -, work, noTask⟩
    · exact .inl (by rw [ended]; rfl)
    · exact .inr ⟨handler, work⟩
    · exact .inl (by rw [work, List.filterMap_append, noTask]; rfl)
  · exact .inl (e.defers_resume h).calls

end Endpoint

end SmtpLink
