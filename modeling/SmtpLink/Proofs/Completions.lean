import SmtpLink.Proofs.Backpressure
import SmtpLink.Proofs.Keep

/-!
# Completions

Who submits a line that may have to wait, or asks for an upgrade, is to be told once what became
of it.  Until then the completion waits: with the connection, among the work that is due, or in
a call that is due.  A step moves completions from one place to the next, and a call ends the wait.
There is one more way out: a connection that lets go of its socket drops all completions that
wait with it, without a word.

## Main definitions

* `Completion` — somebody who is to be told, and of what.
* `Endpoint.held`, `Machine.awaiting` — the completions that wait with the connection, and all
  that wait.
* `Machine.Step.asked`, `Machine.Step.told` — the completions that a step adds, and the one that it
  tells.
* `Machine.Step.abandoned` — the completions that a step drops together with the socket.
* `Machine.Step.performed` — the completions whose line or upgrade is performed in a step.

## Main results

* `Endpoint.ledger_resume` — **work loses no completion and doubles none**, apart from those that
  it drops with the socket.
* `Machine.ledger_of_trail` — so all that asked were told, wait, or were abandoned.
* `Machine.completions_settled` — **at the end all were told once exactly if none was abandoned**,
  and those that were told of success are those that succeeded.
-/

namespace SmtpLink

variable {H : Type}

/-- Somebody who is to be told once what became of a line or of an upgrade. -/
inductive Completion (H : Type)
  /-- A line that may have to wait for room. -/
  | line (handler : H)
  /-- The upgrade of the socket. -/
  | upgrade (handler : H)
deriving DecidableEq, Repr

/-- The completion of a line that is held back. -/
def Deferred.completion (d : Deferred H) : Completion H := .line d.handler

/-- Those that are told of success. -/
def successes (verdicts : List (Completion H × Outcome)) : List (Completion H) :=
  (verdicts.filter fun verdict => verdict.2.isOk).map Prod.fst

theorem successes_append (verdicts verdicts' : List (Completion H × Outcome)) :
    successes (verdicts ++ verdicts') = successes verdicts ++ successes verdicts' := by
  rw [successes, List.filter_append, List.map_append]
  rfl

/-- The completion that is told with a notice, and what it is told. -/
def Notice.verdict? (handler : H) : Notice → Option (Completion H × Outcome)
  | .line result => some (.line handler, result)
  | .upgrade result => some (.upgrade handler, result)
  | _ => none

namespace Work

/-- The completion that the work is about. -/
def completion? : Work H → Option (Completion H)
  | .perform (.writeLineWithRoom _ handler) => some (.line handler)
  | .perform (.upgrade handler) => some (.upgrade handler)
  | .sendDeferred d => some d.completion
  | .call handler notice => (notice.verdict? handler).map Prod.fst
  | _ => none

/-- The completion that is told by the work, and what it is told. -/
def verdict? : Work H → Option (Completion H × Outcome)
  | .call handler notice => notice.verdict? handler
  | _ => none

/-- The work neither asks for, nor moves, nor tells any completion. -/
def isIndifferent : Work H → Bool
  | .call _ _ | .sendDeferred _ | .perform (.connected _) | .perform .drained
  | .perform (.upgraded _) | .perform (.writeLineWithRoom _ _) | .perform (.upgrade _) => false
  | _ => true

theorem verdict?_of_completion? {w : Work H} (h : w.completion? = none) : w.verdict? = none := by
  cases w with
  | call handler notice => exact Option.map_eq_none_iff.mp h
  | _ => rfl

theorem verdict?_of_isCall {w : Work H} (h : w.isCall = false) : w.verdict? = none := by
  cases w with
  | call handler notice => exact absurd h (by simp [isCall])
  | _ => rfl

end Work

namespace Frame

/-- The completion that the frame is about. -/
def completion? : Frame H → Option (Completion H)
  | .work w => w.completion?
  | .code => none

/-- The completion that is told by the frame, and what it is told. -/
def verdict? : Frame H → Option (Completion H × Outcome)
  | .work w => w.verdict?
  | .code => none

end Frame

namespace Endpoint

variable {e e' e'' : Endpoint H}

/-- The completions that wait with the connection. -/
def held (e : Endpoint H) : List (Completion H) :=
  e.conn.deferred.map Deferred.completion ++ e.conn.upgradeHandler.toList.map .upgrade

/-- The completions that the work drops together with the socket. -/
def abandoned (e : Endpoint H) (w : Work H) : List (Completion H) :=
  if e.conn.isLive && !(e.resume w).1.conn.isLive then e.held else []

/-- The completions whose line or upgrade is performed with the work: a transport takes the line,
or the socket has become secure. -/
def performed (e : Endpoint H) : Work H → List (Completion H)
  | .perform (.upgraded (.ok ())) => e.conn.upgradeHandler.toList.map .upgrade
  | w => (e.handed w).map Deferred.completion

/-! ### A connection without a socket -/

/-- No completion waits with a connection that holds no socket. -/
def Bare (e : Endpoint H) : Prop := e.conn.isLive = false → e.held = []

theorem isLive_of_transport? (h : e'.conn.phase.transport? = e.conn.phase.transport?) :
    e'.conn.isLive = e.conn.isLive := by
  rw [Bool.eq_iff_iff, isLive_iff, isLive_iff, h]

theorem Bare.of_same (bare : e.Bare) (held : e'.held = e.held)
    (transport : e'.conn.phase.transport? = e.conn.phase.transport?) : e'.Bare := by
  intro gone
  rw [held]
  exact bare ((isLive_of_transport? transport).symm.trans gone)

theorem Bare.of_conn (bare : e.Bare) (h : e'.conn = e.conn) : e'.Bare := by
  intro gone
  rw [held, h]
  exact bare (h ▸ gone)

theorem held_release (e : Endpoint H) (phase : Phase H) : (e.release phase).held = [] := rfl

theorem held_setBroken (bare : e.Bare) : e.setBroken.held = [] := by
  unfold setBroken
  split
  · next terminal => exact bare (not_live_of_terminal terminal)
  · exact held_release _ _

theorem held_changeUsage (e : Endpoint H) (origin usage : Usage) :
    (e.changeUsage origin usage).held = e.held := by
  unfold changeUsage
  split <;> rfl

theorem held_of_conn (h : e'.conn = e.conn) : e'.held = e.held := by
  rw [held, held, h]

theorem held_connected (e : Endpoint H) (t : Transport) : (e.connected t).held = e.held := by
  unfold connected
  dsimp only
  split
  · rfl
  · refine held_of_conn ?_
    rw [conn_closeTransport]
    rfl

theorem isLive_connected (live : e.conn.isLive = true) (t : Transport) :
    (e.connected t).conn.isLive = true := by
  rw [conn_connected_of_not_connecting]
  · exact live
  · intro waiting
    rw [Connection.isLive, waiting] at live
    exact absurd live Bool.false_ne_true

/-- **Effects keep a connection without a socket free of completions.** -/
theorem Effect.bare {loud : Bool} (bare : e.Bare) (effect : Effect loud e e') : e'.Bare := by
  have nothing (gone : e.conn.isLive = false) : e.conn.deferred = [] ∧
      e.conn.upgradeHandler = none := by
    have none := bare gone
    simpa [held] using none
  have holds {id : TransportId} (h : e.conn.phase.transport? = some id) :
      e.conn.isLive ≠ false := by
    rw [isLive_of_held h]
    simp
  cases effect with
  | outside outside => exact bare.of_conn outside.conn_eq
  | fillSlot handler => exact bare.of_same rfl (transport?_setSlot _ _)
  | emptySlot => exact bare.of_same rfl (transport?_setSlot _ _)
  | send data => exact bare.of_conn (conn_sendBytes e _ data)
  | askFull => exact bare.of_conn (conn_askFull e _)
  | askUpgrade => exact bare.of_conn (conn_askUpgrade e _)
  | awaitUpgrade handler h => exact fun gone => absurd gone (holds h)
  | hold line h => exact fun gone => absurd gone (holds h)
  | endUpgrade =>
    intro gone
    show e.conn.deferred.map _ ++ [] = []
    rw [(nothing gone).1]
    rfl
  | letGo =>
    intro gone
    show [] ++ e.conn.upgradeHandler.toList.map _ = []
    rw [(nothing gone).2]
    rfl
  | park => exact bare.of_same (held_changeUsage e _ _) (transport?_changeUsage e _ _)
  | use => exact bare.of_same (held_changeUsage e _ _) (transport?_changeUsage e _ _)
  | connected t =>
    intro gone
    rw [held_connected]
    refine bare (Bool.eq_false_iff.mpr fun live => ?_)
    exact absurd ((isLive_connected live t).symm.trans gone) (by simp)
  | setBroken => exact fun _ => held_setBroken bare
  | fault peer inFlight => exact fun _ => held_setBroken bare
  | hangUp inFlight => exact fun _ => held_setBroken (bare.of_same rfl rfl)
  | retire idle => exact fun _ => held_setBroken (bare.of_same rfl rfl)
  | finishQuit waits => exact fun _ => held_release _ _
  | shutdown gone notYet => exact fun _ => held_release _ _
  | refused waiting =>
    refine fun _ => bare ?_
    rw [Connection.isLive, waiting]
    rfl
  | giveBack => exact bare.of_same rfl (transport?_setSlot _ _)
  | beginQuit => exact bare.of_same rfl (Phase.transport?_relabel _ _)
  | _ => exact bare.of_same rfl rfl

/-! ### Work that has nothing to do with completions -/

/-- The connection is left without a socket, or keeps the completions that wait with it. -/
def Retains (e e' : Endpoint H) : Prop :=
  e'.conn.isLive = true → e.conn.isLive = true ∧ e'.held = e.held

namespace Retains

theorem of_same (held : e'.held = e.held)
    (transport : e'.conn.phase.transport? = e.conn.phase.transport?) : Retains e e' :=
  fun live => ⟨(isLive_of_transport? transport).symm.trans live, held⟩

theorem refl (e : Endpoint H) : Retains e e := .of_same rfl rfl

theorem of_conn (h : e'.conn = e.conn) : Retains e e' :=
  .of_same (held_of_conn h) (by rw [h])

theorem of_gone (gone : e'.conn.isLive = false) : Retains e e' :=
  fun live => absurd (live.symm.trans gone) (by simp)

theorem trans (h : Retains e e') (h' : Retains e' e'') : Retains e e'' := by
  intro live
  obtain ⟨live, held⟩ := h' live
  obtain ⟨live, held'⟩ := h live
  exact ⟨live, held.trans held'⟩

end Retains

/-- A reaction that has nothing to do with completions: those that wait are retained, and the work
that is left is not about any. -/
structure Indifferent (e : Endpoint H) (r : Reaction H) : Prop where
  /-- Completions are retained. -/
  retains : Retains e r.1
  /-- No completion is told, and none is left to be. -/
  silent : r.2.filterMap Work.completion? = []

namespace Indifferent

variable {r : Reaction H}

theorem done (h : Retains e e') : Indifferent e e'.done := ⟨h, rfl⟩

theorem trans (h : Retains e e') (h' : Indifferent e' r) : Indifferent e r :=
  ⟨h.trans h'.retains, h'.silent⟩

theorem append (h : Indifferent e r) {rest : List (Work H)}
    (silent : rest.filterMap Work.completion? = []) : Indifferent e (r.1, r.2 ++ rest) := by
  refine ⟨h.retains, ?_⟩
  rw [List.filterMap_append, h.silent, silent]
  rfl

end Indifferent

theorem indifferent_deliverError (e : Endpoint H) (err : Error) :
    Indifferent e (e.deliverError err) := by
  unfold deliverError
  split
  · exact ⟨.refl e, rfl⟩
  · exact .done (.of_gone (isLive_shutdown _))
  · exact .done (.of_conn rfl)

theorem indifferent_fault (e : Endpoint H) (err : Error) : Indifferent e (e.fault err) := by
  unfold fault
  split
  · exact .done (.of_conn rfl)
  · have broken : Retains e (e.setBroken.remark .fault) := .of_gone (isLive_setBroken e)
    exact .trans broken (indifferent_deliverError _ err)

theorem indifferent_closed (e : Endpoint H) : Indifferent e e.closed := by
  rw [closed_eq]
  split
  · have broken : Retains e (e.noteClosed.setBroken.remark .closedByServer) :=
      .of_gone (isLive_setBroken _)
    exact .trans broken (indifferent_deliverError _ _)
  · split
    · exact .done (.of_gone (isLive_setBroken _))
    · exact .done (.of_same rfl rfl)

theorem indifferent_connectFailed (e : Endpoint H) (err : Error) :
    Indifferent e (e.connectFailed err) := by
  refine .trans ?_ (indifferent_deliverError _ err)
  split
  · exact .of_gone rfl
  · exact .of_conn rfl

theorem indifferent_deliverReplies (e : Endpoint H) (batch : List Reply) :
    Indifferent e (e.deliverReplies batch) := by
  have emptied : Retains e (e.setSlot none) := .of_same rfl (transport?_setSlot _ _)
  unfold deliverReplies
  dsimp only
  split
  · exact .done (.of_conn rfl)
  · exact ⟨.of_same rfl (transport?_setSlot _ _), rfl⟩
  · split
    · exact .done (.of_same rfl (transport?_setSlot _ _))
    · exact ⟨emptied, rfl⟩
  · split
    · exact .done (.of_same rfl (transport?_setSlot _ _))
    · exact ⟨emptied, rfl⟩
  · split
    · exact .done (.of_same rfl (transport?_setSlot _ _))
    · exact .done (.of_gone (isLive_shutdown _))

theorem indifferent_dispatch (e : Endpoint H) : Indifferent e e.dispatch := by
  have polled : Retains e { e with conn := { e.conn with assembler := e.conn.assembler.poll.1 } } :=
    .of_same rfl rfl
  unfold dispatch
  dsimp only
  split
  · exact .done polled
  · exact .trans polled (indifferent_fault _ _)
  · exact (Indifferent.trans polled (indifferent_deliverReplies _ _)).append rfl

theorem indifferent_input (e : Endpoint H) (data : Bytes) : Indifferent e (e.input data) := by
  unfold input
  split
  · exact ⟨.of_same rfl rfl, rfl⟩
  · exact .done (.of_conn rfl)

theorem retains_timeout (e : Endpoint H) (now : Instant) : Retains e (e.timeout now) := by
  unfold timeout
  split
  · split
    · exact .of_gone (isLive_shutdown _)
    · exact .refl e
  · exact .refl e

theorem indifferent_writeWith (e : Endpoint H) (text : String) (mask : Option Nat)
    (handler : ReplyHandler H) : Indifferent e (e.writeWith text mask handler).1 := by
  have noted (r : Remark) : Retains e (e.remark r) := .of_conn rfl
  unfold writeWith
  split
  · exact .trans (noted .peerGone) (indifferent_deliverError _ _)
  · split
    · exact .trans (noted .socketGone) (indifferent_deliverError _ _)
    · next id _ =>
      have filled : Retains e ((e.setSlot (some handler)).remark (.command (redact text mask))) :=
        .of_same rfl (transport?_setSlot _ _)
      have sent := filled.trans (.of_conn (conn_sendBytes _ id (lineBytes text)))
      dsimp only
      split
      · next h =>
        rw [h] at sent
        exact .done sent
      · next h =>
        rw [h] at sent
        exact .trans sent (indifferent_fault _ _)

theorem indifferent_writeCommands (e : Endpoint H) (commands : List String) (handler : H) :
    Indifferent e (e.writeCommands commands handler) := by
  have sized : Retains e (e.expect commands.length) := .of_same rfl rfl
  have written := Indifferent.trans sized (indifferent_writeWith (e.expect commands.length)
    ("\r\n".intercalate commands) none (.replies handler commands.length))
  unfold writeCommands
  split
  · exact indifferent_deliverError _ _
  · dsimp only
    split
    · next h =>
      rw [h] at written
      exact written
    · next h =>
      rw [h] at written
      exact written.append rfl

theorem retains_close (e : Endpoint H) : Retains e e.close := by
  unfold close
  split
  · exact .of_conn rfl
  · exact .of_same rfl rfl

theorem indifferent_returnToPool (e : Endpoint H) : Indifferent e e.returnToPool := by
  have noted : Retains e (e.remark .idleReturned) := .of_conn rfl
  unfold returnToPool
  split
  · exact .trans noted (indifferent_deliverError _ _)
  · split
    · exact .done (retains_close (e.remark .shutdownOnReturn))
    · exact .done (.of_same rfl (transport?_setSlot _ _))

theorem indifferent_runClose (e : Endpoint H) : Indifferent e e.runClose := by
  have begun : Retains e (e.remark .shuttingDown).beginQuit :=
    .of_same rfl (Phase.transport?_relabel _ _)
  unfold runClose
  split
  · exact .done (.of_conn rfl)
  · dsimp only
    split
    · exact .done (.of_gone (isLive_shutdown _))
    · exact .trans begun (indifferent_writeWith _ _ _ _)

theorem indifferent_runTasks (e : Endpoint H) : Indifferent e e.runTasks := by
  unfold runTasks
  split
  · exact .done (.refl e)
  · next task rest _ =>
    dsimp only
    split
    · exact ⟨.of_same rfl rfl, rfl⟩
    · have taken : Retains e { e with conn := { e.conn with scheduled := rest } } :=
        .of_same rfl rfl
      exact (Indifferent.trans taken (indifferent_runClose _)).append rfl

theorem indifferent_runScheduled (e : Endpoint H) : Indifferent e e.runScheduled := by
  unfold runScheduled
  split
  · exact ⟨.refl e, rfl⟩
  · exact .done (.of_conn rfl)

/-- **Most work has nothing to do with completions.** -/
theorem indifferent_resume (e : Endpoint H) {w : Work H} (h : w.isIndifferent = true) :
    Indifferent e (e.resume w) := by
  cases w with
  | dispatch => exact indifferent_dispatch e
  | expectOne => exact .done (.of_same rfl rfl)
  | runTasks => exact indifferent_runTasks e
  | perform operation =>
    cases operation with
    | dial config greeting onError => exact .done (.of_gone rfl)
    | connectFailed err => exact indifferent_connectFailed e err
    | input data => exact indifferent_input e data
    | fault err => exact indifferent_fault e err
    | closed => exact indifferent_closed e
    | timeout now => exact .done (retains_timeout e now)
    | write text mask handler => exact indifferent_writeWith e text mask _
    | writeCommands commands handler => exact indifferent_writeCommands e commands handler
    | writeLine line => exact .done (.of_conn (conn_writeLine e line))
    | setIdle | useConnection =>
      exact .done (.of_same (held_changeUsage e _ _) (transport?_changeUsage e _ _))
    | returnToPool => exact indifferent_returnToPool e
    | setBroken => exact .done (.of_gone (isLive_setBroken e))
    | close => exact .done (retains_close e)
    | runScheduled => exact indifferent_runScheduled e
    | connected | drained | upgraded | writeLineWithRoom | upgrade =>
      exact absurd h Bool.false_ne_true
    | _ => exact .done (.of_same rfl rfl)
  | _ => exact absurd h Bool.false_ne_true

/-! ### The ledger of a piece of work -/

variable {w : Work H}

/-- The ledger of a piece of work: the completion that it is about and those that wait before are
told or left to be, wait afterwards, or are abandoned. -/
def Ledger (e : Endpoint H) (w : Work H) : Prop :=
  (w.completion?.toList ++ e.held).Perm
    ((e.resume w).2.filterMap Work.completion? ++ ((e.resume w).1.held ++ e.abandoned w))

/-- Completions that are not told wait with the socket, or are dropped with it. -/
theorem ledger_of_silent (none : w.completion? = none) (bare : e.Bare)
    (bare' : (e.resume w).1.Bare) (silent : (e.resume w).2.filterMap Work.completion? = [])
    (retained : (e.resume w).1.conn.isLive = true → (e.resume w).1.held = e.held) :
    e.Ledger w := by
  rw [Ledger, none, silent, abandoned]
  cases live' : (e.resume w).1.conn.isLive with
  | true =>
    rw [retained live', Bool.not_true, Bool.and_false, if_neg Bool.false_ne_true, List.append_nil]
    exact List.Perm.refl _
  | false =>
    rw [bare' live']
    cases live : e.conn.isLive with
    | true => exact List.Perm.refl _
    | false =>
      rw [bare live]
      exact List.Perm.refl _

/-- Completions move from one place to the other while the socket is held. -/
theorem ledger_of_moved (live : (e.resume w).1.conn.isLive = e.conn.isLive)
    (moved : (w.completion?.toList ++ e.held).Perm
      ((e.resume w).2.filterMap Work.completion? ++ (e.resume w).1.held)) : e.Ledger w := by
  rw [Ledger, abandoned, live, Bool.and_not_self, if_neg Bool.false_ne_true, List.append_nil]
  exact moved

theorem ledger_writeLineWithRoom (e : Endpoint H) (line : String) (handler : H) :
    e.Ledger (.perform (.writeLineWithRoom line handler)) := by
  have left : e.resume (.perform (.writeLineWithRoom line handler)) =
    e.writeLineWithRoom line handler := rfl
  rcases e.writeLineWithRoom_cases line handler with ⟨d, waits, conn, -⟩ | ⟨d, _, told, conn, -⟩
  · have last : (d.defer line handler).held = e.conn.deferred.map Deferred.completion ++
        Completion.line handler :: e.conn.upgradeHandler.toList.map Completion.upgrade := by
      rw [← conn]
      show (d.conn.deferred ++ [Deferred.mk line handler]).map _ ++ _ = _
      rw [List.map_append, List.append_assoc]
      rfl
    refine ledger_of_moved ?_ ?_
    · rw [left, waits, ← conn]
      rfl
    · rw [left, waits, last]
      show (Completion.line handler :: e.held).Perm
        ([] ++ (_ ++ Completion.line handler :: _))
      rw [List.nil_append]
      exact List.perm_middle.symm
  · refine ledger_of_moved ?_ ?_
    · rw [left, told, conn]
    · rw [left, told, held_of_conn conn]
      exact List.Perm.refl _

theorem ledger_upgrade (alone : e.conn.upgradeHandler = none) (handler : H) :
    e.Ledger (.perform (.upgrade handler)) := by
  have left : e.resume (.perform (.upgrade handler)) = e.upgrade handler := rfl
  rcases e.upgrade_cases handler with ⟨d, waits, conn⟩ | ⟨d, _, refused, conn⟩
  · refine ledger_of_moved ?_ ?_
    · rw [left, waits, ← conn]
      rfl
    · rw [left, waits, held, alone]
      show (Completion.upgrade handler :: (e.conn.deferred.map Deferred.completion ++ [])).Perm
        (d.conn.deferred.map Deferred.completion ++ [Completion.upgrade handler])
      rw [conn, List.append_nil]
      exact (List.perm_append_singleton _ _).symm
  · refine ledger_of_moved ?_ ?_
    · rw [left, refused, conn]
    · rw [left, refused, held_of_conn conn]
      exact List.Perm.refl _

theorem ledger_drained (e : Endpoint H) : e.Ledger (.perform .drained) := by
  have detached : (e.conn.deferred.map Work.sendDeferred).filterMap Work.completion? =
      e.conn.deferred.map Deferred.completion := by
    have each : (Work.completion? ∘ Work.sendDeferred : Deferred H → Option (Completion H)) =
      some ∘ Deferred.completion := rfl
    rw [List.filterMap_map, each, List.filterMap_eq_map]
  refine ledger_of_moved rfl ?_
  show (e.held).Perm ((e.conn.deferred.map Work.sendDeferred).filterMap Work.completion? ++
    ([] ++ e.conn.upgradeHandler.toList.map .upgrade))
  rw [detached]
  exact List.Perm.refl _

/-- The end of an upgrade is told to whom waits for it, and nothing else waits less or more. -/
theorem upgraded_cases (e : Endpoint H) (result : Outcome) :
    (e.upgraded result).2 = e.conn.upgradeHandler.toList.map (.call · (.upgrade result)) ∧
    (e.upgraded result).1.conn.isLive = e.conn.isLive ∧
    (e.upgraded result).1.held = e.conn.deferred.map Deferred.completion := by
  have dropped : (if result.isOk then e.dropInput else e).conn.upgradeHandler =
      e.conn.upgradeHandler := by
    split <;> rfl
  unfold upgraded
  dsimp only
  split
  · next handler waits =>
    rw [← dropped, waits]
    refine ⟨rfl, ?_, ?_⟩
    · split <;> rfl
    · show List.map _ _ ++ [] = _
      rw [List.append_nil]
      split <;> rfl
  · next waits =>
    rw [← dropped, waits]
    refine ⟨rfl, ?_, ?_⟩
    · split <;> rfl
    · have none := dropped.symm.trans waits
      have same : (if result.isOk then e.dropInput else e).held = e.held := by split <;> rfl
      refine same.trans ?_
      rw [held, none]
      exact List.append_nil _

theorem ledger_upgraded (e : Endpoint H) (result : Outcome) :
    e.Ledger (.perform (.upgraded result)) := by
  obtain ⟨left, live, held⟩ := e.upgraded_cases result
  refine ledger_of_moved live ?_
  show (e.held).Perm
    ((e.upgraded result).2.filterMap Work.completion? ++ (e.upgraded result).1.held)
  rw [left, held, Endpoint.held]
  cases e.conn.upgradeHandler with
  | none => exact List.Perm.of_eq (List.append_nil _)
  | some handler => exact List.perm_append_singleton _ _

/-- **Work loses no completion and doubles none**, apart from those that it drops with the
socket; but an upgrade that is asked for while another is waited for takes its place. -/
theorem ledger_resume (bare : e.Bare) (bare' : (e.resume w).1.Bare) (noCall : w.isCall = false)
    (alone : ∀ handler, w = .perform (.upgrade handler) → e.conn.upgradeHandler = none) :
    e.Ledger w := by
  cases h : w.isIndifferent with
  | true =>
    have none : w.completion? = none := by
      unfold Work.completion?
      split <;> simp_all [Work.isIndifferent]
    have indifferent := e.indifferent_resume h
    exact ledger_of_silent none bare bare' indifferent.silent fun live =>
      (indifferent.retains live).2
  | false =>
    cases w with
    | call handler notice => exact absurd noCall (by simp [Work.isCall])
    | sendDeferred d =>
      have conn := conn_writeLine e d.line
      have same : (e.resume (.sendDeferred d)).1.held = e.held := held_of_conn conn
      refine ledger_of_moved (by rw [← conn]; rfl) ?_
      rw [same]
      exact List.Perm.refl _
    | perform operation =>
      cases operation with
      | connected t => exact ledger_of_silent rfl bare bare' rfl fun _ => held_connected e t
      | drained => exact ledger_drained e
      | upgraded result => exact ledger_upgraded e result
      | writeLineWithRoom line handler => exact ledger_writeLineWithRoom e line handler
      | upgrade handler => exact ledger_upgrade (alone handler rfl) handler
      | _ => exact absurd h (by simp [Work.isIndifferent])
    | _ => exact absurd h (by simp [Work.isIndifferent])

/-! ### What is told -/

theorem no_verdict_of_silent {work : List (Work H)}
    (silent : work.filterMap Work.completion? = []) : work.filterMap Work.verdict? = [] := by
  rw [List.filterMap_eq_nil_iff] at silent ⊢
  exact fun w hw => Work.verdict?_of_completion? (silent w hw)

/-- A line is told of success exactly if the transport takes it. -/
theorem successes_of_line {d : Deferred H} {result : Outcome} (line : w.line? = some d)
    (wrote : (e.resume w).1.written = e.written ++ if result.isOk then [lineBytes d.line] else []) :
    successes [(d.completion, result)] = (e.handed w).map Deferred.completion := by
  unfold handed
  rw [line]
  dsimp only
  cases result with
  | ok =>
    have taken : (e.resume w).1.written = e.written ++ [lineBytes d.line] := wrote
    rw [if_pos taken]
    rfl
  | error err =>
    have quiet : (e.resume w).1.written = e.written := wrote.trans (List.append_nil _)
    rw [quiet, if_neg (by simp)]
    rfl

theorem written_writeLine (e : Endpoint H) (line : String) :
    (e.writeLine line).1.written =
      e.written ++ if (e.writeLine line).2.isOk then [lineBytes line] else [] := by
  unfold writeLine
  split
  · exact (List.append_nil _).symm
  · split
    · exact (List.append_nil _).symm
    · next id _ =>
      have before : (e.remark (.content line)).written = e.written :=
        (touches_remark (s := {}) e _).written_eq rfl
      rw [← before]
      exact written_sendBytes rfl

/-- Work that has nothing to do with completions performs none. -/
theorem performed_of_isIndifferent {w : Work H} (h : w.isIndifferent = true) :
    e.performed w = [] := by
  have noLine : w.line? = none := by
    unfold Work.line?
    split <;> simp_all [Work.isIndifferent]
  unfold performed
  split
  · exact absurd h Bool.false_ne_true
  · rw [handed, noLine]
    rfl

/-- Lines that wait for their turn are told nothing yet. -/
theorem successes_drained (e : Endpoint H) :
    successes ((e.resume (.perform .drained)).2.filterMap Work.verdict?) = [] := by
  have none : (e.conn.deferred.map Work.sendDeferred).filterMap Work.verdict? = [] := by
    rw [List.filterMap_map]
    exact List.filterMap_eq_nil_iff.mpr fun _ _ => rfl
  show successes ((e.conn.deferred.map Work.sendDeferred).filterMap Work.verdict?) = []
  rw [none]
  rfl

theorem successes_upgraded (e : Endpoint H) (result : Outcome) :
    successes ((e.resume (.perform (.upgraded result))).2.filterMap Work.verdict?) =
      e.performed (.perform (.upgraded result)) := by
  have left := (e.upgraded_cases result).1
  show successes ((e.upgraded result).2.filterMap Work.verdict?) = _
  rw [left]
  cases result with
  | ok =>
    rw [performed]
    cases e.conn.upgradeHandler <;> rfl
  | error err =>
    show _ = []
    cases e.conn.upgradeHandler <;> rfl

/-- A line that is held back is told nothing yet; any other hears whether it is taken. -/
theorem successes_writeLineWithRoom (e : Endpoint H) (line : String) (handler : H) :
    successes ((e.resume (.perform (.writeLineWithRoom line handler))).2.filterMap
      Work.verdict?) = e.performed (.perform (.writeLineWithRoom line handler)) := by
  have left : e.resume (.perform (.writeLineWithRoom line handler)) =
    e.writeLineWithRoom line handler := rfl
  rcases e.writeLineWithRoom_cases line handler with
    ⟨d, waits, -, same⟩ | ⟨d, result, told, -, wrote⟩
  · have quiet : e.handed (.perform (.writeLineWithRoom line handler)) = [] := by
      refine handed_of_same ?_
      rw [left, waits]
      exact ((touches_remark (s := {}) d .queueFull).written_eq rfl).trans same
    rw [left, waits, performed, quiet]
    · rfl
    · simp
  · rw [left, told]
    refine successes_of_line (d := ⟨line, handler⟩) rfl ?_
    rw [left, told]
    exact wrote

theorem successes_upgrade (e : Endpoint H) (handler : H) :
    successes ((e.resume (.perform (.upgrade handler))).2.filterMap Work.verdict?) = [] := by
  show successes ((e.upgrade handler).2.filterMap Work.verdict?) = []
  rcases e.upgrade_cases handler with ⟨d, waits, -⟩ | ⟨d, err, refused, -⟩
  · rw [waits]
    rfl
  · rw [refused]
    rfl

/-- **Who is told of success is who succeeded.** -/
theorem successes_resume (e : Endpoint H) (w : Work H) :
    successes ((e.resume w).2.filterMap Work.verdict?) = e.performed w := by
  cases h : w.isIndifferent with
  | true =>
    rw [performed_of_isIndifferent h, no_verdict_of_silent (e.indifferent_resume h).silent]
    rfl
  | false =>
    cases w with
    | call handler notice => rfl
    | sendDeferred d =>
      exact successes_of_line (w := .sendDeferred d) rfl (e.written_writeLine d.line)
    | perform operation =>
      cases operation with
      | connected t => rfl
      | drained => exact successes_drained e
      | upgraded result => exact successes_upgraded e result
      | writeLineWithRoom line handler => exact successes_writeLineWithRoom e line handler
      | upgrade handler => exact successes_upgrade e handler
      | _ => exact absurd h (by simp [Work.isIndifferent])
    | _ => exact absurd h (by simp [Work.isIndifferent])

end Endpoint

namespace Machine

variable {m n : Machine H} {label : Label H} {steps : List (Step H)}

/-- All completions that wait: with the work and the calls that are due, and with the
connection. -/
def awaiting (m : Machine H) : List (Completion H) :=
  m.frames.filterMap Frame.completion? ++ m.endpoint.held

/-- What the call that is due tells. -/
def telling (m : Machine H) : List (Completion H × Outcome) := m.frames.filterMap Frame.verdict?

namespace Step

/-- The completion that a step asks for: one at most. -/
def asked (step : Step H) : List (Completion H) :=
  match step.label with
  | .operate operation => (Work.perform operation).completion?.toList
  | _ => []

/-- The completion that a step tells, and what: one at most. -/
def told (step : Step H) : List (Completion H × Outcome) :=
  match step.label with
  | .call handler notice => (notice.verdict? handler).toList
  | _ => []

/-- The completions that a step drops together with the socket. -/
def abandoned (step : Step H) : List (Completion H) :=
  match step.work? with
  | some w => step.before.endpoint.abandoned w
  | none => []

/-- The completions whose line or upgrade is performed in a step. -/
def performed (step : Step H) : List (Completion H) :=
  match step.work? with
  | some w => step.before.endpoint.performed w
  | none => []

/-- An upgrade is asked for while another is waited for. -/
def asksAgain (step : Step H) : Bool :=
  match step.label with
  | .operate (.upgrade _) => step.before.endpoint.conn.upgradeHandler.isSome
  | _ => false

end Step

/-! ### Runs -/

theorem bare_of_trail (trail : Trail initial steps m) (atMost : steps.countP Step.isDial ≤ 1) :
    m.endpoint.Bare := by
  rw [← countP_map_label] at atMost
  refine Run.keep_once (P := Endpoint.Bare) (.nil initial) trail.run atMost
    (fun _ bare effect => effect.bare bare) ?_ (fun _ => rfl)
  intro e config greeting onError closed bare _
  have gone : e.conn.isLive = false := by
    rw [Connection.isLive, closed]
    rfl
  refine Eq.trans ?_ (bare gone)
  unfold Endpoint.dial Endpoint.releaseTransport
  dsimp only
  split <;> rfl

theorem awaiting_after (e : Endpoint H) (w : Work H) (frames : List (Frame H)) :
    (after e w frames).awaiting = (e.resume w).2.filterMap Work.completion? ++
      frames.filterMap Frame.completion? ++ (e.resume w).1.held := by
  have same : (Frame.completion? ∘ Frame.work : Work H → Option (Completion H)) =
    Work.completion? := rfl
  rw [awaiting, frames_after, List.filterMap_append, List.filterMap_map, same]
  rfl

/-- What waits before work is done: below it, with it and with the connection. -/
theorem awaiting_due {w : Work H} {frames : List (Frame H)} (due : Due m label w frames) :
    (m.awaiting ++ Step.asked ⟨m, label⟩).Perm (frames.filterMap Frame.completion? ++
      (w.completion?.toList ++ m.endpoint.held)) := by
  cases due with
  | @work e w frames noCall =>
    have first : (Frame.work w :: frames).filterMap Frame.completion? =
        w.completion?.toList ++ frames.filterMap Frame.completion? := by
      have same : (Frame.work w).completion? = w.completion? := rfl
      rw [List.filterMap_cons, same]
      cases w.completion? <;> rfl
    show ((Frame.work w :: frames).filterMap Frame.completion? ++ e.held ++ []).Perm _
    rw [first, List.append_nil, List.append_assoc]
    exact List.perm_append_comm_assoc _ _ _
  | @operate e operation frames =>
    show (frames.filterMap Frame.completion? ++ e.held ++ _).Perm _
    rw [List.append_assoc]
    exact List.Perm.append_left _ List.perm_append_comm

/-- **A step moves completions from one place to the other**: those that wait and those that it asks
for are told, wait, or are abandoned. -/
theorem ledger_move (tidy : m.Tidy) (bare : m.endpoint.Bare) (bare' : n.endpoint.Bare)
    (alone : Step.asksAgain ⟨m, label⟩ = false) (move : Move Operation.Any m label n) :
    (m.awaiting ++ Step.asked ⟨m, label⟩).Perm
      ((Step.told ⟨m, label⟩).map Prod.fst ++ (n.awaiting ++ Step.abandoned ⟨m, label⟩)) := by
  cases move.turn with
  | @work _ _ w frames due =>
    have noCall : w.isCall = false := by
      cases due with
      | work noCall => exact noCall
      | operate => rfl
    have single : ∀ handler, w = .perform (.upgrade handler) →
        m.endpoint.conn.upgradeHandler = none := by
      rintro handler rfl
      cases due with
      | work => exact absurd (tidy.no_perform _ List.mem_cons_self) (by simp [Work.isPerform])
      | operate => exact Option.isSome_eq_false_iff.mp alone |> Option.isNone_iff_eq_none.mp
    have told : Step.told ⟨m, label⟩ = [] := by cases due <;> rfl
    have dropped : Step.abandoned ⟨m, label⟩ = m.endpoint.abandoned w := by
      rw [Step.abandoned, due.work?_eq]
    have ledger := Endpoint.ledger_resume bare bare' noCall single
    rw [told, dropped, awaiting_after, List.map_nil, List.nil_append]
    refine (awaiting_due due).trans ((ledger.append_left _).trans ?_)
    rw [List.append_assoc, List.append_assoc]
    exact List.perm_append_comm_assoc _ _ _
  | @call e handler notice frames =>
    refine List.Perm.of_eq ?_
    show (Frame.work (.call handler notice) :: frames).filterMap Frame.completion? ++ e.held ++ [] =
      (notice.verdict? handler).toList.map Prod.fst ++
        (frames.filterMap Frame.completion? ++ e.held ++ [])
    have same : (Frame.work (.call handler notice)).completion? =
      (notice.verdict? handler).map Prod.fst := rfl
    rw [List.filterMap_cons, same]
    cases notice.verdict? handler <;> rfl
  | leave => exact List.Perm.refl _
  | @outside e e' frames outside =>
    have same : awaiting ⟨e', frames⟩ = awaiting ⟨e, frames⟩ := by
      rw [awaiting, awaiting, Endpoint.held_of_conn outside.conn_eq]
    rw [same]
    exact List.Perm.refl _

/-- **All completions that were asked for were told, wait, or were abandoned.** -/
theorem ledger_of_trail (trail : Trail initial steps m) (atMost : steps.countP Step.isDial ≤ 1)
    (alone : ∀ step ∈ steps, step.asksAgain = false) :
    (steps.flatMap Step.asked).Perm ((steps.flatMap Step.told).map Prod.fst ++
      (m.awaiting ++ steps.flatMap Step.abandoned)) := by
  induction trail with
  | nil => exact List.Perm.refl _
  | @snoc a b before l trail move ih =>
    obtain ⟨alone, last⟩ := List.forall_mem_append.mp alone
    have fewer : before.countP Step.isDial ≤ 1 := by
      rw [List.countP_append] at atMost
      omega
    have moved := ledger_move (tidy_of_run trail.run) (bare_of_trail trail fewer)
      (bare_of_trail (trail.snoc move) atMost) (last _ List.mem_cons_self) move
    have soFar := ih fewer alone
    simp only [List.flatMap_append, List.flatMap_singleton, List.map_append, List.append_assoc]
    generalize (before.flatMap Step.told).map Prod.fst = told at soFar ⊢
    generalize before.flatMap Step.abandoned = dropped at soFar ⊢
    generalize (Step.told ⟨a, l⟩).map Prod.fst = toldNow at moved ⊢
    -- what waited before the step is moved by it, past those that were abandoned before
    calc (before.flatMap Step.asked ++ Step.asked ⟨a, l⟩).Perm
          (told ++ (a.awaiting ++ dropped) ++ Step.asked ⟨a, l⟩) := soFar.append_right _
      List.Perm _ (told ++ (dropped ++ (a.awaiting ++ Step.asked ⟨a, l⟩))) := by
        rw [List.append_assoc, ← List.append_assoc dropped]
        exact (List.perm_append_comm.append_right _).append_left told
      List.Perm _ (told ++ (dropped ++ (toldNow ++ (b.awaiting ++ Step.abandoned ⟨a, l⟩)))) :=
        (moved.append_left dropped).append_left told
      List.Perm _ (told ++ (toldNow ++ (b.awaiting ++ (dropped ++ Step.abandoned ⟨a, l⟩)))) := by
        refine ((List.perm_append_comm_assoc _ _ _).trans ?_).append_left told
        exact (List.perm_append_comm_assoc _ _ _).append_left toldNow

/-! ### Success -/

/-- A step tells of success those that succeeded. -/
theorem successes_move (tidy : m.Tidy) (move : Move Operation.Any m label n) :
    successes (Step.told ⟨m, label⟩ ++ n.telling) =
      successes m.telling ++ Step.performed ⟨m, label⟩ := by
  have noCall (frames : List (Frame H)) (h : ∀ v, .work v ∈ frames → v.isCall = false) :
      frames.filterMap Frame.verdict? = [] := by
    refine List.filterMap_eq_nil_iff.mpr fun frame mem => ?_
    cases frame with
    | work v => exact Work.verdict?_of_isCall (h v mem)
    | code => rfl
  cases move.turn with
  | @work _ _ w frames due =>
    have below : frames.filterMap Frame.verdict? = [] :=
      noCall frames fun v mem => (due.frames_of_mem mem).2 tidy
    have idle : m.telling = [] := by
      cases due with
      | @work e w frames calls =>
        have silent : (Frame.work w).verdict? = none := Work.verdict?_of_isCall calls
        rw [telling, List.filterMap_cons, silent]
        exact below
      | operate => exact below
    have told : Step.told ⟨m, label⟩ = [] := by cases due <;> rfl
    have done : Step.performed ⟨m, label⟩ = m.endpoint.performed w := by
      rw [Step.performed, due.work?_eq]
    have same : (Frame.verdict? ∘ Frame.work : Work H → Option (Completion H × Outcome)) =
      Work.verdict? := rfl
    rw [told, done, idle, telling, frames_after, List.filterMap_append, List.filterMap_map, same,
      below, List.append_nil, List.nil_append, Endpoint.successes_resume]
    rfl
  | @call e handler notice frames =>
    have below : frames.filterMap Frame.verdict? = [] :=
      noCall frames fun v mem => tidy.no_call v mem
    show successes ((notice.verdict? handler).toList ++ frames.filterMap Frame.verdict?) =
      successes ((Frame.work (.call handler notice) :: frames).filterMap Frame.verdict?) ++ []
    have same : (Frame.work (.call handler notice)).verdict? = notice.verdict? handler := rfl
    rw [List.filterMap_cons, same, List.append_nil]
    cases notice.verdict? handler <;> rfl
  | leave => exact (List.append_nil _).symm
  | outside outside => exact (List.append_nil _).symm

/-- **Those that were told of success, or are about to be, are those that succeeded.** -/
theorem successes_of_trail (trail : Trail initial steps m) :
    successes (steps.flatMap Step.told ++ m.telling) = steps.flatMap Step.performed := by
  induction trail with
  | nil => rfl
  | snoc trail move ih =>
    have moved := successes_move (tidy_of_run trail.run) move
    rw [List.flatMap_append, List.flatMap_append, List.flatMap_singleton, List.flatMap_singleton,
      List.append_assoc, successes_append, moved, ← List.append_assoc, ← successes_append, ih]

/-! ### The end of a connection -/

/-- Nothing waits any more when the connection has ended and nothing is left to do. -/
theorem awaiting_of_settled (trail : Trail initial steps m)
    (atMost : steps.countP Step.isDial ≤ 1) (settled : m.Settled)
    (ended : m.endpoint.conn.isBroken = true) : m.awaiting = [] := by
  have gone := bare_of_trail trail atMost (Endpoint.not_live_of_terminal ended)
  rw [awaiting, gone, settled]
  rfl

/-- **When a connection has ended, all that asked were told once exactly if no step abandoned
anybody**; and those that were told of success are those whose line was taken and whose upgrade
was made. -/
theorem completions_settled (trail : Trail initial steps m)
    (atMost : steps.countP Step.isDial ≤ 1) (alone : ∀ step ∈ steps, step.asksAgain = false)
    (settled : m.Settled) (ended : m.endpoint.conn.isBroken = true) :
    (steps.flatMap Step.asked).Perm ((steps.flatMap Step.told).map Prod.fst ++
      steps.flatMap Step.abandoned) ∧
    ((steps.flatMap Step.asked).Perm ((steps.flatMap Step.told).map Prod.fst) ↔
      ∀ step ∈ steps, step.abandoned = []) ∧
    successes (steps.flatMap Step.told) = steps.flatMap Step.performed := by
  have ledger := ledger_of_trail trail atMost alone
  rw [awaiting_of_settled trail atMost settled ended, List.nil_append] at ledger
  refine ⟨ledger, ?_, ?_⟩
  · constructor
    · intro all
      have lengths := ledger.length_eq.symm.trans all.length_eq
      rw [List.length_append, Nat.add_eq_left, List.length_eq_zero_iff] at lengths
      exact List.flatMap_eq_nil_iff.mp lengths
    · intro none
      rw [List.flatMap_eq_nil_iff.mpr none, List.append_nil] at ledger
      exact ledger
  · have success := successes_of_trail trail
    rw [telling, settled] at success
    rw [← success]
    exact congrArg successes (List.append_nil _).symm

/-- Two lines that were held back are sent and the socket is made secure, before the connection is
made unusable. -/
def allDone : List (Choice Nat) :=
  bothSent ++ [.operate (.upgrade 4), .operate (.upgraded (.ok ())), .proceed, .leave,
    .operate (.writeLineWithRoom "C" 5), .operate .drained, .proceed, .proceed, .leave,
    .operate .setBroken]

/-- All that asked were told. -/
theorem all_done_told :
    (initial.track allDone).flatMap Step.asked = [.line 2, .line 3, .upgrade 4, .line 5] ∧
    ((initial.track allDone).flatMap Step.asked).Perm
      (((initial.track allDone).flatMap Step.told).map Prod.fst) := by
  have trail : Trail initial (initial.track allDone) (initial.play allDone).2 :=
    trail_play allDone .nil
  have once := completions_settled trail (by decide) (by decide) (by decide) (by decide)
  exact ⟨by decide, once.2.1.mpr (by decide)⟩

/-- Lines are held back and an upgrade is waited for when the connection is made unusable. -/
def brokenEarly : List (Choice Nat) :=
  twoHeld ++ [.operate (.upgrade 4), .operate .setBroken]

/-- Nobody is ever told. -/
theorem broken_early_untold : ∃ (steps : List (Step Nat)) (m : Machine Nat),
    Trail initial steps m ∧ steps.countP Step.isDial ≤ 1 ∧
    (∀ step ∈ steps, step.asksAgain = false) ∧ m.Settled ∧ m.endpoint.conn.isBroken = true ∧
    ¬ (steps.flatMap Step.asked).Perm ((steps.flatMap Step.told).map Prod.fst) := by
  have trail : Trail initial (initial.track brokenEarly) (initial.play brokenEarly).2 :=
    trail_play brokenEarly .nil
  exact ⟨_, _, trail, by decide, by decide, by decide, by decide, by decide⟩

end Machine

end SmtpLink
