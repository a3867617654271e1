import Mathlib.Data.List.Perm.Subperm
import SmtpLink.Proofs.Completions
import SmtpLink.Proofs.QuitOnce

/-!
# What goes over the wire after QUIT

A graceful close sends QUIT while lines may still be held back.  They keep waiting, and if the
queue drains before the close has ended they are written, behind QUIT.  Where nothing is submitted
any more, nothing else is: what the transport takes after QUIT are lines that waited when it was
sent, and QUIT again if another request has its turn.

## Main definitions

* `Label.isWriting` — the running code asks for a line or a command to be written.
* `Machine.Step.sentLines` — the lines that a step sends on its own.

## Main results

* `Machine.written_move` — a move at which nothing is submitted sends what waited, or QUIT.
* `Machine.waiting_move` — what waits keeps waiting, is sent or is dropped.
* `Machine.sent_after_quit` — **nothing follows QUIT if no line waits when it is sent**, and no
  other request has its turn; a line that waits follows it exactly if its turn comes before the
  close has ended.
-/

namespace SmtpLink

variable {H : Type}

/-- The operation asks for a line or a command to be written. -/
def Operation.isWriting : Operation H → Bool
  | .write _ _ _ | .writeCommands _ _ | .writeLine _ | .writeLineWithRoom _ _ => true
  | _ => false

/-- The running code asks for a line or a command to be written. -/
def Label.isWriting : Label H → Bool
  | .operate operation => operation.isWriting
  | _ => false

namespace Operation

variable {operation : Operation H}

theorem line?_of_not_writing (quiet : operation.isWriting = false) :
    (Work.perform operation).line? = none := by
  cases operation <;> first | rfl | exact absurd quiet (by simp [isWriting])

theorem scope_line_of_not_writing (quiet : operation.isWriting = false) :
    (Endpoint.operationScope operation).line = none := by
  cases operation <;> first | rfl | exact absurd quiet (by simp [isWriting])

end Operation

namespace Endpoint

variable {e : Endpoint H} {w : Work H}

theorem handed_of_line? (h : w.line? = none) : e.handed w = [] := by
  rw [handed, h]

/-- A line is written exactly if the transport takes it. -/
theorem isOk_writeLine (sound : e.Sound) (text : String) :
    (e.writeLine text).2.isOk = e.accepts text := by
  cases held : e.conn.phase.transport? with
  | none =>
    rw [writeLine, held, accepts, held]
    split
    · rfl
    · rfl
  | some id =>
    have peer := sound.peer (isLive_of_held held)
    have asked : (e.remark (.content text)).accepts text = e.accepts text :=
      accepts_of_same rfl rfl text
    rw [writeLine, if_neg (by simp [peer]), held, ← asked]
    dsimp only
    cases taken : (e.remark (.content text)).accepts text with
    | true =>
      obtain ⟨sent, given, -⟩ := sendBytes_of_accepts (e := e.remark (.content text)) held taken
      rw [given]
      rfl
    | false =>
      obtain ⟨left, err, refused, -⟩ :=
        sendBytes_of_not_accepts (e := e.remark (.content text)) held taken
      rw [refused]
      rfl

/-- A line that was held back is handed over exactly if the transport takes it. -/
theorem handed_sendDeferred_iff (sound : e.Sound) (d : Deferred H) :
    e.handed (.sendDeferred d) = [d] ↔ e.accepts d.line = true := by
  have handed : e.handed (.sendDeferred d) =
      if (e.writeLine d.line).1.written = e.written ++ [lineBytes d.line] then [d] else [] := rfl
  rw [handed, written_writeLine, isOk_writeLine sound]
  cases e.accepts d.line with
  | true => simp
  | false => simp

/-- Work that is not asked to write, and does not send QUIT, writes the line that it hands over. -/
theorem written_resume
    (quiet : ∀ operation, w = .perform operation → operation.isWriting = false)
    (unsent : w = .runTasks → e.runTasks.1.written = e.written) :
    (e.resume w).1.written = e.written ++ (e.handed w).map fun d => lineBytes d.line := by
  have within := (e.within_resume w).touches
  have silent (handed : e.handed w = []) (same : (e.resume w).1.written = e.written) :
      (e.resume w).1.written = e.written ++ (e.handed w).map fun d => lineBytes d.line := by
    rw [handed, List.map_nil, List.append_nil, same]
  cases w with
  | call handler notice => exact silent rfl rfl
  | perform operation =>
    have notAsked := quiet operation rfl
    exact silent (handed_of_line? (Operation.line?_of_not_writing notAsked))
      (within.written_eq (Operation.scope_line_of_not_writing notAsked))
  | dispatch => exact silent rfl (within.written_eq rfl)
  | sendDeferred d =>
    rcases within.written with same | ⟨data, line, wrote⟩
    · exact silent (handed_of_same same) same
    · obtain rfl : lineBytes d.line = data := by simpa [scope] using line
      rw [handed, Work.line?]
      dsimp only
      rw [if_pos wrote, wrote, List.map_singleton]
  | expectOne => exact silent rfl (within.written_eq rfl)
  | runTasks => exact silent rfl (unsent rfl)

end Endpoint

namespace Machine

variable {m n o : Machine H} {label : Label H} {steps steps' : List (Step H)}

namespace Step

/-- The lines that a step sends without being asked for it by the running code: a line that was
held back, or QUIT. -/
def sentLines (step : Step H) : List Bytes :=
  step.handed.map (fun d => Endpoint.lineBytes d.line) ++
    if step.sendsQuit then [Endpoint.lineBytes "QUIT"] else []

end Step

/-- Where QUIT is sent nothing is submitted, and no line is handed over. -/
theorem quiet_of_sendsQuit (sends : Step.sendsQuit ⟨m, label⟩ = true) :
    label.isWriting = false ∧ Step.handed ⟨m, label⟩ = [] := by
  obtain ⟨runs, -⟩ := beginsQuit_of_sendsQuit sends
  unfold Step.runsTasks at runs
  split at runs
  · next turn =>
    refine ⟨?_, ?_⟩
    · cases label with
      | operate operation => exact absurd turn (by simp [Step.work?])
      | _ => rfl
    · rw [Step.handed, turn]
      exact Endpoint.handed_of_line? rfl
  · exact absurd runs (by simp)

/-- Where nothing is submitted and QUIT is not sent, what is written is the line that is handed
over. -/
theorem written_of_unsent (tidy : m.Tidy) (move : Move Operation.Any m label n)
    (quiet : label.isWriting = false) (unsent : Step.sendsQuit ⟨m, label⟩ = false) :
    n.endpoint.written = m.endpoint.written ++
      (Step.handed ⟨m, label⟩).map fun d => Endpoint.lineBytes d.line := by
  cases move.turn with
  | @work _ _ w frames due =>
    rw [Step.handed, due.work?_eq]
    apply Endpoint.written_resume
    · rintro operation rfl
      cases due with
      | work => exact absurd (tidy.no_perform _ List.mem_cons_self) (by simp [Work.isPerform])
      | operate => exact quiet
    · rintro rfl
      have runs : Step.runsTasks ⟨m, label⟩ = true := by rw [Step.runsTasks, due.work?_eq]
      simpa [Step.sendsQuit, runs] using unsent
  | call => exact (List.append_nil _).symm
  | leave => exact (List.append_nil _).symm
  | outside outside =>
    rw [Endpoint.written, outside.trace_eq]
    exact (List.append_nil _).symm

/-- **A move at which nothing is submitted sends a line that waited, or QUIT.** -/
theorem written_move (tidy : m.Tidy) (move : Move Operation.Any m label n)
    (quiet : label.isWriting = false) :
    n.endpoint.written = m.endpoint.written ++ Step.sentLines ⟨m, label⟩ := by
  rw [Step.sentLines]
  cases sends : Step.sendsQuit ⟨m, label⟩ with
  | true =>
    rw [(quiet_of_sendsQuit sends).2]
    exact written_of_sendsQuit sends move
  | false =>
    rw [if_neg (by simp), List.append_nil]
    exact written_of_unsent tidy move quiet sends

/-- **What waits keeps waiting, is sent or is dropped** by a move at which nothing is submitted;
only a queue that drains changes the order. -/
theorem waiting_move (tidy : m.Tidy) (move : Move Operation.Any m label n)
    (quiet : label.isWriting = false) :
    (Step.handed ⟨m, label⟩ ++ n.waiting).Subperm m.waiting := by
  cases move.turn with
  | @work _ _ w frames due =>
    rw [Step.handed, due.work?_eq]
    cases due with
    | @work e w frames noCall =>
      exact (turn_of_work (tidy.no_perform w List.mem_cons_self) frames).subperm
    | @operate e operation frames =>
      have handed : e.handed (.perform operation) = [] :=
        Endpoint.handed_of_line? (Operation.line?_of_not_writing quiet)
      dsimp only
      rw [handed, List.nil_append]
      cases operation with
      | drained =>
        -- what was held back goes before what waits with the work
        rw [waiting_drained]
        exact List.perm_append_comm.subperm
      | writeLineWithRoom line handler =>
        exact absurd quiet (by simp [Label.isWriting, Operation.isWriting])
      | _ => exact (waiting_after rfl _).subperm
  | call => exact List.Subperm.refl _
  | leave => exact List.Subperm.refl _
  | @outside e e' frames outside =>
    have same : waiting ⟨e', frames⟩ = waiting ⟨e, frames⟩ := by
      rw [waiting, waiting, outside.conn_eq]
      rfl
    show (waiting ⟨e', frames⟩).Subperm _
    rw [same]

/-! ### Runs -/

theorem written_of_trail (trail : Trail initial steps m) (trail' : Trail m steps' n)
    (quiet : ∀ step ∈ steps', step.label.isWriting = false) :
    n.endpoint.written = m.endpoint.written ++ steps'.flatMap Step.sentLines := by
  refine trail'.invariant (P := fun steps' n =>
    (∀ step ∈ steps', step.label.isWriting = false) →
    n.endpoint.written = m.endpoint.written ++ steps'.flatMap Step.sentLines) ?_
    (fun _ => (List.append_nil _).symm) quiet
  intro before a b l trail' ih move quiet
  have tidy := tidy_of_run (trail.append trail').run
  rw [written_move tidy move (quiet ⟨a, l⟩ (List.mem_append_right _ List.mem_cons_self)),
    ih fun step mem => quiet step (List.mem_append_left _ mem), List.flatMap_append,
    List.flatMap_singleton, List.append_assoc]

theorem waiting_of_trail (trail : Trail initial steps m) (trail' : Trail m steps' n)
    (quiet : ∀ step ∈ steps', step.label.isWriting = false) :
    (steps'.flatMap Step.handed ++ n.waiting).Subperm m.waiting := by
  refine trail'.invariant (P := fun steps' n =>
    (∀ step ∈ steps', step.label.isWriting = false) →
    (steps'.flatMap Step.handed ++ n.waiting).Subperm m.waiting) ?_
    (fun _ => List.Subperm.refl _) quiet
  -- what was handed over so far, with what still waits, is a part of what waited at first
  intro before a b l trail' ih move quiet
  have tidy := tidy_of_run (trail.append trail').run
  have turn := waiting_move tidy move
    (quiet ⟨a, l⟩ (List.mem_append_right _ List.mem_cons_self))
  rw [List.flatMap_append, List.flatMap_singleton, List.append_assoc]
  exact ((List.subperm_append_left _).mpr turn).trans
    (ih fun step mem => quiet step (List.mem_append_left _ mem))

/-- After a graceful close had its turn, QUIT is sent only by a request that has its turn while
QUIT is in progress. -/
theorem repeatsQuit_of_trail (trail : Trail initial steps m) (trail' : Trail m steps' n)
    (closes : ∃ step ∈ steps, step.closes = true)
    (atMost : (steps ++ steps').countP Step.isDial ≤ 1) :
    ∀ step ∈ steps', step.sendsQuit = true → step.repeatsQuit = true := by
  refine trail'.invariant (P := fun steps' _ => (steps ++ steps').countP Step.isDial ≤ 1 →
    ∀ step ∈ steps', step.sendsQuit = true → step.repeatsQuit = true) ?_
    (fun _ step mem => absurd mem (by simp)) atMost
  intro before a b l trail' ih move atMost step mem sends
  rw [← List.append_assoc, List.countP_append] at atMost
  rcases List.mem_append.mp mem with mem | mem
  · apply ih
    · omega
    · exact mem
    · exact sends
  · obtain rfl := List.mem_singleton.mp mem
    obtain ⟨first, before', closed⟩ := closes
    exact repeatsQuit_of_sendsQuit (trail.append trail') (by omega)
      ⟨first, List.mem_append_left _ before', closed⟩ sends

/-- A line that waits while a graceful close is under way is handed over exactly if its turn comes
before the close has ended, and the transport takes it. -/
theorem handed_while_closing (sound : m.endpoint.Sound) (closing : m.endpoint.Closing)
    {d : Deferred H} (turn : Step.work? ⟨m, label⟩ = some (.sendDeferred d)) :
    Step.handed ⟨m, label⟩ = [d] ↔
      m.endpoint.conn.state = .shuttingDown ∧ m.endpoint.accepts d.line = true := by
  have given : Step.handed ⟨m, label⟩ = m.endpoint.handed (.sendDeferred d) := by
    rw [Step.handed, turn]
  rw [given, Endpoint.handed_sendDeferred_iff sound d]
  constructor
  · intro takes
    obtain ⟨id, held⟩ := Endpoint.held_of_accepts takes
    exact ⟨closing.quitting (Endpoint.isLive_of_held held), takes⟩
  · exact And.right

/-- **Nothing follows QUIT if no line waits when it is sent** and no other request has its turn
while it is in progress, in every run that opens the connection at most once and in which nothing
is submitted from then on.  Otherwise what follows it are lines that waited, each once at most,
and QUIT again.  A line whose turn comes follows QUIT exactly as long as the close has not ended
and the transport takes it. -/
theorem sent_after_quit (trail : Trail initial steps m) (move : Move Operation.Any m label n)
    (sends : Step.sendsQuit ⟨m, label⟩ = true) (trail' : Trail n steps' o)
    (atMost : (steps ++ ⟨m, label⟩ :: steps').countP Step.isDial ≤ 1)
    (quiet : ∀ step ∈ steps', step.label.isWriting = false) :
    (m.waiting = [] → (∀ step ∈ steps', step.repeatsQuit = false) →
      o.endpoint.written = m.endpoint.written ++ [Endpoint.lineBytes "QUIT"]) ∧
    o.endpoint.written = m.endpoint.written ++ [Endpoint.lineBytes "QUIT"] ++
      steps'.flatMap Step.sentLines ∧
    (steps'.flatMap Step.handed ++ o.waiting).Subperm m.waiting ∧
    (∀ step ∈ steps', step.sendsQuit = true → step.repeatsQuit = true) ∧
    ∀ d label', Step.work? ⟨o, label'⟩ = some (.sendDeferred d) →
      (Step.handed ⟨o, label'⟩ = [d] ↔
        o.endpoint.conn.state = .shuttingDown ∧ o.endpoint.accepts d.line = true) := by
  rw [List.append_cons] at atMost
  have sent : Trail initial (steps ++ [⟨m, label⟩]) n := trail.snoc move
  have closes : ∃ step ∈ steps ++ [⟨m, label⟩], step.closes = true :=
    ⟨_, List.mem_append_right _ List.mem_cons_self, (closes_of_sendsQuit sends).1⟩
  obtain ⟨quietNow, handedNow⟩ := quiet_of_sendsQuit sends
  have written := written_of_trail sent trail' quiet
  rw [written_of_sendsQuit sends move] at written
  have stays : n.waiting.Subperm m.waiting := by
    have turn := waiting_move (tidy_of_run trail.run) move quietNow
    rwa [handedNow, List.nil_append] at turn
  have waiting := (waiting_of_trail sent trail' quiet).trans stays
  have again := repeatsQuit_of_trail sent trail' closes atMost
  refine ⟨?_, written, waiting, again, ?_⟩
  · intro none calm
    -- no step hands a line over, and none sends QUIT
    rw [none, List.subperm_nil, List.append_eq_nil_iff, List.flatMap_eq_nil_iff] at waiting
    have nothing : steps'.flatMap Step.sentLines = [] := by
      rw [List.flatMap_eq_nil_iff]
      intro step mem
      have unsent : step.sendsQuit = false := by
        rw [Bool.eq_false_iff]
        intro sendsAgain
        exact absurd (again step mem sendsAgain) (by simp [calm step mem])
      rw [Step.sentLines, waiting.1 step mem, unsent]
      rfl
    rw [written, nothing, List.append_nil]
  · intro d label' turn
    have whole := sent.append trail'
    obtain ⟨first, mem, closed⟩ := closes
    exact handed_while_closing (sound_of_run whole.run)
      (closing_of_closes whole atMost ⟨first, List.mem_append_left _ mem, closed⟩) turn

/-- Two lines are held back and sent, and the connection is closed. -/
def sentThenClosed : List (Choice Nat) :=
  bothSent ++ [.operate .close, .operate .runScheduled]

/-- The queue drains again, and QUIT is answered. -/
def answered : List (Choice Nat) :=
  [.proceed, .operate .drained, .operate (.input [50, 50, 49, 32, 98, 121, 101, 13, 10]), .proceed,
    .proceed]

/-- QUIT is the last thing that goes over the wire. -/
theorem nothing_after_quit :
    (((initial.play sentThenClosed).2.play [.proceed]).2.play answered).2.endpoint.written =
      (initial.play sentThenClosed).2.endpoint.written ++ [Endpoint.lineBytes "QUIT"] := by
  have trail : Trail initial (initial.track sentThenClosed) (initial.play sentThenClosed).2 :=
    trail_play sentThenClosed .nil
  have turn : (initial.play sentThenClosed).2.advance .proceed =
      some (.work, ((initial.play sentThenClosed).2.play [.proceed]).2) := rfl
  have after := sent_after_quit trail (move_of_advance turn) (by decide) (trail_play answered .nil)
    (by decide) (by decide)
  exact after.1 (by decide) (by decide)

/-- A line is held back by a socket whose queue is full. -/
def oneHeld : List (Choice Nat) :=
  [.operate (.dial (Config.build "mail" []) 0 1), .operate (.connected (.manual { full := true })),
    .operate (.writeLineWithRoom "A" 2)]

/-- The connection is closed while the line waits, and QUIT is sent. -/
def closedWhileHeld : Machine Nat :=
  (((initial.play oneHeld).2.performed .close).play
    [.operate .runScheduled, .proceed, .proceed]).2

/-- QUIT is in progress, and the transport has room again. -/
def roomAfterQuit : Machine Nat :=
  ⟨closedWhileHeld.endpoint.setTransport 0 (.manual {}), closedWhileHeld.frames⟩

/-- The line follows QUIT, although nothing is submitted once the close was asked for. -/
theorem line_after_quit : ∃ (before after : List (Step Nat)) (m n : Machine Nat),
    Trail initial (before ++ ⟨m, .operate .close⟩ :: after) n ∧
    (∀ step ∈ after, step.label.isWriting = false) ∧
    n.endpoint.written = [Endpoint.lineBytes "QUIT", Endpoint.lineBytes "A"] := by
  have held : Trail initial (initial.track oneHeld) (initial.play oneHeld).2 :=
    trail_play oneHeld .nil
  have asked : (initial.play oneHeld).2.advance (.operate .close) =
      some (.operate .close, (initial.play oneHeld).2.performed .close) := rfl
  have sent := trail_play [.operate .runScheduled, .proceed, .proceed]
    (held.snoc (move_of_advance asked))
  have drifts : Move Operation.Any closedWhileHeld .outside roomAfterQuit :=
    .drift (t := .manual { full := true }) rfl (.switches _ _)
  have drained := trail_play [.operate .drained, .proceed] (sent.snoc drifts)
  rw [List.append_assoc, List.append_assoc, List.append_assoc] at drained
  exact ⟨_, _, _, _, drained, by decide, by decide⟩

end Machine

end SmtpLink
