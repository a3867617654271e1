import SmtpLink.Proofs.Endings

/-!
# What the listener hears of the end of an operation

The pool counts on hearing of each operation's end once, and on nothing of it being left behind.
A connection that breaks reports so, once.  But it does not remember that it has reported: to give
back a connection that can no longer be used reports the end of an operation again.  When the end
is reported nobody waits for a reply any more, with one exception: the handler of the greeting
goes on waiting if a connection is given back before its socket is there.

## Main definitions

* `Endpoint.deadEnds` — how often the end of an operation was reported of an unusable connection.
* `Machine.Step.returnsDead` — a step that gives back a connection that can no longer be used.
* `Machine.Owes` — a handler of the application waits for replies, or is about to get them.
* `Machine.Clean` — only a greeting is owed: replies are for handlers that ask for them later.
* `Machine.Treats` — what a move does to the operation in progress.

## Main results

* `Machine.owes_of_run` — **who is owed replies has asked for them.**
* `Machine.dead_end_told_once` — **the end of an operation is reported once of an unusable
  connection**, and once more for each time that it is given back.
* `Machine.nothing_pending_at_end` — **nobody waits for a reply when the end of an operation is
  reported**, nor is called with one later, but for the greeting of a connection that is given
  back before its socket is there.
-/

namespace SmtpLink

variable {H : Type}

/-- The handler that begins to wait for replies with a move. -/
def Label.asker? (label : Label H) : Option H := label.request?.bind ReplyHandler.asker?

namespace Phase

variable {phase : Phase H}

/-- If nobody waits over the socket, only who waits for a greeting without one is left. -/
theorem asker?_of_no_slot (h : phase.slot? = none) : phase.asker? = phase.greeter? := by
  cases phase with
  | live usage id slot =>
    obtain rfl : slot = none := h
    rfl
  | _ => rfl

theorem slot?_setSlot_none (phase : Phase H) : (phase.setSlot none).slot? = none := by
  cases phase <;> rfl

theorem hasPendingReply_setSlot_none :
    (phase.setSlot none).hasPendingReply = true ↔ phase.state = .connecting := by
  cases phase <;> simp [setSlot, hasPendingReply, state]

end Phase

namespace Endpoint

variable {e : Endpoint H}

/-- How often the listener has heard of the end of an operation and seen a connection that can no
longer be used. -/
def deadEnds (e : Endpoint H) : ℕ := e.ends.countP View.broken

/-- An operation that ends with the connection usable is reported with the slot emptied. -/
theorem ends_giveBack (e : Endpoint H) :
    (e.remark .returned).giveBack.ends = e.ends ++ [(e.setSlot none).conn.view] := by
  show (((e.remark .returned).setSlot none).emit _).ends = _
  rw [ends_emit]
  exact congrArg (· ++ _) (ends_remark e .returned)

/-- To give a connection back reports the end of an operation, whatever its state. -/
theorem deadEnds_giveBack (e : Endpoint H) : (e.remark .returned).giveBack.deadEnds =
    e.deadEnds + if e.conn.state.isTerminal then 1 else 0 := by
  have broken : (e.setSlot none).conn.view.broken = e.conn.state.isTerminal :=
    congrArg ConnectionState.isTerminal (Phase.state_setSlot e.conn.phase none)
  rw [deadEnds, ends_giveBack, List.countP_append, List.countP_singleton, broken]
  rfl

end Endpoint

namespace Machine

variable {admitted : Operation H → Prop} {m n : Machine H} {label : Label H}
  {labels : List (Label H)} {steps : List (Step H)} {h : H}

/-! ### Owing replies -/

/-- The handlers that began to wait for replies in the course of a run. -/
def askers (labels : List (Label H)) : List H := labels.filterMap Label.asker?

/-- A handler of the application waits for replies, or is about to be called with some. -/
def Owes (m : Machine H) (h : H) : Prop :=
  m.endpoint.conn.phase.asker? = some h ∨
    ∃ notice : Notice, notice.isReplies = true ∧ .work (.call h notice) ∈ m.frames

/-- Only a greeting is owed: whoever else is handed replies from here on asks for them from here
on. -/
def Clean (m : Machine H) : Prop :=
  ∀ (labels : List (Label H)) (n o : Machine H) (h : H) (notice : Notice),
    Run Operation.Any m labels n → Move Operation.Any n (.call h notice) o →
    notice.isReplies = true → h ∈ askers labels ∨ m.endpoint.conn.phase.greeter? = some h

/-- What a move does to the operation in progress. -/
inductive Treats (m : Machine H) : Label H → Machine H → Prop
  /-- The connection is opened. -/
  | opens {n : Machine H} {config : Config} {greeting onError : H}
      (opened : n.endpoint = m.endpoint.dial config greeting onError) :
      Treats m (.operate (.dial config greeting onError)) n
  /-- The operation ends, since the connection is given back. -/
  | givesBack {n : Machine H} (notIdle : m.endpoint.conn.isIdle = false)
      (notRequested : m.endpoint.conn.shutdownRequested = false)
      (given : n.endpoint = (m.endpoint.remark .returned).giveBack) :
      Treats m (.operate .returnToPool) n
  /-- The operation goes on, or ends with the connection broken. -/
  | proceeds {label : Label H} {n : Machine H} (notDial : label.isDial = false)
      (kept : label = .operate .returnToPool →
        (m.endpoint.conn.isIdle = true ∨ m.endpoint.conn.shutdownRequested = true) ∧
          n.endpoint.ends = m.endpoint.ends)
      (proceeds : m.endpoint.Proceeds label.asker? n.endpoint) : Treats m label n

theorem treats_move (tidy : m.Tidy) (move : Move admitted m label n) : Treats m label n := by
  cases move.turn with
  | @work _ _ w frames due =>
    cases due with
    | @work e w frames noCall =>
      have inner : w.isPerform = false := tidy.no_perform w List.mem_cons_self
      have proceeds : e.Proceeds w.asker? (e.resume w).1 :=
        e.proceeds_resume w (by cases w <;> simp_all [Work.isDial, Work.isPerform])
          (by rintro rfl; exact absurd inner (by simp [Work.isPerform]))
      refine .proceeds rfl (fun same => absurd same (by simp)) ?_
      have silent : w.asker? = none := by cases w <;> simp_all [Work.asker?, Work.isPerform]
      rw [silent] at proceeds
      exact proceeds
    | @operate e operation frames =>
      by_cases returns : operation = .returnToPool
      · subst returns
        rcases e.returnToPool_cases with ⟨kept, effects, same⟩ | ⟨notIdle, notRequested, given⟩
        · exact .proceeds rfl (fun _ => ⟨kept, same⟩) effects.proceeds_of_quiet
        · exact .givesBack notIdle notRequested (congrArg Prod.fst given)
      · cases dial : (Work.perform operation).isDial with
        | true =>
          cases operation with
          | dial config greeting onError => exact .opens rfl
          | _ => exact absurd dial (by simp [Work.isDial])
        | false =>
          refine .proceeds ?_ (fun same => absurd (Label.operate.inj same) returns)
            (e.proceeds_perform operation dial returns)
          cases operation <;> first | rfl | exact dial
  | call => exact .proceeds rfl (fun same => absurd same (by simp)) (.refl _)
  | leave => exact .proceeds rfl (fun same => absurd same (by simp)) (.refl _)
  | outside outside =>
    exact .proceeds rfl (fun same => absurd same (by simp))
      (.of_conn outside.conn_eq (Endpoint.ends_of_trace outside.trace_eq))

/-- What is due after a move was due before, or is left by what the move does. -/
theorem due_of_move (move : Move admitted m label n) {notice : Notice}
    (replies : notice.isReplies = true) (due : .work (.call h notice) ∈ n.frames) : m.Owes h := by
  cases move.turn with
  | @work _ _ w frames done =>
    simp only [after, List.mem_append, List.mem_map, Frame.work.injEq, exists_eq_right] at due
    rcases due with left | below
    · exact .inl (Endpoint.asker?_of_mem_resume left replies)
    · exact .inr ⟨notice, replies, (done.frames_of_mem below).1⟩
  | call => exact .inr ⟨notice, replies, List.mem_cons_of_mem _ (by simpa using due)⟩
  | leave => exact .inr ⟨notice, replies, List.mem_cons_of_mem _ due⟩
  | outside => exact .inr ⟨notice, replies, due⟩

/-- Who is owed replies after a move was owed them before, or asks for them with the move. -/
theorem owes_move (tidy : m.Tidy) (move : Move admitted m label n) (owes : n.Owes h) :
    m.Owes h ∨ label.asker? = some h := by
  rcases owes with waits | ⟨notice, replies, due⟩
  · cases treats_move tidy move with
    | opens opened =>
      rw [opened] at waits
      exact .inr waits
    | givesBack notIdle notRequested given =>
      rw [given] at waits
      have waits := (Phase.asker?_setSlot_none m.endpoint.conn.phase).symm.trans waits
      exact .inl (.inl (Phase.asker?_of_greeter? waits))
    | proceeds notDial kept proceeds => exact (proceeds.asker h waits).imp_left .inl
  · exact .inl (due_of_move move replies due)

/-- **Who is owed replies has asked for them.** -/
theorem owes_of_run (tidy : m.Tidy) (run : Run admitted m labels n) (owes : n.Owes h) :
    m.Owes h ∨ h ∈ askers labels := by
  induction run with
  | nil => exact .inl owes
  | @snoc k n ls label run move ih =>
    have tidy' : k.Tidy := run.invariant tidy_move tidy
    rw [askers, List.filterMap_append, List.mem_append]
    rcases owes_move tidy' move owes with before | asks
    · exact (ih before).imp_right .inl
    · exact .inr (.inr (by simp [asks]))

theorem clean_of_owes (tidy : m.Tidy)
    (greeter : ∀ h, m.Owes h → m.endpoint.conn.phase.greeter? = some h) : m.Clean := by
  intro labels n o h notice run move replies
  have owes : n.Owes h := by
    cases move with
    | call => exact .inr ⟨notice, replies, List.mem_cons_self⟩
  exact ((owes_of_run tidy run owes).imp_left (greeter h)).symm

/-- Operations do not hand out replies themselves. -/
theorem no_replies_due_of_operate {operation : Operation H} (tidy : m.Tidy)
    (move : Move admitted m (.operate operation) n) {notice : Notice}
    (replies : notice.isReplies = true) : .work (.call h notice) ∉ n.frames := by
  intro due
  cases move with
  | @operate e operation frames isAdmitted =>
    simp only [List.mem_append, List.mem_map, Frame.work.injEq, exists_eq_right] at due
    rcases due with left | below
    · exact absurd ((e.leaves_perform operation).replies_of_isReplyCall left replies) (by simp)
    · exact absurd (tidy.no_call _ (by simpa using below)) (by simp [Work.isCall])

/-- An operation after which nobody waits over the socket leaves only a greeting owed. -/
theorem clean_of_operate {operation : Operation H} (tidy : m.Tidy)
    (move : Move admitted m (.operate operation) n)
    (empty : n.endpoint.conn.phase.slot? = none) : n.Clean := by
  apply clean_of_owes (tidy_move tidy move)
  rintro h (waits | ⟨notice, replies, due⟩)
  · rw [← Phase.asker?_of_no_slot empty, waits]
  · exact absurd due (no_replies_due_of_operate tidy move replies)

/-- Nothing is owed by a connection that can no longer be used. -/
theorem clean_of_terminal (tidy : m.Tidy) (terminal : m.endpoint.conn.state.isTerminal = true) :
    m.Clean := by
  apply clean_of_owes tidy
  rintro h (waits | ⟨notice, replies, due⟩)
  · rw [Phase.asker?_of_terminal terminal] at waits
    exact absurd waits (by simp)
  · have live := tidy.replies_live _ due replies
    rw [Endpoint.not_live_of_terminal terminal] at live
    exact absurd live (by simp)

/-! ### Dead ends -/

/-- A step that gives back a connection that can no longer be used. -/
def Step.returnsDead (step : Step H) : Bool :=
  match step.label with
  | .operate .returnToPool =>
    step.before.endpoint.conn.isBroken && !step.before.endpoint.conn.shutdownRequested
  | _ => false

theorem Step.returnsDead_of_ne (h : label ≠ .operate .returnToPool) :
    Step.returnsDead ⟨m, label⟩ = false := by
  cases label with
  | operate operation =>
    cases operation with
    | returnToPool => exact absurd rfl h
    | _ => rfl
  | _ => rfl

/-- Once a connection can no longer be used, the end of an operation is reported only when it is
given back. -/
theorem deadEnds_move_of_terminal (tidy : m.Tidy) (move : Move admitted m label n)
    (notDial : label.isDial = false) (terminal : m.endpoint.conn.state.isTerminal = true) :
    n.endpoint.conn.state = m.endpoint.conn.state ∧ n.endpoint.deadEnds =
      m.endpoint.deadEnds + if Step.returnsDead ⟨m, label⟩ then 1 else 0 := by
  cases treats_move tidy move with
  | opens opened => exact absurd notDial (by simp [Label.isDial])
  | givesBack notIdle notRequested given =>
    have state : n.endpoint.conn.state = m.endpoint.conn.state := by
      rw [given]
      exact Phase.state_setSlot _ _
    have dead : Step.returnsDead ⟨m, .operate .returnToPool⟩ = true := by
      simp [Step.returnsDead, Connection.isBroken, terminal, notRequested]
    refine ⟨state, ?_⟩
    rw [given, Endpoint.deadEnds_giveBack, terminal, dead]
  | proceeds notDial kept proceeds =>
    obtain ⟨state, same⟩ := proceeds.terminal terminal
    have alive : Step.returnsDead ⟨m, label⟩ = false := by
      by_cases returns : label = .operate .returnToPool
      · -- an unusable connection is not idle, so a graceful close is due
        subst returns
        have idle : m.endpoint.conn.isIdle = false := by
          rw [Connection.isIdle]
          cases hs : m.endpoint.conn.state <;> simp_all [ConnectionState.isTerminal]
        simp [Step.returnsDead, (kept rfl).1.resolve_left (by simp [idle])]
      · exact Step.returnsDead_of_ne returns
    refine ⟨state, ?_⟩
    rw [Endpoint.deadEnds, same, alive]
    rfl

/-- As long as a connection can be used, the end of an operation is reported of a dead connection
only as that connection breaks. -/
theorem deadEnds_move_of_usable (tidy : m.Tidy) (move : Move admitted m label n)
    (usable : m.endpoint.conn.state.isTerminal = false) :
    n.endpoint.deadEnds = m.endpoint.deadEnds ∨
      n.endpoint.deadEnds = m.endpoint.deadEnds + 1 ∧ n.endpoint.conn.state = .broken := by
  cases treats_move tidy move with
  | opens opened =>
    rw [opened, Endpoint.deadEnds, Endpoint.ends_dial]
    exact .inl rfl
  | givesBack notIdle notRequested given =>
    rw [given, Endpoint.deadEnds_giveBack, usable]
    exact .inl rfl
  | proceeds notDial kept proceeds =>
    rcases proceeds.ends with same | ⟨broken, c, phase, told⟩
    · rw [Endpoint.deadEnds, same]
      exact .inl rfl
    · have dead : c.view.broken = true := by
        show c.phase.state.isTerminal = true
        rw [phase]
        rfl
      rw [Endpoint.deadEnds, told, List.countP_append, List.countP_singleton, dead]
      exact .inr ⟨rfl, broken⟩

/-- The breaking of a connection reports the end of an operation at most once; every other report
of an unusable connection is made as it is given back. -/
theorem deadEnds_of_trail (trail : Trail initial steps m)
    (atMost : steps.countP Step.isDial ≤ 1) :
    m.endpoint.deadEnds = steps.countP Step.returnsDead ∨
      m.endpoint.deadEnds = steps.countP Step.returnsDead + 1 ∧
        m.endpoint.conn.state = .broken := by
  generalize hs : (initial : Machine H) = start at trail
  induction trail with
  | nil =>
    subst hs
    exact .inl rfl
  | @snoc k n steps label trail move ih =>
    subst hs
    have tidy := tidy_of_run trail.run
    have before : steps.countP Step.isDial ≤ 1 := by
      rw [List.countP_append] at atMost
      omega
    rw [List.countP_append, List.countP_singleton]
    cases terminal : k.endpoint.conn.state.isTerminal with
    | true =>
      cases dial : label.isDial with
      | true =>
        -- only a connection that is closed is opened, and so it has not broken
        rw [← countP_map_label, List.map_append] at atMost
        have closed := closed_of_run trail.run (unopened_of_isDial atMost dial)
        have told := (ih before).resolve_right fun broken => by simp [closed] at broken
        have opened : Step.returnsDead ⟨k, label⟩ = false :=
          Step.returnsDead_of_ne (by rintro rfl; exact absurd dial (by simp [Label.isDial]))
        obtain ⟨config, greeting, onError, same⟩ := move.of_isDial dial
        rw [opened, same, Endpoint.deadEnds, Endpoint.ends_dial]
        exact .inl told
      | false =>
        obtain ⟨state, counted⟩ := deadEnds_move_of_terminal tidy move dial terminal
        rw [state, counted]
        rcases ih before with told | ⟨told, broken⟩
        · exact .inl (by omega)
        · exact .inr ⟨by omega, broken⟩
    | false =>
      -- a connection that can be used has not broken
      have told := (ih before).resolve_right fun broken => by
        rw [broken.2] at terminal
        exact absurd terminal (by simp [ConnectionState.isTerminal])
      have alive : Step.returnsDead ⟨k, label⟩ = false := by
        unfold Step.returnsDead
        split
        · simp [Connection.isBroken, terminal]
        · rfl
      rw [alive, ← told]
      exact deadEnds_move_of_usable tidy move terminal

/-- **The end of an operation is reported at most once of a connection that can no longer be
used**, in a run that opens it at most once, unless the connection is given back then: each time
that it is, the end of an operation is reported again.  Nothing else reports it of such a
connection. -/
theorem dead_end_told_once (trail : Trail initial steps m)
    (atMost : steps.countP Step.isDial ≤ 1) :
    (m.endpoint.deadEnds = steps.countP Step.returnsDead ∨
      m.endpoint.deadEnds = steps.countP Step.returnsDead + 1 ∧
        m.endpoint.conn.state = .broken) ∧
    ((∀ step ∈ steps, step.returnsDead = false) → m.endpoint.deadEnds ≤ 1) ∧
    ∀ label n, Move Operation.Any m label n → label.isDial = false →
      m.endpoint.conn.state.isTerminal = true → n.endpoint.deadEnds =
        m.endpoint.deadEnds + if Step.returnsDead ⟨m, label⟩ then 1 else 0 := by
  have told := deadEnds_of_trail trail atMost
  refine ⟨told, fun none => ?_, fun label n move notDial terminal =>
    (deadEnds_move_of_terminal (tidy_of_run trail.run) move notDial terminal).2⟩
  have counted : steps.countP Step.returnsDead = 0 :=
    List.countP_eq_zero.mpr fun step mem => by simp [none step mem]
  rcases told with same | ⟨more, -⟩
  · omega
  · omega

/-- The greeting has come and its handler has returned; then the socket fails, and the handler for
errors is called. -/
def faultAtRest : List (Choice Nat) :=
  [.operate (.dial (Config.build "mail" []) 0 1), .operate (.connected (.manual {})),
    .operate (.input [50, 50, 48, 32, 104, 105, 13, 10]), .proceed, .proceed, .leave, .proceed,
    .operate (.fault .closedByServer), .proceed]

/-- A fault reports the end of the operation once, and to make the connection unusable then does
not report it again. -/
theorem fault_at_rest_told_once :
    (initial.play (faultAtRest ++ [.operate .setBroken])).2.endpoint.deadEnds = 1 := by
  have start : Trail (initial : Machine Nat) [] initial := .nil
  have trail := trail_play (faultAtRest ++ [.operate .setBroken]) start
  have once := (dead_end_told_once trail (by decide)).2.1 (by decide)
  have told : 0 < (initial.play (faultAtRest ++ [.operate .setBroken])).2.endpoint.deadEnds := by
    decide
  omega

/-- **The end of an operation is reported twice** if the handler for errors gives back the
connection that the fault has broken. -/
theorem dead_end_told_twice : ∃ (steps : List (Step Nat)) (m : Machine Nat),
    Trail initial steps m ∧ steps.countP Step.isDial = 1 ∧ m.endpoint.deadEnds = 2 :=
  ⟨_, _, trail_play (faultAtRest ++ [.operate .returnToPool]) .nil, by decide, by decide⟩

/-! ### What is left behind -/

/-- **Nobody waits for a reply when the end of an operation is reported**, and who is called with
replies afterwards has asked for them afterwards.  A connection that is given back before its
socket is there is the one exception: the handler of the greeting goes on waiting. -/
theorem nothing_pending_at_end (run : Run Operation.Any initial labels m)
    (move : Move Operation.Any m label n) :
    n.endpoint.ends = m.endpoint.ends ∨ ∃ view, n.endpoint.ends = m.endpoint.ends ++ [view] ∧
      (view.pendingReply = true ↔
        label = .operate .returnToPool ∧ m.endpoint.conn.state = .connecting) ∧
      n.endpoint.conn.hasPendingReply = view.pendingReply ∧ n.Clean := by
  have tidy := tidy_of_run run
  cases treats_move tidy move with
  | opens opened =>
    left
    rw [opened, Endpoint.ends_dial]
  | givesBack notIdle notRequested given =>
    have phase : n.endpoint.conn.phase = m.endpoint.conn.phase.setSlot none := by rw [given]; rfl
    have empty : n.endpoint.conn.phase.slot? = none := by rw [phase, Phase.slot?_setSlot_none]
    refine .inr ⟨(m.endpoint.setSlot none).conn.view, ?_, ?_, ?_, clean_of_operate tidy move empty⟩
    · rw [given, Endpoint.ends_giveBack]
    · exact Phase.hasPendingReply_setSlot_none.trans ⟨fun state => ⟨rfl, state⟩, And.right⟩
    · rw [Connection.hasPendingReply, phase]
      rfl
  | proceeds notDial kept proceeds =>
    rcases proceeds.ends with same | ⟨broken, c, phase, told⟩
    · exact .inl same
    have terminal : n.endpoint.conn.state.isTerminal = true := by rw [broken]; rfl
    have silent : c.view.pendingReply = false := by
      show c.phase.hasPendingReply = false
      rw [phase]
      rfl
    have gone : n.endpoint.conn.hasPendingReply = false := by
      cases hp : n.endpoint.conn.phase <;> simp_all [Connection.hasPendingReply, Connection.state,
        Phase.state, Phase.hasPendingReply]
    refine .inr ⟨c.view, told, ?_, gone.trans silent.symm,
      clean_of_terminal (tidy_move tidy move) terminal⟩
    rw [silent]
    refine iff_of_false (by simp) fun both => ?_
    -- what is given back without an end does not break either
    rw [(kept both.1).2] at told
    exact absurd told (by simp)

/-- The connection is opened, and its socket is not there yet. -/
def justOpened : List (Choice Nat) := [.operate (.dial (Config.build "mail" []) 0 1)]

/-- The socket is there, and the greeting is waited for. -/
def justConnected : List (Choice Nat) := justOpened ++ [.operate (.connected (.manual {}))]

/-- If the connection is given back before the greeting has come, nobody waits for it any more. -/
theorem just_connected_given_back : ∃ view,
    ((initial.play justConnected).2.performed .returnToPool).endpoint.ends = [view] ∧
    view.pendingReply = false ∧ ((initial.play justConnected).2.performed .returnToPool).Clean := by
  have run := run_play initial justConnected
  have move : Move Operation.Any (initial.play justConnected).2 (.operate .returnToPool)
      ((initial.play justConnected).2.performed .returnToPool) := .operate trivial
  rcases nothing_pending_at_end run move with same | ⟨view, told, pending, -, clean⟩
  · exact absurd same (by decide)
  · refine ⟨view, told, ?_, clean⟩
    rw [← Bool.not_eq_true, pending]
    exact fun both => absurd both.2 (by decide)

/-- **The handler of the greeting waits on** if the connection is given back before its socket is
there, and is called with the greeting after the end of its operation was reported. -/
theorem greeter_pending_at_end : ∃ (labels labels' : List (Label Nat)) (m n o : Machine Nat)
    (view : View), Run Operation.Any initial labels m ∧
      Move Operation.Any m (.operate .returnToPool) n ∧
      n.endpoint.ends = m.endpoint.ends ++ [view] ∧ view.pendingReply = true ∧
      Run Operation.Any n labels' o ∧ askers labels' = [] ∧
      labels'.any Label.isReplyCall = true :=
  ⟨_, _, _, _, _, _, run_play initial justOpened, .operate trivial, rfl, rfl,
    run_play _ [.operate (.connected (.manual {})),
      .operate (.input [50, 50, 48, 32, 104, 105, 13, 10]), .proceed, .proceed],
    by decide, by decide⟩

end Machine

end SmtpLink
