import SmtpLink.Proofs.Deferral
import SmtpLink.Proofs.Play

/-!
# Deferred tasks run in order

A task may be deferred at any time, by running tasks too, and a running task may run the tasks that
are deferred meanwhile.  However deep such runs are nested, all of them take the oldest task from
one queue.  So the tasks start in the order in which they were deferred, each once; and since a run
ends only when it finds the queue empty, none is left when it returns.

## Main definitions

* `Machine.Step.deferred`, `Machine.Step.started` — the tasks that a step defers and starts.
* `Machine.inProgress` — the calls that have not returned.
* `Machine.Nested` — every deferred task in progress was called by a run of the deferred tasks.
* `Machine.Returns` — the code that has asked for something goes on.
* `Machine.Sweeping` — a run of the deferred tasks is in progress, or has left none.

## Main results

* `Machine.tasks_of_trail` — **the tasks deferred are those started and those that wait, in this
  order.**
* `Machine.tasks_run_in_order` — **deferred tasks run once each, in order**, and all of them have
  run when the deferred tasks were run.
-/

namespace SmtpLink

variable {H : Type}

namespace Label

/-- What the calls in progress are after a step, innermost first: a call has begun, or the innermost
one has returned. -/
def shift (calls : List Notice) : Label H → List Notice
  | .call _ notice => notice :: calls
  | .leave => calls.tail
  | _ => calls

end Label

namespace Machine

variable {admitted : Operation H → Prop} {k m n : Machine H} {label : Label H}
  {frames : List (Frame H)} {calls : List Notice} {steps inner : List (Step H)}

/-! ### The order of the tasks -/

namespace Step

/-- The task that a step defers: one at most. -/
def deferred (step : Step H) : List (Task H) :=
  match step.work? with
  | some w => (step.before.endpoint.deferral? w).toList
  | none => []

/-- The task that a step starts: one at most.  A task of the application is called, and a graceful
close is carried out. -/
def started (step : Step H) : List (Task H) :=
  match step.label with
  | .call handler notice => (Work.call handler notice).task?.toList
  | _ => match step.work? with
    | some w => (step.before.endpoint.closing? w).toList
    | none => []

end Step

/-- The deferred task that is called next, if there is one. -/
def called (m : Machine H) : List (Task H) := m.frames.filterMap Frame.task?

theorem called_after (e : Endpoint H) (w : Work H) (frames : List (Frame H)) :
    (after e w frames).called =
      (e.resume w).2.filterMap Work.task? ++ frames.filterMap Frame.task? := by
  have same : (Frame.task? ∘ Frame.work : Work H → Option (Task H)) = Work.task? := rfl
  rw [called, frames_after, List.filterMap_append, List.filterMap_map, same]

/-- No task is called where no call is due. -/
theorem filterMap_task?_eq_nil (noCall : ∀ w, .work w ∈ frames → w.isCall = false) :
    frames.filterMap Frame.task? = [] := by
  rw [List.filterMap_eq_nil_iff]
  intro frame mem
  cases frame with
  | work w => exact Work.task?_eq_none (noCall w mem)
  | code => rfl

/-- Where work is done, no task is called next. -/
theorem called_of_due {w : Work H} (tidy : m.Tidy) (due : Due m label w frames) :
    m.called = [] ∧ frames.filterMap Frame.task? = [] := by
  constructor
  · apply filterMap_task?_eq_nil
    intro v mem
    rcases due.of_mem mem with rfl | below
    · cases due with
      | work noCall => exact noCall
      | operate => rfl
    · exact (due.frames_of_mem below).2 tidy
  · apply filterMap_task?_eq_nil
    intro v mem
    exact (due.frames_of_mem mem).2 tidy

theorem started_of_due {w : Work H} (due : Due m label w frames) :
    Step.started ⟨m, label⟩ = (m.endpoint.closing? w).toList := by
  cases due <;> rfl

/-- **A step keeps the tasks in their order**: what it defers comes last, and what it starts came
first. -/
theorem tasks_move (tidy : m.Tidy) (move : Move admitted m label n) :
    m.called ++ m.endpoint.conn.scheduled ++ Step.deferred ⟨m, label⟩ =
      Step.started ⟨m, label⟩ ++ (n.called ++ n.endpoint.conn.scheduled) := by
  cases move.turn with
  | @work _ _ w frames due =>
    -- calls stand before all other work, so none waits where work is done
    obtain ⟨none, below⟩ := called_of_due tidy due
    have deferred : Step.deferred ⟨m, label⟩ = (m.endpoint.deferral? w).toList := by
      rw [Step.deferred, due.work?_eq]
    rw [none, deferred, started_of_due due, called_after, below, List.append_nil, List.nil_append]
    exact m.endpoint.tasks_resume w
  | @call e handler notice frames =>
    have first : called ⟨e, .work (.call handler notice) :: frames⟩ =
        (Work.call handler notice).task?.toList ++ called ⟨e, .code :: frames⟩ := by
      show (Frame.work (.call handler notice) :: frames).filterMap Frame.task? =
        _ ++ frames.filterMap Frame.task?
      rw [List.filterMap_cons]
      cases notice <;> rfl
    show called _ ++ e.conn.scheduled ++ [] = (Work.call handler notice).task?.toList ++ _
    rw [first, List.append_nil, List.append_assoc]
  | leave => exact List.append_nil _
  | @outside e e' frames outside =>
    show called ⟨e, frames⟩ ++ e.conn.scheduled ++ [] = called ⟨e, frames⟩ ++ e'.conn.scheduled
    rw [List.append_nil, outside.conn_eq]

/-- **The tasks deferred are those started and those that wait, in this order.** -/
theorem tasks_of_trail (trail : Trail initial steps m) :
    steps.flatMap Step.deferred =
      steps.flatMap Step.started ++ (m.called ++ m.endpoint.conn.scheduled) := by
  induction trail with
  | nil => rfl
  | @snoc a b before l trail move ih =>
    have moved := tasks_move (tidy_of_run trail.run) move
    rw [List.flatMap_append, List.flatMap_append, List.flatMap_singleton, List.flatMap_singleton,
      ih, List.append_assoc, moved, List.append_assoc]

/-- A task is the first of those that wait when it starts. -/
theorem first_of_started {task : Task H} (tidy : m.Tidy) (move : Move admitted m label n)
    (starts : task ∈ Step.started ⟨m, label⟩) :
    ∃ rest, m.called ++ m.endpoint.conn.scheduled = task :: rest := by
  cases move.turn with
  | @work _ _ w frames due =>
    -- a graceful close is taken from the queue, and nothing is about to be called
    rw [started_of_due due, Option.mem_toList] at starts
    rw [(called_of_due tidy due).1, List.nil_append]
    unfold Endpoint.closing? at starts
    split at starts
    · split at starts
      · next rest oldest =>
        obtain rfl := Option.some.inj starts
        exact ⟨rest, oldest⟩
      · exact absurd starts (by simp)
    · exact absurd starts (by simp)
  | @call e handler notice frames =>
    replace starts : (Work.call handler notice).task? = some task := Option.mem_toList.mp starts
    have first : (Frame.work (.call handler notice)).task? = some task := starts
    refine ⟨frames.filterMap Frame.task? ++ e.conn.scheduled, ?_⟩
    rw [called, List.filterMap_cons, first]
    rfl
  | leave => exact absurd starts List.not_mem_nil
  | outside => exact absurd starts List.not_mem_nil

/-! ### Calls in progress -/

/-- The calls that have not returned, innermost first. -/
def inProgress (steps : List (Step H)) : List Notice :=
  steps.foldl (fun calls step => step.label.shift calls) []

theorem inProgress_snoc (steps : List (Step H)) (step : Step H) :
    inProgress (steps ++ [step]) = step.label.shift (inProgress steps) := by
  rw [inProgress, List.foldl_append]
  rfl

/-- A run of the deferred tasks goes on first. -/
def OnRun (frames : List (Frame H)) : Prop := ∃ rest, frames = .work .runTasks :: rest

/-- The calls in progress, with the frames that are due.  A deferred task stands on the run of the
deferred tasks that has called it, or is about to. -/
inductive Nested : List Notice → List (Frame H) → Prop
  /-- Only the code outside is running. -/
  | outside : Nested [] [.code]
  /-- Work is due. -/
  | work {calls : List Notice} {w : Work H} {frames : List (Frame H)} (below : Nested calls frames)
      (task : w.task? ≠ none → OnRun frames) : Nested calls (.work w :: frames)
  /-- A handler or a task is running. -/
  | call {calls : List Notice} {notice : Notice} {frames : List (Frame H)}
      (below : Nested calls frames) (task : notice = .task → OnRun frames) :
      Nested (notice :: calls) (.code :: frames)

namespace Nested

/-- Work that calls no deferred task may be left anywhere. -/
theorem append (below : Nested calls frames) {work : List (Work H)}
    (noTask : work.filterMap Work.task? = []) : Nested calls (work.map .work ++ frames) := by
  induction work with
  | nil => exact below
  | cons w work ih =>
    rw [List.filterMap_eq_nil_iff, List.forall_mem_cons, ← List.filterMap_eq_nil_iff] at noTask
    exact .work (ih noTask.2) fun task => absurd noTask.1 task

theorem resume (below : Nested calls frames) (e : Endpoint H) (w : Work H) :
    Nested calls (after e w frames).frames := by
  rcases e.task_of_resume w with noTask | ⟨handler, work⟩
  · exact below.append noTask
  · -- the run that has taken the task out of the queue stands right below its call
    have run : Nested calls (.work .runTasks :: frames) := .work below fun task => absurd rfl task
    rw [frames_after, work]
    exact .work run fun _ => ⟨frames, rfl⟩

/-- As long as no deferred tasks are being run, none of them is in progress. -/
theorem no_task (nested : Nested calls frames) (idle : .work .runTasks ∉ frames) :
    .task ∉ calls := by
  induction nested with
  | outside => exact List.not_mem_nil
  | work below task ih => exact ih fun mem => idle (List.mem_cons_of_mem _ mem)
  | @call calls notice frames below task ih =>
    rw [List.mem_cons, not_or]
    refine ⟨?_, ih fun mem => idle (List.mem_cons_of_mem _ mem)⟩
    rintro rfl
    obtain ⟨rest, rfl⟩ := task rfl
    exact idle (List.mem_cons_of_mem _ List.mem_cons_self)

end Nested

theorem nested_move (nested : Nested calls m.frames) (move : Move admitted m label n) :
    Nested (label.shift calls) n.frames := by
  cases move.turn with
  | @work _ _ w frames due =>
    cases due with
    | work noCall =>
      cases nested with
      | work below task => exact below.resume _ w
    | operate => exact nested.resume _ _
  | call =>
    cases nested with
    | work below task => exact .call below fun isTask => task (by subst isTask; simp [Work.task?])
  | leave =>
    cases nested with
    | call below task => exact below
  | outside outside => exact nested

theorem nested_of_trail (trail : Trail initial steps m) : Nested (inProgress steps) m.frames := by
  induction trail with
  | nil => exact .outside
  | snoc trail move ih =>
    rw [inProgress_snoc]
    exact nested_move ih move

/-! ### Runs of the deferred tasks -/

/-- Deferred tasks are being run. -/
def RunsTasks (m : Machine H) : Prop := .work .runTasks ∈ m.frames

/-- The code that has asked for something goes on after some steps, for the first time. -/
structure Returns (k : Machine H) (inner : List (Step H)) (m : Machine H) : Prop where
  /-- Until then something was due that stood above it. -/
  busy : ∀ step ∈ inner, step.before.frames ≠ k.frames
  /-- Nothing is due any more. -/
  back : m.frames = k.frames

/-- Above some frames a run of the deferred tasks is in progress, or has just left none. -/
def Sweeping (base : List (Frame H)) (m : Machine H) : Prop :=
  (m.frames = base ∧ m.endpoint.conn.scheduled = []) ∨
    ∃ above, m.frames = above ++ .work .runTasks :: base

/-- The run goes on as long as there is a task. -/
theorem sweeping_runTasks (e : Endpoint H) (base : List (Frame H)) :
    Sweeping base (after e .runTasks base) := by
  have frames : (after e .runTasks base).frames = e.runTasks.2.map .work ++ base := rfl
  rcases e.runTasks_last with ⟨work, none⟩ | ⟨left, work⟩
  · exact .inl ⟨by rw [frames, work]; rfl, none⟩
  · refine .inr ⟨left.map .work, ?_⟩
    rw [frames, work, List.map_append, List.append_assoc]
    rfl

theorem sweeping_move {base : List (Frame H)} (sweeping : Sweeping base m)
    (busy : m.frames ≠ base) (move : Move admitted m label n) : Sweeping base n := by
  obtain ⟨above, frames⟩ := sweeping.resolve_left fun ended => busy ended.1
  obtain ⟨e, _⟩ := m
  obtain rfl : _ = above ++ .work .runTasks :: base := frames
  -- what runs above the run of the deferred tasks leaves it where it is
  by_cases first : above = []
  · subst first
    cases move with
    | work noCall => exact sweeping_runTasks e base
    | drift found drift => exact .inr ⟨[], rfl⟩
    | wait later => exact .inr ⟨[], rfl⟩
  · obtain ⟨above', frames'⟩ := move.frames_of_inner rfl first
    exact .inr ⟨above', frames'⟩

theorem sweeping_performed (onContext : k.endpoint.isOnContext = true) :
    Sweeping k.frames (k.performed .runScheduled) := by
  refine .inr ⟨[], ?_⟩
  show k.endpoint.runScheduled.2.map .work ++ k.frames = _
  rw [Endpoint.runScheduled, if_pos onContext]
  rfl

/-- **No task is left when the deferred tasks have been run.** -/
theorem swept_of_returns (onContext : k.endpoint.isOnContext = true)
    (trail : Trail (k.performed .runScheduled) inner m) (returns : Returns k inner m) :
    m.endpoint.conn.scheduled = [] := by
  have sweeping : Sweeping k.frames m := by
    obtain ⟨busy, -⟩ := returns
    induction trail with
    | nil => exact sweeping_performed onContext
    | snoc trail move ih =>
      obtain ⟨busy, last⟩ := List.forall_mem_append.mp busy
      exact sweeping_move (ih busy) (last _ List.mem_cons_self) move
  rcases sweeping with ⟨-, none⟩ | ⟨above, frames⟩
  · exact none
  · -- as long as the run is in progress, it stands above the code that has asked for it
    have lengths := congrArg List.length (frames.symm.trans returns.back)
    rw [List.length_append, List.length_cons] at lengths
    omega

/-- No deferred task is called next as long as code is running. -/
theorem called_of_code (tidy : m.Tidy) (code : m.frames = .code :: frames) : m.called = [] := by
  apply filterMap_task?_eq_nil
  intro w mem
  apply tidy.no_call
  rw [code, List.mem_cons] at mem
  rw [code]
  exact mem.resolve_left (by simp)

/-- **Deferred tasks run once each, in order.**  The tasks started are the first of those that were
deferred: each start takes the next in the order of their deferral, which was deferred before, and
no task starts more often than it was deferred.  When the deferred tasks have been run on the
connection's own task, all that were deferred so far have started and none waits; and unless this
was asked for while deferred tasks were being run, all of them have returned. -/
theorem tasks_run_in_order (trail : Trail initial steps m) :
    steps.flatMap Step.started <+: steps.flatMap Step.deferred ∧
    (∀ before step after, steps = before ++ step :: after → ∀ task ∈ step.started,
      (before.flatMap Step.deferred)[(before.flatMap Step.started).length]? = some task) ∧
    (∀ p, (steps.flatMap Step.started).countP p ≤ (steps.flatMap Step.deferred).countP p) ∧
    ∀ before k inner, steps = before ++ ⟨k, .operate .runScheduled⟩ :: inner →
      k.endpoint.isOnContext = true → Returns k inner m →
      steps.flatMap Step.started = steps.flatMap Step.deferred ∧
      m.endpoint.conn.hasScheduled = false ∧
      (¬ k.RunsTasks → .task ∉ inProgress steps) := by
  have tasks := tasks_of_trail trail
  have first : steps.flatMap Step.started <+: steps.flatMap Step.deferred := ⟨_, tasks.symm⟩
  refine ⟨first, ?_, fun p => first.sublist.countP_le, ?_⟩
  · -- at the step itself, what was deferred is what was started and what waits
    rintro before step after rfl task starts
    obtain ⟨k, earlier, later⟩ := trail.exists_append
    obtain ⟨rfl, n, move, -⟩ := later.exists_cons
    obtain ⟨rest, first⟩ := first_of_started (tidy_of_run earlier.run) move starts
    rw [tasks_of_trail earlier, first, List.getElem?_append_right (Nat.le_refl _), Nat.sub_self]
    rfl
  · rintro before k inner rfl onContext returns
    obtain ⟨_, -, later⟩ := trail.exists_append
    obtain ⟨rfl, n, move, rest⟩ := later.exists_cons
    obtain ⟨frames, code, performed⟩ : ∃ frames, k.frames = .code :: frames ∧
        n = k.performed .runScheduled := by
      cases move with
      | operate => exact ⟨_, rfl, rfl⟩
    have swept := swept_of_returns onContext (performed ▸ rest) returns
    have called := called_of_code (tidy_of_run trail.run) (returns.back.trans code)
    refine ⟨?_, ?_, ?_⟩
    · rw [tasks, called, swept, List.nil_append, List.append_nil]
    · rw [Connection.hasScheduled, swept]
      rfl
    · intro outermost
      refine (nested_of_trail trail).no_task ?_
      rw [returns.back]
      exact outermost

/-- A task and a graceful close are deferred. -/
def twoDeferred : List (Choice Nat) :=
  [.operate (.dial (Config.build "mail" []) 0 1), .operate (.connected (.manual {})),
    .operate (.runOnContext 2), .operate .close]

/-- The first task defers another one and runs the deferred tasks itself. -/
def runsWithin : List (Choice Nat) :=
  [.proceed, .proceed, .operate (.runOnContext 3), .operate .runScheduled, .proceed, .proceed,
    .proceed, .leave, .proceed, .leave, .proceed]

/-- The close and the third task run while the first one does. -/
theorem run_within_task_in_order : ∃ steps m, Trail (initial (H := Nat)) steps m ∧
    steps.flatMap Step.deferred = [.app 2, .close, .app 3] ∧
    steps.flatMap Step.started = [.app 2, .close, .app 3] ∧
    m.endpoint.conn.hasScheduled = false ∧ .task ∉ inProgress steps := by
  have waiting : Trail initial (initial.track twoDeferred) (initial.play twoDeferred).2 :=
    trail_play twoDeferred .nil
  have trail := trail_play (.operate .runScheduled :: runsWithin) waiting
  have settled : (initial.play twoDeferred).2.Settled := by decide
  have returns : Returns (initial.play twoDeferred).2
      (((initial.play twoDeferred).2.performed .runScheduled).track runsWithin)
      ((initial.play twoDeferred).2.play (.operate .runScheduled :: runsWithin)).2 := by
    have busy : ∀ step ∈ ((initial.play twoDeferred).2.performed .runScheduled).track runsWithin,
      ¬ step.before.Settled := by decide
    have back : ((initial.play twoDeferred).2.play
      (.operate .runScheduled :: runsWithin)).2.Settled := by decide
    exact ⟨fun step mem same => busy step mem (same.trans settled), back.trans settled.symm⟩
  obtain ⟨-, -, -, run⟩ := tasks_run_in_order trail
  obtain ⟨all, none, returned⟩ := run _ _ _ rfl (by decide) returns
  refine ⟨_, _, trail, rfl, all.trans rfl, none, returned ?_⟩
  rw [RunsTasks, settled]
  simp

end Machine

end SmtpLink
