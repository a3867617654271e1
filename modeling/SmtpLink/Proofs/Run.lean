import Mathlib.Logic.Relation
import SmtpLink.Connection.Machine

/-!
# Runs of a connection, taken apart and put together

A move either does a piece of work, or calls a handler, or returns from one, or comes from
outside; an operation that running code asks for is a piece of work like any other.  What holds
along runs is proved move by move, and a move by the work that it does.

## Main definitions

* `Endpoint.Outside` — what may change around a connection.
* `Machine.Due` — the work that a move does, and the frames that wait below it.
* `Machine.RunBy rule` — a run all of whose moves keep a rule.
* `Machine.Trail` — a run with the machines that it passes.
* `Machine.Call` — an operation of the code outside, from its beginning to its return.

## Main results

* `Machine.Move.turn` — **the four kinds of move.**
* `Machine.Run.exists_trail` — every run leaves a trail.
* `Machine.Run.invariant`, `Machine.RunBy.invariant`, `Machine.Trail.invariant` — what every move
  keeps holds along a run.
-/

namespace SmtpLink

variable {H : Type}

/-- No operation is excluded. -/
abbrev Operation.Any (_ : Operation H) : Prop := True

/-- The operation delivers no fault, and touches neither the slot nor the input. -/
def Operation.isQuiet : Operation H → Bool
  | .dial _ _ _ | .connected _ | .input _ | .fault _ | .closed | .upgraded _ | .write _ _ _
  | .writeCommands _ _ | .returnToPool => false
  | _ => true

namespace Notice

/-- The notice brings replies of the server. -/
def isReplies : Notice → Bool
  | .greeting _ | .reply _ | .replies _ => true
  | _ => false

end Notice

namespace Label

/-- The connection begins to open. -/
def isDial : Label H → Bool
  | .operate (.dial _ _ _) => true
  | _ => false

/-- A handler is called with replies of the server. -/
def isReplyCall : Label H → Bool
  | .call _ notice => notice.isReplies
  | _ => false

end Label

namespace Work

/-- The work is the call of a handler. -/
def isCall : Work H → Bool
  | .call _ _ => true
  | _ => false

/-- The work is the call of a handler with replies of the server. -/
def isReplyCall : Work H → Bool
  | .call _ notice => notice.isReplies
  | _ => false

/-- The work is neither a call nor an operation. -/
def isInner : Work H → Bool
  | .dispatch | .sendDeferred _ | .expectOne | .runTasks => true
  | _ => false

/-- The work is an operation. -/
def isPerform : Work H → Bool
  | .perform _ => true
  | _ => false

/-- The work begins to open the connection. -/
def isDial : Work H → Bool
  | .perform (.dial _ _ _) => true
  | _ => false

theorem isCall_of_ne {w : Work H} (h : ∀ handler notice, w ≠ .call handler notice) :
    w.isCall = false := by
  cases w with
  | call handler notice => exact absurd rfl (h handler notice)
  | _ => rfl

theorem isCall_of_isReplyCall {w : Work H} (h : w.isReplyCall = true) : w.isCall = true := by
  cases w <;> simp_all [isReplyCall, isCall]

theorem isPerform_of_isDial {w : Work H} (h : w.isDial = true) : w.isPerform = true := by
  cases w <;> simp_all [isDial, isPerform]

theorem exists_of_isDial {w : Work H} (h : w.isDial = true) :
    ∃ config greeting onError, w = .perform (.dial config greeting onError) := by
  cases w with
  | perform operation =>
    cases operation with
    | dial config greeting onError => exact ⟨config, greeting, onError, rfl⟩
    | _ => exact absurd h (by simp [isDial])
  | _ => exact absurd h (by simp [isDial])

end Work

/-! ### What comes from outside -/

/-- What may change around a connection: a transport, the time, or the task that runs. -/
inductive Endpoint.Outside : Endpoint H → Endpoint H → Prop
  /-- A transport changes behind the connection's back. -/
  | drift {e : Endpoint H} {id : TransportId} {t t' : Transport}
      (found : e.transports[id]? = some t) (drift : t.Drift t') : Outside e (e.setTransport id t')
  /-- Time passes. -/
  | wait {e : Endpoint H} {now : Instant} (later : e.clock ≤ now) :
      Outside e { e with clock := now }
  /-- Another task runs. -/
  | switch {e : Endpoint H} {task : Option TaskId} : Outside e { e with task }

namespace Endpoint.Outside

variable {e e' : Endpoint H}

theorem conn_eq (h : Outside e e') : e'.conn = e.conn := by
  cases h <;> rfl

theorem trace_eq (h : Outside e e') : e'.trace = e.trace := by
  cases h <;> rfl

theorem length_transports (h : Outside e e') : e'.transports.length = e.transports.length := by
  cases h with
  | drift found drift => exact List.length_set
  | wait later => rfl
  | switch => rfl

end Endpoint.Outside

namespace Machine

variable {admitted : Operation H → Prop} {m n o : Machine H} {label : Label H}
  {labels labels' : List (Label H)}

/-! ### Moves -/

/-- The work that a move does, and the frames that wait below it. -/
inductive Due : Machine H → Label H → Work H → List (Frame H) → Prop
  /-- Work that is due is done. -/
  | work {e : Endpoint H} {w : Work H} {frames : List (Frame H)} (noCall : w.isCall = false) :
      Due ⟨e, .work w :: frames⟩ .work w frames
  /-- Running code asks for an operation. -/
  | operate {e : Endpoint H} {operation : Operation H} {frames : List (Frame H)} :
      Due ⟨e, .code :: frames⟩ (.operate operation) (.perform operation) (.code :: frames)

/-- The machine after a piece of work, with the frames that wait below it. -/
def after (e : Endpoint H) (w : Work H) (frames : List (Frame H)) : Machine H :=
  ⟨(e.resume w).1, (e.resume w).2.map .work ++ frames⟩

/-- The machine after an operation that the running code asks for. -/
def performed (m : Machine H) (operation : Operation H) : Machine H :=
  after m.endpoint (.perform operation) m.frames

@[simp] theorem frames_after (e : Endpoint H) (w : Work H) (frames : List (Frame H)) :
    (after e w frames).frames = (e.resume w).2.map .work ++ frames := rfl

@[simp] theorem endpoint_after (e : Endpoint H) (w : Work H) (frames : List (Frame H)) :
    (after e w frames).endpoint = (e.resume w).1 := rfl

/-- What a move does. -/
inductive Turn : Machine H → Label H → Machine H → Prop
  /-- A piece of work is done. -/
  | work {m : Machine H} {label : Label H} {w : Work H} {frames : List (Frame H)}
      (due : Due m label w frames) : Turn m label (after m.endpoint w frames)
  /-- A handler is called. -/
  | call {e : Endpoint H} {handler : H} {notice : Notice} {frames : List (Frame H)} :
      Turn ⟨e, .work (.call handler notice) :: frames⟩ (.call handler notice)
        ⟨e, .code :: frames⟩
  /-- A handler returns. -/
  | leave {e : Endpoint H} {frame : Frame H} {frames : List (Frame H)} :
      Turn ⟨e, .code :: frame :: frames⟩ .leave ⟨e, frame :: frames⟩
  /-- Something changes around the connection. -/
  | outside {e e' : Endpoint H} {frames : List (Frame H)} (outside : e.Outside e') :
      Turn ⟨e, frames⟩ .outside ⟨e', frames⟩

/-- **The four kinds of move.** -/
theorem Move.turn (move : Move admitted m label n) : Turn m label n := by
  cases move with
  | @work e w frames noCall =>
    exact Turn.work (m := ⟨e, .work w :: frames⟩) (.work (Work.isCall_of_ne noCall))
  | @operate e operation frames isAdmitted =>
    exact Turn.work (m := ⟨e, .code :: frames⟩) .operate
  | call => exact .call
  | leave => exact .leave
  | drift found drift => exact .outside (.drift found drift)
  | wait later => exact .outside (.wait later)
  | switch => exact .outside .switch

/-- A label tells which work is done. -/
theorem Due.unique {w w' : Work H} {frames frames' : List (Frame H)} (due : Due m label w frames)
    (due' : Due m label w' frames') : w = w' ∧ frames = frames' := by
  cases due <;> cases due' <;> exact ⟨rfl, rfl⟩

/-- Work that is due first is done first. -/
theorem Due.eq_of_first {w v : Work H} {frames below : List (Frame H)}
    (due : Due m label w frames) (first : m.frames = .work v :: below) : w = v := by
  cases due with
  | work noCall => exact Frame.work.inj (List.cons.inj first).1
  | operate => exact absurd (List.cons.inj first).1 (by simp)

/-- Work that is due is done, or waits below. -/
theorem Due.of_mem {w v : Work H} {frames : List (Frame H)} (due : Due m label w frames)
    (mem : .work v ∈ m.frames) : v = w ∨ .work v ∈ frames := by
  cases due with
  | work noCall => exact (List.mem_cons.mp mem).imp_left Frame.work.inj
  | operate => exact .inr mem

/-- What is due determines what a move makes. -/
theorem Due.eq_after {w : Work H} {frames : List (Frame H)} (due : Due m label w frames)
    (move : Move admitted m label n) : n = after m.endpoint w frames := by
  cases move.turn with
  | work due' => rw [(due.unique due').1, (due.unique due').2]
  | call => cases due
  | leave => cases due
  | outside => cases due

/-- What a piece of work keeps exactly if it is not of some kind, and what depends on the connection
alone, a move keeps exactly if it does no work of that kind. -/
theorem Move.keeps_iff {P : Endpoint H → Prop} {Bad : Endpoint H → Work H → Prop}
    (move : Move admitted m label n)
    (resumed : ∀ w, P (m.endpoint.resume w).1 ↔ ¬ Bad m.endpoint w)
    (same : ∀ {e : Endpoint H}, e.conn = m.endpoint.conn → P e) :
    P n.endpoint ↔ ¬ ∃ w frames, Due m label w frames ∧ Bad m.endpoint w := by
  cases move.turn with
  | @work _ _ w frames due =>
    refine (resumed w).trans (not_congr ?_)
    constructor
    · intro bad
      exact ⟨w, frames, due, bad⟩
    · rintro ⟨w', frames', due', bad⟩
      rwa [(due.unique due').1]
  | call =>
    refine iff_of_true (same rfl) ?_
    rintro ⟨w, frames, due, -⟩
    cases due
  | leave =>
    refine iff_of_true (same rfl) ?_
    rintro ⟨w, frames, due, -⟩
    cases due
  | outside outside =>
    refine iff_of_true (same outside.conn_eq) ?_
    rintro ⟨w, frames, due, -⟩
    cases due

/-- Frames that wait below others stay where they are. -/
theorem Move.frames_of_inner {inner tail : List (Frame H)} (move : Move admitted m label n)
    (h : m.frames = inner ++ tail) (ne : inner ≠ []) : ∃ inner', n.frames = inner' ++ tail := by
  obtain ⟨first, inner, rfl⟩ := List.exists_cons_of_ne_nil ne
  rw [List.cons_append] at h
  cases move.turn with
  | @work _ _ w frames due =>
    -- new work comes on top of what waits, and an operation leaves its code below that
    cases due with
    | work noCall =>
      obtain ⟨-, rfl⟩ := List.cons.inj h
      exact ⟨_, (List.append_assoc _ _ _).symm⟩
    | @operate e operation frames =>
      obtain ⟨rfl, rfl⟩ := List.cons.inj h
      refine ⟨(e.resume (.perform operation)).2.map .work ++ .code :: inner, ?_⟩
      rw [List.append_assoc]
      rfl
  | call =>
    obtain ⟨-, rfl⟩ := List.cons.inj h
    exact ⟨.code :: inner, rfl⟩
  | leave => exact ⟨inner, (List.cons.inj h).2⟩
  | outside outside => exact ⟨first :: inner, h⟩

/-! ### Runs -/

theorem Run.append (h : Run admitted m labels n) (h' : Run admitted n labels' o) :
    Run admitted m (labels ++ labels') o := by
  induction h' with
  | nil => rwa [List.append_nil]
  | snoc run move ih =>
    rw [← List.append_assoc]
    exact .snoc ih move

theorem Run.cons (move : Move admitted m label n) (h : Run admitted n labels o) :
    Run admitted m (label :: labels) o :=
  Run.append (.snoc (.nil m) move) h

/-- A run that has shown anything began with a move. -/
theorem Run.exists_uncons (run : Run admitted m labels' o) :
    labels' = [] ∧ o = m ∨ ∃ (label : Label H) (labels : List (Label H)) (n : Machine H),
      labels' = label :: labels ∧ Move admitted m label n ∧ Run admitted n labels o := by
  induction run with
  | nil => exact .inl ⟨rfl, rfl⟩
  | snoc run move ih =>
    rcases ih with ⟨rfl, rfl⟩ | ⟨first, rest, k, rfl, begins, goes⟩
    · exact .inr ⟨_, [], _, rfl, move, .nil _⟩
    · exact .inr ⟨first, _, k, rfl, begins, .snoc goes move⟩

theorem Run.exists_cons (run : Run admitted m (label :: labels) o) :
    ∃ n, Move admitted m label n ∧ Run admitted n labels o := by
  rcases run.exists_uncons with ⟨nothing, -⟩ | ⟨first, rest, n, same, begins, goes⟩
  · exact absurd nothing (by simp)
  · obtain ⟨rfl, rfl⟩ := List.cons.inj same
    exact ⟨n, begins, goes⟩

/-- What every move keeps holds along a run. -/
theorem Run.invariant {P : Machine H → Prop} (run : Run admitted m labels n)
    (keep : ∀ {a b : Machine H} {l : Label H}, P a → Move admitted a l b → P b) (hm : P m) :
    P n := by
  induction run with
  | nil => exact hm
  | snoc run move ih => exact keep ih move

/-- A run all of whose moves keep a rule.  The rule may look at what the run has shown so
far. -/
inductive RunBy (rule : List (Label H) → Machine H → Label H → Prop) (start : Machine H) :
    List (Label H) → Machine H → Prop
  /-- No move. -/
  | nil : RunBy rule start [] start
  /-- One move after others. -/
  | snoc {m n : Machine H} {labels : List (Label H)} {label : Label H}
      (run : RunBy rule start labels m) (move : Move Operation.Any m label n)
      (keeps : rule labels m label) : RunBy rule start (labels ++ [label]) n

variable {rule : List (Label H) → Machine H → Label H → Prop}

theorem RunBy.run (h : RunBy rule m labels n) : Run Operation.Any m labels n := by
  induction h with
  | nil => exact .nil m
  | snoc run move keeps ih => exact .snoc ih move

/-- What every move that keeps the rule keeps holds along a run by the rule. -/
theorem RunBy.invariant {P : List (Label H) → Machine H → Prop} (run : RunBy rule m labels n)
    (keep : ∀ {ls : List (Label H)} {a b : Machine H} {l : Label H}, P ls a →
      Move Operation.Any a l b → rule ls a l → P (ls ++ [l]) b) (hm : P [] m) :
    P labels n := by
  induction run with
  | nil => exact hm
  | snoc run move keeps ih => exact keep ih move keeps

/-- A move as it is remembered: the machine that it found, and what it showed. -/
structure Step (H : Type) where
  /-- The machine before the move. -/
  before : Machine H
  /-- What the move showed. -/
  label : Label H

/-- The connection begins to open. -/
def Step.isDial (step : Step H) : Bool := step.label.isDial

/-- The work that a step does. -/
def Step.work? (step : Step H) : Option (Work H) :=
  match step.label, step.before.frames with
  | .work, .work w :: _ => some w
  | .operate operation, _ => some (.perform operation)
  | _, _ => none

theorem Due.work?_eq {w : Work H} {frames : List (Frame H)} (due : Due m label w frames) :
    Step.work? ⟨m, label⟩ = some w := by
  cases due <;> rfl

/-- What a step leaves that does a piece of work. -/
theorem Due.of_work? {w : Work H} (h : Step.work? ⟨m, label⟩ = some w)
    (move : Move admitted m label n) :
    ∃ frames, Due m label w frames ∧ n = after m.endpoint w frames := by
  cases move.turn with
  | @work _ _ w' frames due =>
    obtain rfl : w' = w := Option.some.inj (due.work?_eq.symm.trans h)
    exact ⟨frames, due, rfl⟩
  | call => exact absurd h (by simp [Step.work?])
  | leave => exact absurd h (by simp [Step.work?])
  | outside => exact absurd h (by simp [Step.work?])

/-- A run with all its steps, oldest first. -/
inductive Trail (start : Machine H) : List (Step H) → Machine H → Prop
  /-- No step. -/
  | nil : Trail start [] start
  /-- One step after others. -/
  | snoc {m n : Machine H} {steps : List (Step H)} {label : Label H}
      (trail : Trail start steps m) (move : Move Operation.Any m label n) :
      Trail start (steps ++ [⟨m, label⟩]) n

variable {steps steps' : List (Step H)}

theorem Trail.run (h : Trail m steps n) : Run Operation.Any m (steps.map Step.label) n := by
  induction h with
  | nil => exact .nil m
  | snoc trail move ih =>
    rw [List.map_append]
    exact .snoc ih move

theorem countP_map_label (steps : List (Step H)) :
    (steps.map Step.label).countP Label.isDial = steps.countP Step.isDial :=
  List.countP_map

/-- Every run leaves a trail. -/
theorem Run.exists_trail (h : Run Operation.Any m labels n) :
    ∃ steps, steps.map Step.label = labels ∧ Trail m steps n := by
  induction h with
  | nil => exact ⟨[], rfl, .nil⟩
  | snoc run move ih =>
    obtain ⟨steps, rfl, trail⟩ := ih
    exact ⟨_, List.map_append, .snoc trail move⟩

theorem Trail.append (h : Trail m steps n) (h' : Trail n steps' o) :
    Trail m (steps ++ steps') o := by
  induction h' with
  | nil => rwa [List.append_nil]
  | snoc trail move ih =>
    rw [← List.append_assoc]
    exact .snoc ih move

theorem Trail.cons (move : Move Operation.Any m label n) (h : Trail n steps o) :
    Trail m (⟨m, label⟩ :: steps) o :=
  Trail.append (.snoc .nil move) h

/-- A trail with any step began with a move. -/
theorem Trail.exists_uncons (trail : Trail m steps' o) :
    steps' = [] ∧ o = m ∨ ∃ (label : Label H) (steps : List (Step H)) (n : Machine H),
      steps' = ⟨m, label⟩ :: steps ∧ Move Operation.Any m label n ∧ Trail n steps o := by
  induction trail with
  | nil => exact .inl ⟨rfl, rfl⟩
  | snoc trail move ih =>
    rcases ih with ⟨rfl, rfl⟩ | ⟨first, rest, k, rfl, begins, goes⟩
    · exact .inr ⟨_, [], _, rfl, move, .nil⟩
    · exact .inr ⟨first, _, k, rfl, begins, .snoc goes move⟩

theorem Trail.exists_cons {step : Step H} (trail : Trail m (step :: steps) o) :
    step.before = m ∧ ∃ n, Move Operation.Any m step.label n ∧ Trail n steps o := by
  rcases trail.exists_uncons with ⟨nothing, -⟩ | ⟨label, rest, n, same, begins, goes⟩
  · exact absurd nothing (by simp)
  · obtain ⟨rfl, rfl⟩ := List.cons.inj same
    exact ⟨rfl, n, begins, goes⟩

/-- A trail can be taken apart anywhere. -/
theorem Trail.exists_append {before after : List (Step H)} (trail : Trail m (before ++ after) o) :
    ∃ n, Trail m before n ∧ Trail n after o := by
  induction before generalizing m with
  | nil => exact ⟨m, .nil, trail⟩
  | cons step before ih =>
    obtain ⟨rfl, n, begins, goes⟩ := trail.exists_cons
    obtain ⟨k, first, rest⟩ := ih goes
    exact ⟨k, .cons begins first, rest⟩

/-- What every step keeps holds along a trail. -/
theorem Trail.invariant {P : List (Step H) → Machine H → Prop} (trail : Trail m steps n)
    (keep : ∀ {before : List (Step H)} {a b : Machine H} {l : Label H}, Trail m before a →
      P before a → Move Operation.Any a l b → P (before ++ [⟨a, l⟩]) b) (hm : P [] m) :
    P steps n := by
  induction trail with
  | nil => exact hm
  | snoc trail move ih => exact keep trail ih move

/-- An operation that the code outside asks for, from its beginning to its return.  The labels
are those of the moves in between. -/
structure Call (m : Machine H) (operation : Operation H) (labels : List (Label H))
    (n : Machine H) : Prop where
  /-- Only the code outside is running. -/
  settled : m.Settled
  /-- The operation is carried out. -/
  moves : RunBy (fun _ k _ => ¬ k.Settled) (m.performed operation) labels n
  /-- The operation has returned. -/
  returned : n.Settled

end Machine

end SmtpLink
