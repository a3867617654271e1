import Mathlib.Data.List.DropRight
import SmtpLink.Proofs.Play
import SmtpLink.Proofs.Reading
import SmtpLink.Proofs.Scope

/-!
# Input and upgrades

What came before a socket became secure may come from anybody.  So all input is dropped when an
upgrade has succeeded: what lay there before it makes no difference to anything that happens
afterwards, and the replies that are handed out afterwards are read from what came afterwards.

Input is dropped at two more points, when a socket is connected and when a line is too long.
The bytes that have come since the last of these points determine what is handed out.

## Main definitions

* `Endpoint.unread` — the input that lies there, whatever the size of a batch.
* `Machine.withInput` — the machine with other input.
* `decoded` — the replies among what becomes of lines.
* `Machine.Step.drops`, `Machine.sinceDrop` — where all input is dropped, and the steps behind the
  last of these points.
* `Machine.Step.taken`, `Machine.Step.brought` — the bytes that come with a step, and the replies
  that a handler is called with.

## Main results

* `Machine.performed_withInput` — **input that lies there makes no difference to an upgrade.**
* `Machine.readFrom_move` — what a step brings lay there before, and what lies there came with
  the steps behind the last drop.
* `Machine.plaintext_forgotten` — **after an upgrade all goes on as if nothing had come before
  it**, and the replies handed out are those of the bytes that came after it.
-/

namespace SmtpLink

variable {H : Type}

open Reading

/-- The replies among what becomes of lines. -/
def decoded (lines : List Bytes) : List Reply :=
  (replies [] (texts lines)).filterMap Except.toOption

/-- The replies that a notice brings. -/
def Notice.brought : Notice → List Reply
  | .greeting r => [r]
  | .reply r => [r]
  | .replies rs => rs
  | _ => []

namespace Assembler

/-! ### Input that lies there -/

/-- The replies that are complete, and those that lines make that are not read yet. -/
def lying (a : Assembler) (more : List Bytes) : List Reply :=
  a.completed ++ (replies a.block (texts (a.ready ++ more))).filterMap Except.toOption

theorem error_of_map {α β : Type} {f : α → β} {x : Except Error α} {err : Error}
    (h : x.map f = .error err) : x = .error err := by
  cases x with
  | ok value => exact absurd h (by simp [Except.map])
  | error err' => exact congrArg Except.error (Except.error.inj h)

theorem messageOf_ne_lineTooLong (code : List Char) (lines : List String) :
    Reply.messageOf code lines ≠ .error (.protocol .lineTooLong) := by
  induction lines with
  | nil => simp [Reply.messageOf]
  | cons line rest ih =>
    unfold Reply.messageOf
    split
    · simp
    · split
      · exact fun h => ih (error_of_map h)
      · simp

theorem ofLines_ne_lineTooLong (lines : List String) :
    Reply.ofLines lines ≠ .error (.protocol .lineTooLong) := by
  intro h
  unfold Reply.ofLines at h
  split at h
  · exact absurd h (by simp)
  · split at h
    · exact absurd h (by simp)
    · exact messageOf_ne_lineTooLong _ _ (error_of_map h)

theorem classify_ne_lineTooLong (line : String) :
    classify line ≠ .error (.protocol .lineTooLong) := by
  intro h
  unfold classify at h
  split at h <;> simp at h

/-- No line that is read is called too long: only an open line is. -/
theorem readLine_ne_lineTooLong (block : List String) (completed : List Reply) (raw : Bytes) :
    readLine block completed raw ≠ .refused (.protocol .lineTooLong) := by
  intro h
  unfold readLine at h
  dsimp only at h
  split at h
  · exact absurd h (by simp)
  · split at h
    · next malformed =>
      obtain rfl := LineResult.refused.inj h
      exact classify_ne_lineTooLong _ malformed
    · exact absurd h (by simp)
    · split at h
      · next malformed =>
        obtain rfl := LineResult.refused.inj h
        exact ofLines_ne_lineTooLong _ malformed
      · exact absurd h (by simp)

/-- The poll has found an open line that is too long. -/
def tooLong : Polled → Bool
  | some (.error (.protocol .lineTooLong)) => true
  | _ => false

/-- The replies that a poll hands out. -/
def batch : Polled → List Reply
  | some (.ok replies) => replies
  | _ => []

theorem batch_of_tooLong {polled : Polled} (h : tooLong polled = true) : batch polled = [] := by
  unfold tooLong at h
  split at h
  · rfl
  · exact absurd h Bool.false_ne_true

theorem tooLong_of_ne {err : Error} (h : err ≠ .protocol .lineTooLong) :
    tooLong (some (.error err)) = false := by
  rw [Bool.eq_false_iff]
  intro long
  unfold tooLong at long
  split at long
  · next same => exact h (Except.error.inj (Option.some.inj same))
  · exact absurd long (by simp)

/-- An open line that is too long drops all input.  Otherwise a poll finds the batch that comes
first among the replies that lie there; replies are lost with an error. -/
theorem lying_pollLines (a : Assembler) (block : List String) (completed : List Reply)
    (lines more : List Bytes) :
    tooLong (a.pollLines block completed lines).2 = true ∧
        (a.pollLines block completed lines).1 = a.reset ∨
      tooLong (a.pollLines block completed lines).2 = false ∧
        (a.pollLines block completed lines).1.unended = a.unended ∧
        (batch (a.pollLines block completed lines).2 ++
            (a.pollLines block completed lines).1.lying more).Sublist
          (completed ++
            (replies block (texts (lines ++ more))).filterMap Except.toOption) := by
  fun_induction pollLines a block completed lines with
  | case1 block completed whole => exact .inr ⟨rfl, rfl, List.Sublist.refl _⟩
  | case2 => exact .inl ⟨rfl, rfl⟩
  | case3 => exact .inr ⟨rfl, rfl, List.Sublist.refl _⟩
  | case4 block completed raw rest whole => exact .inr ⟨rfl, rfl, List.Sublist.refl _⟩
  | case5 block completed raw rest notWhole err refused =>
    refine .inr ⟨tooLong_of_ne ?_, rfl, ?_⟩
    · rintro rfl
      exact readLine_ne_lineTooLong _ _ _ refused
    · rw [List.cons_append, replies_of_refused refused]
      exact List.sublist_append_right completed _
  | case6 block completed raw rest notWhole block' completed' taken ih =>
    have same : completed' ++ (replies block' (texts (rest ++ more))).filterMap Except.toOption =
        completed ++ (replies block (texts (raw :: rest ++ more))).filterMap Except.toOption := by
      rw [List.cons_append]
      rcases replies_of_taken taken (rest ++ more) with ⟨rfl, same⟩ | ⟨reply, rfl, one⟩
      · rw [same]
      · rw [one, List.append_assoc]
        rfl
    rwa [same] at ih

theorem lying_poll (a : Assembler) (more : List Bytes) :
    tooLong a.poll.2 = true ∧ a.poll.1 = a.reset ∨
      tooLong a.poll.2 = false ∧ a.poll.1.unended = a.unended ∧
        (batch a.poll.2 ++ a.poll.1.lying more).Sublist (a.lying more) :=
  lying_pollLines a a.block a.completed a.ready more

end Assembler

namespace Endpoint

variable {e e' : Endpoint H}

/-- The input that lies there, whatever the size of a batch. -/
def unread (e : Endpoint H) : Assembler := e.conn.assembler.expect 1

/-! ### What leaves the input alone -/

theorem assembler_release (e : Endpoint H) (phase : Phase H) :
    (e.release phase).conn.assembler = e.conn.assembler := by
  rw [conn_release]

theorem assembler_setBroken (e : Endpoint H) : e.setBroken.conn.assembler = e.conn.assembler := by
  unfold setBroken
  split
  · rfl
  · exact assembler_release (e.remark .breaking) .broken

theorem assembler_changeUsage (e : Endpoint H) (origin usage : Usage) :
    (e.changeUsage origin usage).conn.assembler = e.conn.assembler := by
  unfold changeUsage
  split <;> rfl

/-- Quiet effects leave the input alone. -/
theorem Effect.assembler_of_quiet (effect : Effect false e e') :
    e'.conn.assembler = e.conn.assembler := by
  cases effect with
  | outside outside => rw [outside.conn_eq]
  | send data held peer => rw [conn_sendBytes]
  | askFull held => rw [conn_askFull]
  | askUpgrade held => rw [conn_askUpgrade]
  | park => exact assembler_changeUsage e _ _
  | use => exact assembler_changeUsage e _ _
  | setBroken => exact assembler_setBroken e
  | retire idle => exact assembler_setBroken _
  | finishQuit waits => exact assembler_release _ _
  | shutdown gone notYet => exact assembler_release e _
  | _ => rfl

theorem Effects.assembler_of_quiet (effects : Effects false e e') :
    e'.conn.assembler = e.conn.assembler :=
  effects.invariant (P := fun d => d.conn.assembler = e.conn.assembler)
    (fun h effect => effect.assembler_of_quiet.trans h) rfl

theorem assembler_fault (e : Endpoint H) (err : Error) :
    (e.fault err).1.conn.assembler = e.conn.assembler := by
  unfold fault
  split
  · rfl
  · rw [(effects_deliverError _ err).assembler_of_quiet]
    exact assembler_setBroken e

theorem assembler_closed (e : Endpoint H) : e.closed.1.conn.assembler = e.conn.assembler := by
  rw [closed_eq]
  split
  · rw [(effects_deliverError _ _).assembler_of_quiet]
    exact assembler_setBroken _
  · split
    · exact assembler_setBroken _
    · rfl

theorem assembler_writeWith (e : Endpoint H) (text : String) (mask : Option Nat)
    (handler : ReplyHandler H) :
    (e.writeWith text mask handler).1.1.conn.assembler = e.conn.assembler := by
  unfold writeWith
  split
  · rw [(effects_deliverError _ _).assembler_of_quiet]
    rfl
  · split
    · rw [(effects_deliverError _ _).assembler_of_quiet]
      rfl
    · next id held =>
      have sent := conn_sendBytes ((e.setSlot (some handler)).remark (.command (redact text mask)))
        id (lineBytes text)
      have same := congrArg Connection.assembler sent
      dsimp only
      split
      · next taken =>
        rw [taken] at same
        exact same
      · next refused =>
        rw [refused] at same
        exact (assembler_fault _ _).trans same

theorem unread_writeCommands (e : Endpoint H) (commands : List String) (handler : H) :
    (e.writeCommands commands handler).1.unread = e.unread := by
  cases empty : commands.isEmpty with
  | true =>
    unfold writeCommands unread
    rw [if_pos empty, (effects_deliverError _ _).assembler_of_quiet]
  | false =>
    rw [fst_writeCommands empty, unread, assembler_writeWith]
    rfl

theorem assembler_returnToPool (e : Endpoint H) :
    e.returnToPool.1.conn.assembler = e.conn.assembler := by
  unfold returnToPool
  split
  · rw [(effects_deliverError _ _).assembler_of_quiet]
    rfl
  · split
    · have closed : Effects false e (e.remark .shutdownOnReturn).close :=
        (effects_remark rfl).append (effects_close _)
      exact closed.assembler_of_quiet
    · rfl

theorem assembler_runClose (e : Endpoint H) : e.runClose.1.conn.assembler = e.conn.assembler := by
  unfold runClose
  split
  · rfl
  · dsimp only
    split
    · exact assembler_release _ _
    · exact assembler_writeWith _ _ _ _

theorem assembler_runTasks (e : Endpoint H) : e.runTasks.1.conn.assembler = e.conn.assembler := by
  unfold runTasks
  split
  · rfl
  · dsimp only
    split
    · rfl
    · exact assembler_runClose _

/-! ### Where input comes from and goes to -/

/-- All input is dropped with the work: an upgrade has succeeded, a socket is connected, or a line
is too long. -/
def drops (e : Endpoint H) : Work H → Bool
  | .perform (.upgraded result) => result.isOk
  | .perform (.connected _) => e.conn.state = .connecting
  | .dispatch => Assembler.tooLong e.conn.assembler.poll.2
  | _ => false

/-- The bytes that come with the work.  Only a connection that holds a socket takes them. -/
def taken (e : Endpoint H) : Work H → Bytes
  | .perform (.input data) => if e.conn.isLive then data else []
  | _ => []

/-- The replies that work brings to a handler: those of a call that comes first. -/
def broughtBy : List (Work H) → List Reply
  | .call _ notice :: _ => notice.brought
  | _ => []

theorem brought_of_not_isReplies {notice : Notice} (h : notice.isReplies = false) :
    notice.brought = [] := by
  cases notice <;> simp_all [Notice.isReplies, Notice.brought]

theorem broughtBy_of_leaves {work : List (Work H)} (h : Leaves false work) :
    broughtBy work = [] := by
  cases h with
  | inner h =>
    cases work with
    | nil => rfl
    | cons w rest =>
      have first := h w List.mem_cons_self
      cases w <;> simp_all [Work.isInner, broughtBy]
  | @call handler notice rest h hn =>
    refine brought_of_not_isReplies ?_
    simpa using hn

/-! ### What work does to the input -/

theorem unread_deliverReplies (e : Endpoint H) (batch : List Reply) :
    (e.deliverReplies batch).1.unread = e.unread := by
  have quitEnds (d : Endpoint H) (same : d.conn.assembler = e.conn.assembler) :
      d.finishQuit.unread = e.unread := by
    have := assembler_release { d with conn := { d.conn with timer := none } }
      (if d.conn.state = .broken then .broken else .closed)
    exact congrArg (Assembler.expect · 1) (this.trans same)
  unfold deliverReplies
  dsimp only
  split
  · rfl
  · rfl
  · split <;> rfl
  · split <;> rfl
  · split
    · rfl
    · refine quitEnds _ ?_
      split <;> rfl

theorem broughtBy_deliverReplies (e : Endpoint H) (batch : List Reply) :
    (broughtBy ((e.deliverReplies batch).2 ++ [.dispatch])).Sublist batch := by
  unfold deliverReplies
  dsimp only
  split
  · exact List.nil_sublist _
  · exact List.Sublist.refl _
  · split
    · exact List.nil_sublist _
    · exact List.singleton_sublist.mpr List.mem_cons_self
  · split
    · exact List.nil_sublist _
    · exact List.singleton_sublist.mpr List.mem_cons_self
  · split <;> exact List.nil_sublist _

theorem unread_dispatch (e : Endpoint H) :
    e.dispatch.1.unread = e.conn.assembler.poll.1.expect 1 ∧
      (broughtBy e.dispatch.2).Sublist (Assembler.batch e.conn.assembler.poll.2) := by
  unfold dispatch
  dsimp only
  split
  · exact ⟨rfl, List.nil_sublist _⟩
  · next err _ =>
    rw [broughtBy_of_leaves (leaves_fault _ err), unread, assembler_fault]
    exact ⟨rfl, List.nil_sublist _⟩
  · next replies polled =>
    rw [polled]
    exact ⟨unread_deliverReplies _ _, broughtBy_deliverReplies _ _⟩

/-- Work that drops input leaves nothing of it, and brings nothing. -/
theorem unread_of_drops {w : Work H} (h : e.drops w = true) :
    (e.resume w).1.unread = ({} : Assembler) ∧ broughtBy (e.resume w).2 = [] := by
  cases w with
  | perform operation =>
    refine ⟨?_, broughtBy_of_leaves (leaves_perform e operation)⟩
    cases operation with
    | connected t =>
      obtain ⟨greeting, phase⟩ := phase_of_connecting (of_decide_eq_true h)
      show (e.connected t).unread = _
      unfold connected
      dsimp only
      rw [phase]
      rfl
    | upgraded result =>
      have done : result.isOk = true := h
      show (e.upgraded result).1.unread = _
      unfold upgraded
      dsimp only
      rw [if_pos done]
      split <;> rfl
    | _ => exact absurd h Bool.false_ne_true
  | dispatch =>
    obtain ⟨left, brings⟩ := unread_dispatch e
    rw [Assembler.batch_of_tooLong h] at brings
    rcases e.conn.assembler.lying_poll [] with ⟨-, reset⟩ | ⟨notLong, -⟩
    · refine ⟨?_, List.sublist_nil.mp brings⟩
      show e.dispatch.1.unread = _
      rw [left, reset]
      rfl
    · exact absurd (h.symm.trans notLong) (by simp)
  | _ => exact absurd h Bool.false_ne_true

/-- An upgrade drops the input, so it may be dropped before. -/
theorem upgraded_dropInput (e : Endpoint H) :
    e.dropInput.upgraded (.ok ()) = e.upgraded (.ok ()) := rfl

/-- Other work leaves the input as it is, and the bytes that come are put behind it. -/
theorem unread_resume {w : Work H} (stays : e.drops w = false) (notDispatch : w ≠ .dispatch) :
    (e.resume w).1.unread = (e.conn.assembler.feed (e.taken w)).expect 1 ∧
      broughtBy (e.resume w).2 = [] := by
  have same {d : Endpoint H} (h : d.conn.assembler = e.conn.assembler) :
      d.unread = (e.conn.assembler.feed []).expect 1 := by
    rw [Assembler.feed_nil, unread, h]
  have quiet {d : Endpoint H} (effects : Effects false e d) :
      d.unread = (e.conn.assembler.feed []).expect 1 := same effects.assembler_of_quiet
  cases w with
  | call handler notice => exact ⟨same rfl, rfl⟩
  | dispatch => exact absurd rfl notDispatch
  | sendDeferred d => exact ⟨quiet (effects_writeLine e d.line), rfl⟩
  | expectOne =>
    refine ⟨?_, rfl⟩
    show _ = (e.conn.assembler.feed []).expect 1
    rw [Assembler.feed_nil]
    rfl
  | runTasks => exact ⟨same (assembler_runTasks e), broughtBy_of_leaves (leaves_runTasks e)⟩
  | perform operation =>
    refine ⟨?_, broughtBy_of_leaves (leaves_perform e operation)⟩
    cases operation with
    | dial config greeting onError =>
      refine same ?_
      show (e.dial config greeting onError).conn.assembler = _
      unfold dial releaseTransport
      dsimp only
      split <;> rfl
    | connected t =>
      have notWaiting : e.conn.state ≠ .connecting := of_decide_eq_false stays
      refine same ?_
      show (e.connected t).conn.assembler = _
      unfold connected
      dsimp only
      split
      · next phase => exact absurd (congrArg Phase.state phase) notWaiting
      · rw [conn_closeTransport]
        rfl
    | input data =>
      show (e.input data).1.unread =
        (e.conn.assembler.feed (e.taken (.perform (.input data)))).expect 1
      unfold input taken
      split
      · rfl
      · rw [Assembler.feed_nil]
        rfl
    | fault err => exact same (assembler_fault e err)
    | closed => exact same (assembler_closed e)
    | upgraded result =>
      have failed : result.isOk = false := stays
      refine same ?_
      show (e.upgraded result).1.conn.assembler = _
      unfold upgraded
      dsimp only
      rw [failed]
      split <;> rfl
    | write text mask handler => exact same (assembler_writeWith e text mask (.reply handler))
    | writeCommands commands handler =>
      show _ = (e.conn.assembler.feed []).expect 1
      rw [Assembler.feed_nil]
      exact unread_writeCommands e commands handler
    | returnToPool => exact same (assembler_returnToPool e)
    | _ => exact quiet (effects_perform_of_quiet e rfl)

/-- What is dispatched lay there. -/
theorem lying_dispatch (stays : e.drops .dispatch = false) :
    e.dispatch.1.conn.assembler.unended = e.conn.assembler.unended ∧
      ∀ more, (broughtBy e.dispatch.2 ++ e.dispatch.1.conn.assembler.lying more).Sublist
        (e.conn.assembler.lying more) := by
  obtain ⟨left, brings⟩ := unread_dispatch e
  constructor
  · rcases e.conn.assembler.lying_poll [] with ⟨long, -⟩ | ⟨-, same, -⟩
    · exact absurd (long.symm.trans stays) (by simp)
    · exact (congrArg Assembler.unended left).trans same
  · intro more
    rcases e.conn.assembler.lying_poll more with ⟨long, -⟩ | ⟨-, -, found⟩
    · exact absurd (long.symm.trans stays) (by simp)
    · have same := congrArg (Assembler.lying · more) left
      refine List.Sublist.trans ?_ found
      exact same ▸ List.Sublist.append_right brings _

/-- **Work finds what it brings among the replies that lie there, and keeps the others**: the
bytes that come are read on from the open line. -/
theorem lying_resume {w : Work H} (clean : lineFeed ∉ e.conn.assembler.unended)
    (stays : e.drops w = false) :
    (e.resume w).1.conn.assembler.unended = openLine (e.conn.assembler.unended ++ e.taken w) ∧
      ∀ more, (broughtBy (e.resume w).2 ++ (e.resume w).1.conn.assembler.lying more).Sublist
        (e.conn.assembler.lying
          (wholeLines (e.conn.assembler.unended ++ e.taken w) ++ more)) := by
  by_cases dispatching : w = .dispatch
  · subst dispatching
    have whole : wholeLines e.conn.assembler.unended = [] :=
      @wholeLines_ended [] _ (by simp) clean
    have rest : openLine e.conn.assembler.unended = e.conn.assembler.unended :=
      @openLine_ended [] _ (by simp) clean
    have nothing : e.conn.assembler.unended ++ e.taken .dispatch = e.conn.assembler.unended :=
      List.append_nil _
    rw [nothing, whole, rest]
    exact lying_dispatch stays
  · obtain ⟨left, nothing⟩ := unread_resume stays dispatching
    rw [Assembler.feed_eq clean] at left
    refine ⟨congrArg Assembler.unended left, fun more => ?_⟩
    have same : (e.resume w).1.conn.assembler.lying more = e.conn.assembler.lying
        (wholeLines (e.conn.assembler.unended ++ e.taken w) ++ more) := by
      refine (congrArg (Assembler.lying · more) left).trans ?_
      dsimp only [Assembler.lying, Assembler.expect]
      rw [List.append_assoc]
    rw [nothing, same]
    exact List.Sublist.refl _

end Endpoint

namespace Machine

variable {m n k : Machine H} {label : Label H} {steps : List (Step H)}

/-! ### What comes after the last drop -/

namespace Step

/-- All input is dropped with the step. -/
def drops (step : Step H) : Bool :=
  match step.work? with
  | some w => step.before.endpoint.drops w
  | none => false

/-- The bytes that come with the step. -/
def taken (step : Step H) : Bytes :=
  match step.work? with
  | some w => step.before.endpoint.taken w
  | none => []

/-- The replies that a handler is called with. -/
def brought (step : Step H) : List Reply :=
  match step.label with
  | .call _ notice => notice.brought
  | _ => []

end Step

/-- The steps behind the last one that drops all input. -/
def sinceDrop (steps : List (Step H)) : List (Step H) := steps.rtakeWhile fun step => !step.drops

/-- The replies that the next call brings. -/
def bringing (m : Machine H) : List Reply :=
  match m.frames with
  | .work (.call _ notice) :: _ => notice.brought
  | _ => []

/-- All replies that the steps brought, that the next call brings and that lie there are read
from the bytes that came with the steps, whatever comes. -/
structure ReadFrom (m : Machine H) (steps : List (Step H)) : Prop where
  /-- The open line of the bytes lies there. -/
  unended : m.endpoint.conn.assembler.unended = openLine (steps.flatMap Step.taken)
  /-- The replies are among those of the bytes. -/
  found : ∀ more, (steps.flatMap Step.brought ++
      (m.bringing ++ m.endpoint.conn.assembler.lying more)).Sublist
    (decoded (wholeLines (steps.flatMap Step.taken) ++ more))

/-- With no input and no call due, there is nothing to read from. -/
theorem readFrom_of_unread (unread : m.endpoint.unread = ({} : Assembler))
    (nothing : m.bringing = []) : m.ReadFrom [] where
  unended := congrArg Assembler.unended unread
  found more := by
    have same : m.endpoint.conn.assembler.lying more = decoded more :=
      congrArg (Assembler.lying · more) unread
    rw [nothing, same]
    exact List.Sublist.refl _

theorem bringing_of_noCall {e : Endpoint H} {frames : List (Frame H)}
    (noCall : ∀ v, .work v ∈ frames → v.isCall = false) : bringing ⟨e, frames⟩ = [] := by
  cases frames with
  | nil => rfl
  | cons frame rest =>
    cases frame with
    | code => rfl
    | work v =>
      have notDue := noCall v List.mem_cons_self
      cases v with
      | call handler notice => exact absurd notDue (by simp [Work.isCall])
      | _ => rfl

/-- A call can only be due in what the work has left: none waits below it. -/
theorem bringing_after (tidy : m.Tidy) {w : Work H} {frames : List (Frame H)}
    (due : Due m label w frames) :
    m.bringing = [] ∧
      (after m.endpoint w frames).bringing = Endpoint.broughtBy (m.endpoint.resume w).2 := by
  have below : ∀ v, .work v ∈ frames → v.isCall = false :=
    fun v mem => (due.frames_of_mem mem).2 tidy
  constructor
  · cases due with
    | work noCall =>
      refine bringing_of_noCall fun v mem => ?_
      rcases List.mem_cons.mp mem with first | mem
      · rw [Frame.work.inj first]
        exact noCall
      · exact below v mem
    | operate => rfl
  · cases left : (m.endpoint.resume w).2 with
    | nil => rw [after, left]; exact bringing_of_noCall below
    | cons first rest =>
      unfold bringing
      rw [frames_after, left]
      cases first <;> rfl

/-- A move that does no work neither takes bytes nor touches the input. -/
theorem ReadFrom.pause (h : m.ReadFrom steps)
    (endpoint : n.endpoint.conn.assembler = m.endpoint.conn.assembler)
    (brings : (⟨m, label⟩ : Step H).brought ++ n.bringing = m.bringing)
    (noWork : (⟨m, label⟩ : Step H).work? = none) :
    n.ReadFrom (if (⟨m, label⟩ : Step H).drops then [] else steps ++ [⟨m, label⟩]) := by
  have stays : (⟨m, label⟩ : Step H).drops = false := by rw [Step.drops, noWork]
  have nothing : (⟨m, label⟩ : Step H).taken = [] := by rw [Step.taken, noWork]
  rw [stays, if_neg Bool.false_ne_true]
  constructor
  · rw [endpoint, List.flatMap_append, List.flatMap_singleton, nothing, List.append_nil]
    exact h.unended
  · intro more
    rw [endpoint, List.flatMap_append, List.flatMap_append, List.flatMap_singleton,
      List.flatMap_singleton, nothing, List.append_nil, List.append_assoc,
      ← List.append_assoc (Step.brought _), brings]
    exact h.found more

/-- Work that keeps the input reads on from the open line. -/
theorem ReadFrom.work (h : m.ReadFrom steps) (tidy : m.Tidy) {w : Work H}
    {frames : List (Frame H)} (due : Due m label w frames) (stays : m.endpoint.drops w = false) :
    (after m.endpoint w frames).ReadFrom (steps ++ [⟨m, label⟩]) := by
  obtain ⟨idle, brings⟩ := bringing_after tidy due
  have taken : (⟨m, label⟩ : Step H).taken = m.endpoint.taken w := by
    rw [Step.taken, due.work?_eq]
  have noCall : (⟨m, label⟩ : Step H).brought = [] := by cases due <;> rfl
  have clean : lineFeed ∉ m.endpoint.conn.assembler.unended :=
    h.unended ▸ lineFeed_not_mem_openLine _
  obtain ⟨unended, found⟩ := Endpoint.lying_resume clean stays
  constructor
  · rw [endpoint_after, unended, h.unended, List.flatMap_append, List.flatMap_singleton, taken,
      ← openLine_append]
  · intro more
    have before := h.found (wholeLines (m.endpoint.conn.assembler.unended ++
      m.endpoint.taken w) ++ more)
    rw [idle, List.nil_append, h.unended, ← List.append_assoc, ← wholeLines_append] at before
    rw [List.flatMap_append, List.flatMap_append, List.flatMap_singleton,
      List.flatMap_singleton, taken, noCall, List.append_nil, brings]
    have here := found more
    rw [h.unended] at here
    exact (List.Sublist.append_left here _).trans before

/-- **A step reads on, or drops all input.** -/
theorem readFrom_move (h : m.ReadFrom steps) (tidy : m.Tidy)
    (move : Move Operation.Any m label n) :
    n.ReadFrom (if (⟨m, label⟩ : Step H).drops then [] else steps ++ [⟨m, label⟩]) := by
  cases move.turn with
  | @work _ _ w frames due =>
    have drops : (⟨m, label⟩ : Step H).drops = m.endpoint.drops w := by
      rw [Step.drops, due.work?_eq]
    rw [drops]
    split
    · next dropped =>
      obtain ⟨unread, nothing⟩ := Endpoint.unread_of_drops dropped
      exact readFrom_of_unread unread ((bringing_after tidy due).2.trans nothing)
    · next stays => exact h.work tidy due (Bool.not_eq_true _ ▸ stays)
  | call => exact h.pause rfl (List.append_nil _) rfl
  | leave =>
    refine h.pause rfl ?_ rfl
    exact (List.nil_append _).trans (bringing_of_noCall fun v mem => tidy.no_call v mem)
  | outside outside => exact h.pause (congrArg Connection.assembler outside.conn_eq) rfl rfl

theorem sinceDrop_concat (steps : List (Step H)) (step : Step H) :
    sinceDrop (steps ++ [step]) = if step.drops then [] else sinceDrop steps ++ [step] := by
  unfold sinceDrop
  cases dropped : step.drops with
  | true => rw [List.rtakeWhile_concat_neg _ _ _ (by simp [dropped]), if_pos rfl]
  | false => rw [List.rtakeWhile_concat_pos _ _ _ (by simp [dropped]), if_neg Bool.false_ne_true]

/-- What a run brings is read from the bytes behind the last drop. -/
theorem readFrom_of_trail (trail : Trail k steps n) (tidy : k.Tidy) (fresh : k.ReadFrom []) :
    n.ReadFrom (sinceDrop steps) ∧ n.Tidy := by
  refine trail.invariant (P := fun steps n => n.ReadFrom (sinceDrop steps) ∧ n.Tidy) ?_
    ⟨fresh, tidy⟩
  intro before a b l _ h move
  rw [sinceDrop_concat]
  exact ⟨readFrom_move h.1 h.2 move, tidy_move h.2 move⟩

/-! ### Upgrades -/

/-- The machine with other input. -/
def withInput (m : Machine H) (assembler : Assembler) : Machine H :=
  ⟨{ m.endpoint with conn := { m.endpoint.conn with assembler } }, m.frames⟩

/-- **Input that lies there makes no difference to an upgrade.** -/
theorem performed_withInput {a : Assembler}
    (same : a.expected = m.endpoint.conn.assembler.expected) :
    (m.withInput a).performed (.upgraded (.ok ())) = m.performed (.upgraded (.ok ())) := by
  have reset : a.reset = m.endpoint.conn.assembler.reset := by
    unfold Assembler.reset
    congr
  have dropped : (m.withInput a).endpoint.dropInput = m.endpoint.dropInput := by
    unfold Endpoint.dropInput withInput
    rw [reset]
  have upgraded : (m.withInput a).endpoint.upgraded (.ok ()) = m.endpoint.upgraded (.ok ()) := by
    rw [← Endpoint.upgraded_dropInput, dropped, Endpoint.upgraded_dropInput]
  exact congrArg (fun r : Reaction H => (⟨r.1, r.2.map .work ++ m.frames⟩ : Machine H)) upgraded

/-- The run goes on from the upgrade alone. -/
theorem run_upgraded_iff {labels : List (Label H)} :
    Run Operation.Any m (.operate (.upgraded (.ok ())) :: labels) n ↔
      (∃ frames, m.frames = .code :: frames) ∧
        Run Operation.Any (m.performed (.upgraded (.ok ()))) labels n := by
  constructor
  · intro run
    obtain ⟨k, move, rest⟩ := run.exists_cons
    cases move with
    | operate isAdmitted => exact ⟨⟨_, rfl⟩, rest⟩
  · rintro ⟨⟨frames, running⟩, rest⟩
    obtain ⟨e, _⟩ := m
    obtain rfl := running
    exact Run.cons (.operate trivial) rest

/-- **After an upgrade all goes on as if nothing had come before it.**  Whatever lay there when the
upgrade was reported, the same runs follow, with the same calls, and lead to the same machines;
and the replies that are handed out in them are, in order, replies of the bytes that came after
it. -/
theorem plaintext_forgotten {before : List (Step H)} (trail : Trail initial before m)
    (a : Assembler) (same : a.expected = m.endpoint.conn.assembler.expected) :
    (∀ labels n, Run Operation.Any m (.operate (.upgraded (.ok ())) :: labels) n ↔
      Run Operation.Any (m.withInput a) (.operate (.upgraded (.ok ())) :: labels) n) ∧
    ∀ k steps n, Move Operation.Any m (.operate (.upgraded (.ok ()))) k → Trail k steps n →
      ((sinceDrop steps).flatMap Step.brought).Sublist
        (decoded (wholeLines ((sinceDrop steps).flatMap Step.taken))) := by
  constructor
  · intro labels n
    rw [run_upgraded_iff, run_upgraded_iff, performed_withInput same]
    rfl
  · intro k steps n upgrade goesOn
    have tidy := tidy_of_run trail.run
    have tidyAfter := tidy_move tidy upgrade
    cases upgrade with
    | @operate e _ frames isAdmitted =>
      have dropped : e.drops (.perform (.upgraded (.ok ()))) = true := rfl
      obtain ⟨unread, brings⟩ := Endpoint.unread_of_drops dropped
      have nothing := (bringing_after tidy .operate).2.trans brings
      have fresh := readFrom_of_unread unread nothing
      have read := (readFrom_of_trail goesOn tidyAfter fresh).1.found []
      rw [List.append_nil] at read
      exact (List.sublist_append_left _ _).trans read

/-- Half a reply comes before the socket is secure, from whomever. -/
def injected : List (Choice Nat) :=
  [.operate (.dial (Config.build "mail" []) 0 1), .operate (.connected (.manual {})),
    .operate (.input (Utf8.encode "220 hi\r\n")), .proceed, .proceed, .operate (.upgrade 2), .leave,
    .proceed, .operate (.input (Utf8.encode "250-sink\r\n250 ho")), .proceed]

/-- The socket has become secure. -/
def secured : Machine Nat := (initial.play injected).2.performed (.upgraded (.ok ()))

/-- A command is written by the handler of the upgrade, and is answered. -/
def greetsAgain : List (Choice Nat) :=
  [.proceed, .operate (.write "EHLO" none 3), .leave, .operate (.input (Utf8.encode "250 mx\r\n")),
    .proceed, .proceed]

/-- The command is answered by what came after the upgrade, as if nothing had come before. -/
theorem injected_forgotten :
    (initial.play injected).2.endpoint.conn.assembler.isEmpty = false ∧
    ((sinceDrop (secured.track greetsAgain)).flatMap Step.brought) = [⟨⟨250⟩, ["mx"]⟩] ∧
    ((sinceDrop (secured.track greetsAgain)).flatMap Step.brought).Sublist
      (decoded (wholeLines ((sinceDrop (secured.track greetsAgain)).flatMap Step.taken))) ∧
    Run Operation.Any ((initial.play injected).2.withInput {})
      (.operate (.upgraded (.ok ())) :: (secured.play greetsAgain).1)
      (secured.play greetsAgain).2 := by
  have trail : Trail initial (initial.track injected) (initial.play injected).2 :=
    trail_play injected .nil
  obtain ⟨same, read⟩ := plaintext_forgotten trail ({} : Assembler) (by decide)
  have running : (initial.play injected).2.advance (.operate (.upgraded (.ok ()))) =
    some (.operate (.upgraded (.ok ())), secured) := rfl
  have upgrade := move_of_advance running
  have goesOn : Trail secured (secured.track greetsAgain) (secured.play greetsAgain).2 :=
    trail_play greetsAgain .nil
  exact ⟨by decide, by decide, read _ _ _ upgrade goesOn,
    (same _ _).mp (Run.cons upgrade (run_play _ greetsAgain))⟩

end Machine

end SmtpLink
