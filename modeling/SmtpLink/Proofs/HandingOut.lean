import SmtpLink.Proofs.Hearing
import SmtpLink.Proofs.TaskOrder
import SmtpLink.Proofs.Upgrade

/-!
# Handing out replies ends

A poll reads lines until it has a batch, meets an error or has read them all, and a chunk of input
is handed out by polls until one yields nothing.  Both loops end, whatever the server sends.  A poll
uses up a line in each turn, and since no batch is empty, a poll that yields one leaves fewer lines
and completed replies than it found; only a line that is too long yields something without using up
either, and it drops all input.  Handlers that run in between can add to what lies there only by
the input that they bring.

## Main definitions

* `Assembler.buffer` — the bytes that are not read yet.
* `Assembler.pollTurn`, `Assembler.PollsIn` — one turn of a poll, and a poll turn by turn.
* `Assembler.Drains` — polls end, and so do repeated polls, and no batch is empty.
* `Assembler.backlog` — the lines and the completed replies that lie there.
* `Machine.Step.isTurn` — a step is a turn of the loop that hands out a chunk.

## Main results

* `Assembler.drains` — **polling ends.**
* `Machine.turns_of_input` — **a chunk is handed out in a bounded number of turns.**
* `Machine.not_emptyBatch_of_trail` — no handler is ever brought a batch without a reply.
-/

namespace SmtpLink

variable {H : Type}

namespace Assembler

variable {a a' : Assembler}

/-- The bytes that have come and are not read yet. -/
def buffer (a : Assembler) : Bytes := ended a.ready ++ a.unended

/-- One turn of a poll: it reads a line, or the poll ends with what it yields. -/
def pollTurn (a : Assembler) : Assembler ⊕ Assembler × Polled :=
  if a.expected ≤ a.completed.length then
    .inr ({ a with completed := [] }, some (.ok a.completed))
  else match a.ready with
    | [] =>
      if maxLineLength < a.unended.length then
        .inr (a.reset, some (.error (.protocol .lineTooLong)))
      else .inr (a, none)
    | raw :: rest => match readLine a.block a.completed raw with
      | .refused err =>
        .inr ({ a with ready := rest, block := [], completed := [] }, some (.error err))
      | .taken block completed => .inl { a with ready := rest, block, completed }

/-- A poll that takes so many turns. -/
inductive PollsIn : Nat → Assembler → Assembler × Polled → Prop
  /-- The last turn. -/
  | last {a : Assembler} {r : Assembler × Polled} (ends : a.pollTurn = .inr r) : PollsIn 1 a r
  /-- A turn that reads a line, and those behind it. -/
  | more {a a' : Assembler} {turns : Nat} {r : Assembler × Polled} (reads : a.pollTurn = .inl a')
      (rest : PollsIn turns a' r) : PollsIn (turns + 1) a r

/-- Polls end, and so do repeated polls, and no batch is empty. -/
structure Drains (a : Assembler) : Prop where
  /-- A poll ends after it has read the lines that lie there at the latest. -/
  ends : ∃ turns ≤ a.buffer.count lineFeed + 1, a.PollsIn turns a.poll
  /-- A batch has a reply. -/
  nonempty : ∀ batch, a.poll.2 = some (.ok batch) → batch ≠ []
  /-- Repeated polls yield nothing after some results, of which there are at most as many as
  there are line feeds in the buffer and completed replies, and one more. -/
  drained : ∃ times ≤ a.buffer.count lineFeed + a.completed.length + 1,
    (pollFor times a).2.length = times ∧ (pollFor times a).1.poll.2 = none

/-- How many lines and completed replies lie there. -/
def backlog (a : Assembler) : Nat := a.ready.length + a.completed.length

/-! ### The buffer -/

theorem feed_cons (a : Assembler) (b : UInt8) (data : Bytes) :
    a.feed (b :: data) = (a.feed [b]).feed data := a.feed_append [b] data

/-- Bytes that come are put behind those that lie there. -/
theorem buffer_feed (a : Assembler) (data : Bytes) : (a.feed data).buffer = a.buffer ++ data := by
  induction data generalizing a with
  | nil => rw [feed_nil, List.append_nil]
  | cons b rest ih =>
    have first : (a.feed [b]).buffer = a.buffer ++ [b] := by
      by_cases feeds : b = lineFeed
      · subst feeds
        rw [feed_lineFeed, buffer, ended_append]
        simp [buffer, ended]
      · rw [feed_of_clean a (by simp [Ne.symm feeds]), buffer, buffer, List.append_assoc]
    rw [feed_cons, ih, first, List.append_assoc]
    rfl

/-- Each line feed that comes ends a line. -/
theorem length_ready_feed (a : Assembler) (data : Bytes) :
    (a.feed data).ready.length = a.ready.length + data.count lineFeed := by
  induction data generalizing a with
  | nil => rw [feed_nil, List.count_nil, Nat.add_zero]
  | cons b rest ih =>
    rw [feed_cons, ih, List.count_cons]
    by_cases feeds : b = lineFeed
    · subst feeds
      rw [feed_lineFeed, List.length_append, List.length_singleton, if_pos (beq_self_eq_true _)]
      omega
    · rw [feed_of_clean a (by simp [Ne.symm feeds]), if_neg (by simpa using feeds)]
      rfl

theorem length_le_count_ended (lines : List Bytes) :
    lines.length ≤ (ended lines).count lineFeed := by
  induction lines with
  | nil => exact Nat.le_refl 0
  | cons line lines ih =>
    rw [ended_cons, List.count_append, List.count_cons_self, List.length_cons]
    omega

theorem length_ready_le (a : Assembler) : a.ready.length ≤ a.buffer.count lineFeed := by
  have lines := length_le_count_ended a.ready
  rw [buffer, List.count_append]
  omega

/-! ### One poll -/

theorem pollsIn_pollLines (a : Assembler) (block : List String) (completed : List Reply)
    (lines : List Bytes) : ∃ turns ≤ lines.length + 1,
      PollsIn turns { a with ready := lines, block, completed }
        (a.pollLines block completed lines) := by
  fun_induction pollLines a block completed lines with
  | case1 block completed whole =>
    refine ⟨1, Nat.le_refl 1, .last ?_⟩
    rw [pollTurn, if_pos whole]
  | case2 block completed notWhole long =>
    refine ⟨1, Nat.le_refl 1, .last ?_⟩
    rw [pollTurn, if_neg notWhole]
    dsimp only
    rw [if_pos long]
    rfl
  | case3 block completed notWhole short =>
    refine ⟨1, Nat.le_refl 1, .last ?_⟩
    rw [pollTurn, if_neg notWhole]
    dsimp only
    rw [if_neg short]
  | case4 block completed raw rest whole =>
    refine ⟨1, Nat.le_add_left 1 _, .last ?_⟩
    rw [pollTurn, if_pos whole]
  | case5 block completed raw rest notWhole err refused =>
    refine ⟨1, Nat.le_add_left 1 _, .last ?_⟩
    rw [pollTurn, if_neg notWhole]
    dsimp only
    rw [refused]
  | case6 block completed raw rest notWhole block' completed' taken ih =>
    obtain ⟨turns, few, polls⟩ := ih
    refine ⟨turns + 1, Nat.succ_le_succ few, .more ?_ polls⟩
    rw [pollTurn, if_neg notWhole]
    dsimp only
    rw [taken]

/-! ### Repeated polls -/

theorem polls_poll_lt (something : a.poll.2 ≠ none) : a.poll.1.polls < a.polls :=
  polls_pollLines something

/-- Polls yield results as often as the bound allows at most, and then nothing. -/
theorem exists_pollFor {bound : Nat} (few : a.polls ≤ bound) : ∃ times ≤ bound,
    (pollFor times a).2.length = times ∧ (pollFor times a).1.poll.2 = none := by
  induction bound generalizing a with
  | zero =>
    refine ⟨0, Nat.le_refl 0, rfl, ?_⟩
    by_contra something
    have fewer : a.poll.1.polls < a.polls := polls_poll_lt something
    omega
  | succ bound ih =>
    cases polled : a.poll with
    | mk left result? =>
      cases result? with
      | none => exact ⟨0, Nat.zero_le _, rfl, congrArg Prod.snd polled⟩
      | some result =>
        have fewer : left.polls < a.polls := by
          have something : a.poll.2 ≠ none := by simp [polled]
          simpa [polled] using polls_poll_lt something
        have few' : left.polls ≤ bound := by omega
        obtain ⟨times, enough, length, nothing⟩ := ih few'
        refine ⟨times + 1, Nat.succ_le_succ enough, ?_⟩
        rw [pollFor, polled]
        exact ⟨congrArg (· + 1) length, nothing⟩

/-- **Polling ends.** -/
theorem drains (a : Assembler) : a.Drains where
  ends := by
    obtain ⟨turns, few, polls⟩ := pollsIn_pollLines a a.block a.completed a.ready
    have lines := a.length_ready_le
    exact ⟨turns, by omega, polls⟩
  nonempty _ := batch_ne_nil
  drained := by
    apply exists_pollFor
    have lines := a.length_ready_le
    rw [polls]
    -- a line that is too long is the one result that uses up neither a line nor a reply
    split <;> omega

/-! ### What lies there -/

/-- Each reply that a poll hands out has lain there, or used up a line. -/
theorem backlog_pollLines (a : Assembler) (block : List String) (completed : List Reply)
    (lines : List Bytes) : (a.pollLines block completed lines).1.backlog +
      (batch (a.pollLines block completed lines).2).length ≤ lines.length + completed.length := by
  fun_induction pollLines a block completed lines with
  | case6 block completed raw rest notWhole block' completed' taken ih =>
    have grown := length_completed_of_taken taken
    rw [List.length_cons]
    omega
  | _ => simp [backlog, batch, reset] <;> omega

theorem backlog_poll (a : Assembler) : a.poll.1.backlog + (batch a.poll.2).length ≤ a.backlog :=
  backlog_pollLines a a.block a.completed a.ready

theorem backlog_feed (a : Assembler) (data : Bytes) :
    (a.feed data).backlog = a.backlog + data.count lineFeed := by
  have lines := a.length_ready_feed data
  have same : (a.feed data).completed = a.completed := rfl
  rw [backlog, backlog, lines, same]
  omega

end Assembler

/-- Nothing is to be done, or one handler is to be called. -/
inductive CallsOnce : List (Work H) → Prop
  /-- Nothing. -/
  | none : CallsOnce []
  /-- A handler. -/
  | call (handler : H) (notice : Notice) : CallsOnce [.call handler notice]

namespace Endpoint

/-- How many lines and completed replies lie there. -/
def backlog (e : Endpoint H) : Nat := e.conn.assembler.backlog

theorem backlog_of_unread {e : Endpoint H} {a : Assembler} {n : Nat} (h : e.unread = a.expect n) :
    e.backlog = a.backlog := by
  have same : e.unread.backlog = (a.expect n).backlog := congrArg Assembler.backlog h
  exact same

/-- What lies there grows by the lines that come with the work at most. -/
theorem backlog_resume (e : Endpoint H) (w : Work H) :
    (e.resume w).1.backlog ≤ e.backlog + (e.taken w).count lineFeed := by
  -- all input is dropped, or handed out, or stays with what comes behind it
  cases drops : e.drops w with
  | true =>
    have none : (e.resume w).1.unread.backlog = 0 := by
      rw [(unread_of_drops drops).1]
      rfl
    have same : (e.resume w).1.unread.backlog = (e.resume w).1.backlog := rfl
    omega
  | false =>
    by_cases hands : w = .dispatch
    · subst hands
      have polled := Assembler.backlog_poll e.conn.assembler
      rw [resume, backlog_of_unread (unread_dispatch e).1, backlog]
      omega
    · rw [backlog_of_unread (unread_resume drops hands).1, Assembler.backlog_feed]
      rfl

theorem callsOnce_fault (e : Endpoint H) (err : Error) : CallsOnce (e.fault err).2 := by
  unfold fault
  split
  · exact .none
  · rw [work_deliverError]
    unfold errorCalls
    split
    · exact .call _ _
    · exact .none

theorem callsOnce_deliverReplies (e : Endpoint H) (batch : List Reply) :
    CallsOnce (e.deliverReplies batch).2 := by
  unfold deliverReplies
  dsimp only
  split
  · exact .none
  · exact .call _ _
  · split
    · exact .none
    · exact .call _ _
  · split
    · exact .none
    · exact .call _ _
  · split <;> exact .none

/-- A turn calls one handler at most.  Behind a batch the loop goes on, with less than before, and
else it is over. -/
theorem dispatch_goes_on_or_ends (e : Endpoint H) : ∃ calls, CallsOnce calls ∧
    ((e.dispatch.2 = calls ++ [.dispatch] ∧ e.dispatch.1.backlog < e.backlog) ∨
      e.dispatch.2 = calls) := by
  have polled := Assembler.backlog_poll e.conn.assembler
  rw [backlog_of_unread (unread_dispatch e).1]
  unfold dispatch
  dsimp only
  split
  · exact ⟨_, .none, .inr rfl⟩
  · next err _ => exact ⟨_, callsOnce_fault _ err, .inr rfl⟩
  · next replies result =>
    have some : 0 < replies.length := List.length_pos_iff.mpr (Assembler.batch_ne_nil result)
    rw [result, Assembler.batch] at polled
    refine ⟨_, callsOnce_deliverReplies _ replies, .inl ⟨rfl, ?_⟩⟩
    rw [backlog]
    omega

/-- No batch without a reply is brought to anybody. -/
theorem emptyBatch_resume (e : Endpoint H) (w : Work H)
    (h : .remark .emptyBatch ∈ (e.resume w).1.trace) : .remark .emptyBatch ∈ e.trace := by
  have stray : .remark .emptyBatch ∈ (e.resume w).1.strays := List.mem_filter.mpr ⟨h, rfl⟩
  rw [(hears_resume e w).strays, List.mem_append] at stray
  rcases stray with before | new
  · exact (List.mem_filter.mp before).1
  · obtain ⟨err, -, remarked⟩ := List.mem_flatMap.mp new
    unfold errorRemarks at remarked
    split at remarked <;> simp at remarked

end Endpoint

/-- A handler is to be called, or is running. -/
def Frame.isCalling : Frame H → Bool
  | .work w => w.isCall
  | .code => true

namespace Machine

variable {admitted : Operation H → Prop} {k m n : Machine H} {label : Label H}
  {base below : List (Frame H)} {steps inner : List (Step H)} {bound turns : Nat}

/-- The step is a turn of the loop that hands out a chunk, with so many frames below the loop. -/
def Step.isTurn (depth : Nat) (step : Step H) : Bool :=
  match step.label, step.before.frames with
  | .work, .work .dispatch :: below => below.length == depth
  | _, _ => false

/-- A loop that hands out a chunk above some frames, and has taken so many turns. -/
inductive Looping (base : List (Frame H)) (bound turns : Nat) (m : Machine H) : Prop
  /-- It goes on, and what lies there bounds its turns. -/
  | going (above : List (Frame H)) (frames : m.frames = above ++ .work .dispatch :: base)
      (few : turns + m.endpoint.backlog ≤ bound) : Looping base bound turns m
  /-- It is over, and the handler of an error may not have returned. -/
  | ended (above : List (Frame H)) (frame : Frame H) (frames : m.frames = above ++ frame :: base)
      (calling : frame.isCalling = true) (few : turns ≤ bound + 1) : Looping base bound turns m
  /-- It is over, and what stands below goes on. -/
  | left (frames : m.frames = base) (few : turns ≤ bound + 1) : Looping base bound turns m

/-- What lies there grows by the lines that come with the step at most. -/
theorem backlog_move (move : Move admitted m label n) :
    n.endpoint.backlog ≤ m.endpoint.backlog + (Step.taken ⟨m, label⟩).count lineFeed := by
  cases move.turn with
  | @work _ _ w frames due =>
    rw [Step.taken, due.work?_eq]
    exact Endpoint.backlog_resume _ w
  | call => exact Nat.le_add_right _ _
  | leave => exact Nat.le_add_right _ _
  | outside outside =>
    rw [Endpoint.backlog, outside.conn_eq]
    exact Nat.le_add_right _ _

theorem frames_of_isTurn {depth : Nat} (turn : Step.isTurn depth ⟨m, label⟩ = true) :
    ∃ below, m.frames = .work .dispatch :: below ∧ below.length = depth := by
  unfold Step.isTurn at turn
  split at turn
  · next below _ frames => exact ⟨below, frames, by simpa using turn⟩
  · exact absurd turn Bool.false_ne_true

/-- A loop does not take a turn while other frames stand above it, nor when it is over. -/
theorem not_isTurn {above : List (Frame H)} {frame : Frame H}
    (frames : m.frames = above ++ frame :: base) (other : above = [] → frame ≠ .work .dispatch) :
    Step.isTurn base.length ⟨m, label⟩ = false := by
  rw [Bool.eq_false_iff]
  intro turn
  obtain ⟨below, top, depth⟩ := frames_of_isTurn turn
  rw [top] at frames
  have lengths := congrArg List.length frames
  rw [List.length_append, List.length_cons, List.length_cons] at lengths
  obtain rfl : above = [] := List.length_eq_zero_iff.mp (by omega)
  exact other rfl (List.cons.inj frames).1.symm

/-- A turn hands out a batch, or is the last one. -/
theorem looping_turn {e : Endpoint H} (few : turns + e.backlog ≤ bound) :
    Looping base bound (turns + 1) (after e .dispatch base) := by
  obtain ⟨calls, once, ⟨left, fewer⟩ | left⟩ := e.dispatch_goes_on_or_ends
  · refine .going (calls.map .work) ?_ ?_
    · rw [frames_after, Endpoint.resume, left, List.map_append, List.append_assoc]
      rfl
    · rw [endpoint_after, Endpoint.resume]
      omega
  · have frames : (after e .dispatch base).frames = calls.map .work ++ base := by
      rw [frames_after, Endpoint.resume, left]
    cases once with
    | none => exact .left frames (by omega)
    | call handler notice => exact .ended [] _ frames rfl (by omega)

theorem looping_move (looping : Looping base bound turns m) (busy : m.frames ≠ base)
    (move : Move admitted m label n) :
    Looping base (bound + (Step.taken ⟨m, label⟩).count lineFeed)
      (turns + if Step.isTurn base.length ⟨m, label⟩ then 1 else 0) n := by
  cases looping with
  | going above frames few =>
    by_cases first : above = []
    · subst first
      obtain ⟨e, _⟩ := m
      obtain rfl : _ = .work .dispatch :: base := frames
      cases move with
      | work noCall =>
        have turn : Step.isTurn base.length ⟨⟨e, .work .dispatch :: base⟩, .work⟩ = true :=
          beq_self_eq_true _
        rw [turn, if_pos rfl]
        exact looping_turn few
      | drift found drift => exact .going [] rfl few
      | wait later => exact .going [] rfl few
    · obtain ⟨above', frames'⟩ := move.frames_of_inner frames first
      have grown := backlog_move move
      rw [not_isTurn frames fun none => absurd none first, if_neg Bool.false_ne_true]
      exact .going above' frames' (by omega)
  | ended above frame frames calling few =>
    have noTurn : Step.isTurn base.length ⟨m, label⟩ = false := by
      refine not_isTurn frames fun _ => ?_
      rintro rfl
      exact absurd calling Bool.false_ne_true
    rw [noTurn, if_neg Bool.false_ne_true]
    by_cases first : above = []
    · subst first
      obtain ⟨e, _⟩ := m
      obtain rfl : _ = frame :: base := frames
      cases move with
      | work noCall => exact absurd calling (by simp [Frame.isCalling, Work.isCall_of_ne noCall])
      | call => exact .ended [] .code rfl rfl (by omega)
      | operate => exact .ended _ .code rfl rfl (by omega)
      | leave => exact .left rfl (by omega)
      | drift found drift => exact .ended [] _ rfl calling (by omega)
      | wait later => exact .ended [] _ rfl calling (by omega)
      | switch => exact .ended [] .code rfl rfl (by omega)
    · obtain ⟨above', frames'⟩ := move.frames_of_inner frames first
      exact .ended above' frame frames' calling (by omega)
  | left frames few => exact absurd frames busy

/-- The chunk is put behind what lies there, and the loop begins. -/
theorem looping_performed (data : Bytes) : Looping k.frames
    ((k.endpoint.conn.assembler.buffer ++ data).count lineFeed +
      k.endpoint.conn.assembler.completed.length) 0 (k.performed (.input data)) := by
  have input : (k.performed (.input data)).frames =
      (k.endpoint.input data).2.map .work ++ k.frames := rfl
  have fed : (k.performed (.input data)).endpoint = (k.endpoint.input data).1 := rfl
  by_cases live : k.endpoint.conn.isLive = true
  · rw [Endpoint.input, if_pos live] at input fed
    refine .going [] input ?_
    have lines := (k.endpoint.conn.assembler.feed data).length_ready_le
    rw [Assembler.buffer_feed] at lines
    rw [fed, Nat.zero_add]
    exact Nat.add_le_add_right lines _
  · rw [Endpoint.input, if_neg live] at input
    exact .left input (Nat.zero_le _)

/-- The lines that come while the loop goes on allow as many more turns. -/
theorem looping_of_trail (begins : Looping base bound 0 k) (trail : Trail k inner m)
    (busy : ∀ step ∈ inner, step.before.frames ≠ base) :
    Looping base (bound + (inner.flatMap Step.taken).count lineFeed)
      (inner.countP (Step.isTurn base.length)) m := by
  -- as long as the call has not returned, each step keeps the loop
  induction trail with
  | nil => exact begins
  | snoc trail move ih =>
    obtain ⟨busy, last⟩ := List.forall_mem_append.mp busy
    have moved := looping_move (ih busy) (last _ List.mem_cons_self) move
    rw [List.countP_append, List.countP_singleton, List.flatMap_append, List.flatMap_singleton,
      List.count_append, ← Nat.add_assoc]
    exact moved

/-- **A chunk is handed out in a bounded number of turns.**  As long as the call that brings it has
not returned, there are at most as many as there are lines to be read and completed replies, and
one more; a handler can add to them only by the lines that it brings. -/
theorem turns_of_input {data : Bytes} (trail : Trail (k.performed (.input data)) inner m)
    (busy : ∀ step ∈ inner, step.before.frames ≠ k.frames) :
    inner.countP (Step.isTurn k.frames.length) ≤
      (k.endpoint.conn.assembler.buffer ++ data).count lineFeed +
        k.endpoint.conn.assembler.completed.length + 1 +
        (inner.flatMap Step.taken).count lineFeed := by
  cases looping_of_trail (looping_performed data) trail busy with
  | going above frames few => omega
  | ended above frame frames calling few => omega
  | left frames few => omega

/-! ### Returning -/

/-- Steps that bring nothing, and leave these frames where they are, below others. -/
def StaysAbove (frames : List (Frame H)) (inner : List (Step H)) : Prop :=
  ∀ step ∈ inner, frames.length < step.before.frames.length ∧ step.taken = []

/-- A handler that is called may return at once. -/
theorem exists_returned {calls : List (Work H)} (once : CallsOnce calls) (e : Endpoint H)
    (frame : Frame H) (below : List (Frame H)) : ∃ inner,
      Trail ⟨e, calls.map .work ++ frame :: below⟩ inner ⟨e, frame :: below⟩ ∧
      StaysAbove (frame :: below) inner := by
  cases once with
  | none => exact ⟨[], .nil, by simp [StaysAbove]⟩
  | call handler notice =>
    refine ⟨_, .cons .call (.cons .leave .nil), ?_⟩
    simp [StaysAbove, Step.taken, Step.work?]

/-- A loop whose handlers return at once comes to its end. -/
theorem exists_left (e : Endpoint H) (frame : Frame H) (below : List (Frame H)) : ∃ inner m,
    Trail ⟨e, .work .dispatch :: frame :: below⟩ inner m ∧ m.frames = frame :: below ∧
      StaysAbove (frame :: below) inner := by
  -- a turn behind which the loop goes on leaves less to be handed out
  induction size : e.backlog using Nat.strong_induction_on generalizing e with
  | h size ih =>
    have turn : Move Operation.Any ⟨e, .work .dispatch :: frame :: below⟩ .work
        (after e .dispatch (frame :: below)) := .work (by simp)
    have stays : (frame :: below).length < (.work .dispatch :: frame :: below).length ∧
        Step.taken ⟨⟨e, .work .dispatch :: frame :: below⟩, .work⟩ = [] :=
      ⟨Nat.lt_succ_self _, rfl⟩
    obtain ⟨calls, once, ⟨left, fewer⟩ | left⟩ := e.dispatch_goes_on_or_ends
    · have frames : after e .dispatch (frame :: below) =
          ⟨e.dispatch.1, calls.map .work ++ .work .dispatch :: frame :: below⟩ := by
        rw [after, Endpoint.resume, left, List.map_append, List.append_assoc]
        rfl
      rw [frames] at turn
      obtain ⟨called, returns, above⟩ :=
        exists_returned once e.dispatch.1 (.work .dispatch) (frame :: below)
      obtain ⟨inner, m, goes, back, above'⟩ := ih _ (size ▸ fewer) e.dispatch.1 rfl
      refine ⟨_, m, .cons turn (returns.append goes), back, ?_⟩
      refine List.forall_mem_cons.mpr ⟨stays, List.forall_mem_append.mpr ⟨?_, above'⟩⟩
      intro step mem
      exact (above step mem).imp_left Nat.lt_of_succ_lt
    · have frames : after e .dispatch (frame :: below) =
          ⟨e.dispatch.1, calls.map .work ++ frame :: below⟩ := by
        rw [after, Endpoint.resume, left]
      rw [frames] at turn
      obtain ⟨called, returns, above⟩ := exists_returned once e.dispatch.1 frame below
      exact ⟨_, _, .cons turn returns, rfl, List.forall_mem_cons.mpr ⟨stays, above⟩⟩

/-- The call that brings a chunk returns if its handlers do. -/
theorem exists_returns (code : k.frames = .code :: below) (data : Bytes) : ∃ inner m,
    Trail (k.performed (.input data)) inner m ∧ Returns k inner m ∧
      inner.flatMap Step.taken = [] := by
  by_cases live : k.endpoint.conn.isLive = true
  · obtain ⟨inner, m, trail, back, above⟩ := exists_left (k.endpoint.input data).1 .code below
    have begins : k.performed (.input data) =
        ⟨(k.endpoint.input data).1, .work .dispatch :: .code :: below⟩ := by
      have input : k.performed (.input data) = ⟨(k.endpoint.input data).1,
        (k.endpoint.input data).2.map .work ++ k.frames⟩ := rfl
      rw [input, code, Endpoint.input, if_pos live]
      rfl
    refine ⟨inner, m, begins ▸ trail, ⟨?_, back.trans code.symm⟩, ?_⟩
    · intro step mem same
      have higher := (above step mem).1
      rw [same, code] at higher
      exact Nat.lt_irrefl _ higher
    · exact List.flatMap_eq_nil_iff.mpr fun step mem => (above step mem).2
  · refine ⟨[], _, .nil, ⟨by simp, ?_⟩, rfl⟩
    show (k.endpoint.input data).2.map .work ++ k.frames = k.frames
    rw [Endpoint.input, if_neg live]
    rfl

/-- No handler is ever brought a batch without a reply. -/
theorem not_emptyBatch_of_trail (trail : Trail initial steps m) :
    .remark .emptyBatch ∉ m.endpoint.trace := by
  induction trail with
  | nil => exact List.not_mem_nil
  | snoc trail move ih =>
    intro remarked
    refine ih ?_
    cases move.turn with
    | work due => exact Endpoint.emptyBatch_resume _ _ remarked
    | call => exact remarked
    | leave => exact remarked
    | outside outside =>
      rw [← outside.trace_eq]
      exact remarked

/-- **Handing out replies ends, and no batch is empty.**  Whatever an assembler was fed, however
its batches were sized and whenever it was polled and reset, a poll ends and brings no batch without
a reply, and repeated polls come to nothing.  So in every run the loop that hands out a chunk of
input takes a bounded number of turns, to which its handlers add only by the lines that they bring
themselves, and the call that brings the chunk returns if they do; and nobody is ever brought an
empty batch. -/
theorem handing_out_ends :
    (∀ script, (AssemblerScript.after {} script).Drains) ∧
    ∀ (steps : List (Step H)) (m : Machine H), Trail initial steps m →
      (∀ before k data inner, steps = before ++ ⟨k, .operate (.input data)⟩ :: inner →
        ((∀ step ∈ inner, step.before.frames ≠ k.frames) →
          inner.countP (Step.isTurn k.frames.length) ≤
            (k.endpoint.conn.assembler.buffer ++ data).count lineFeed +
              k.endpoint.conn.assembler.completed.length + 1 +
              (inner.flatMap Step.taken).count lineFeed) ∧
        ∃ inner' m', Trail (k.performed (.input data)) inner' m' ∧ Returns k inner' m' ∧
          inner'.flatMap Step.taken = []) ∧
      .remark .emptyBatch ∉ m.endpoint.trace := by
  refine ⟨fun script => Assembler.drains _, fun steps m trail => ⟨?_, ?_⟩⟩
  · rintro before k data inner rfl
    obtain ⟨_, -, later⟩ := trail.exists_append
    obtain ⟨rfl, n, move, rest⟩ := later.exists_cons
    cases move with
    | operate => exact ⟨turns_of_input rest, exists_returns rfl data⟩
  · exact not_emptyBatch_of_trail trail

/-- The greeting is waited for. -/
def greetingDue : List (Choice Nat) :=
  [.operate (.dial (Config.build "mail" []) 0 1), .operate (.connected (.manual {}))]

/-- Two replies in print. -/
def twoLines : Bytes := [50, 50, 48, 10, 50, 53, 48, 10]

/-- The greeting is handed out, a reply that nobody waits for is dropped, and nothing is left. -/
def bothHandedOut : List (Choice Nat) := [.proceed, .proceed, .leave, .proceed, .proceed]

/-- Two lines are handed out in as many turns as they allow at most. -/
theorem two_lines_in_three_turns :
    (((initial.play greetingDue).2.performed (.input twoLines)).track
      bothHandedOut).countP (Step.isTurn 1) = 3 := by
  have due : Trail initial (initial.track greetingDue) (initial.play greetingDue).2 :=
    trail_play greetingDue .nil
  have trail := trail_play (.operate (.input twoLines) :: bothHandedOut) due
  have settled : (initial.play greetingDue).2.Settled := by decide
  have busy : ∀ step ∈ ((initial.play greetingDue).2.performed (.input twoLines)).track
      bothHandedOut, ¬ step.before.Settled := by decide
  obtain ⟨bounded, -⟩ := (handing_out_ends.2 _ _ trail).1 _ _ _ _ rfl
  have few := bounded fun step mem same => busy step mem (same.trans settled)
  have many : 3 ≤ (((initial.play greetingDue).2.performed (.input twoLines)).track
      bothHandedOut).countP (Step.isTurn 1) := by decide
  exact Nat.le_antisymm few many

end Machine

end SmtpLink
