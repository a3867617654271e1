import SmtpLink.Proofs.Serial

/-!
# How far an exchange has come

While a connection is open in a serial exchange, its slot, its input and the frames that are due
tell how far the exchange has come: which answers were handed out, which part of the next answer
has come, and who waits for it.  Every move that is permitted keeps this in step with what was
asked, fed and heard.  A command may be written by the very handler that is called with the reply
before it, while the rest of a chunk still waits to be handed out.

## Main definitions

* `Machine.Tower`, `Machine.Stack` — what may be due in an exchange.
* `Machine.Exchange` — the answers that were handed out, the part of the next that has come, and
  who waits for it.
* `Machine.Serving` — an open connection in the course of an exchange.

## Main results

* `Machine.Serving.dispatch` — **handing out answers whoever waits, as soon as the answer is
  complete.**
* `Machine.Serving.ask`, `Machine.Serving.input` — whoever writes is the next to be answered, and
  what comes is a part of the answer.
* `Machine.Serving.operate` — what is permitted keeps the exchange going.
-/

namespace SmtpLink

variable {H : Type}

namespace Machine

variable {answers : Nat → Block} {labels : List (Label H)} {m n : Machine H}

/-! ### The exchange as it goes -/

/-- Code that is running, with code and handing-outs below it that wait; a handing-out may come
first. -/
inductive Tower : List (Frame H) → Prop
  /-- Only the code outside is running. -/
  | outside : Tower [.code]
  /-- A handler is running. -/
  | code {frames : List (Frame H)} (below : Tower frames) : Tower (.code :: frames)
  /-- Replies are being handed out on behalf of running code. -/
  | dispatch {frames : List (Frame H)} (below : Tower (.code :: frames)) :
      Tower (.work .dispatch :: .code :: frames)

/-- What may be due in an exchange: a tower, with one call on top of it perhaps. -/
inductive Stack : List (Frame H) → Prop
  /-- No call is due first. -/
  | tower {frames : List (Frame H)} (tower : Tower frames) : Stack frames
  /-- A call is due first. -/
  | call {frames : List (Frame H)} (handler : H) (notice : Notice) (tower : Tower frames) :
      Stack (.work (.call handler notice) :: frames)

/-- The call with replies that is due first, if there is one. -/
def dueCall : List (Frame H) → List (H × Notice)
  | .work (.call handler notice) :: _ => (Label.call handler notice).heard?.toList
  | _ => []

/-- Replies are to be handed out next. -/
def handsOut : List (Frame H) → Bool
  | .work .dispatch :: _ => true
  | _ => false

@[simp] theorem dueCall_code (frames : List (Frame H)) : dueCall (.code :: frames) = [] := rfl

theorem handsOut_code (frames : List (Frame H)) : handsOut (.code :: frames) = false := rfl

theorem handsOut_call (handler : H) (notice : Notice) (frames : List (Frame H)) :
    handsOut (.work (.call handler notice) :: frames) = false := rfl

/-- The handler waits for something, and is not the graceful close. -/
def Asks (handler : ReplyHandler H) : Prop := handler ≠ .quit ∧ 1 ≤ handler.count

/-- How far the exchange has come when the answers to `served` are handed out. -/
inductive Exchange (answers : Nat → Block) (labels : List (Label H)) (c : Connection H)
    (frames : List (Frame H)) (served : List (ReplyHandler H)) : Prop
  /-- Nobody waits: all that was asked is answered, and nothing else has come. -/
  | answered (slot : c.phase.slot? = none) (asked : requests labels = served)
      (empty : c.assembler = .fresh 1) (read : fed labels = wire (span answers 0 (total served)))
  /-- Somebody waits, for whom a part of the answer has come.  The whole answer is handed out
  next. -/
  | awaiting {handler : ReplyHandler H} {data : Bytes} (slot : c.phase.slot? = some handler)
      (asks : Asks handler) (asked : requests labels = served ++ [handler])
      (holds : c.assembler.Holds handler.count data)
      (read : fed labels = wire (span answers 0 (total served)) ++ data)
      (part : data <+: wire (span answers (total served) handler.count))
      (whole : data = wire (span answers (total served) handler.count) → handsOut frames = true)

/-- The connection goes on whatever happens in an exchange. -/
structure Calm (c : Connection H) : Prop where
  /-- It holds a socket. -/
  live : c.isLive = true
  /-- The peer has not closed it. -/
  peer : c.peerClosed = false
  /-- No shutdown is requested. -/
  stays : c.shutdownRequested = false
  /-- The graceful close has not begun. -/
  noQuit : c.errorHandler ≠ some .quit

/-- An open connection in the course of an exchange. -/
structure Serving (answers : Nat → Block) (labels : List (Label H)) (m : Machine H) : Prop where
  /-- The connection goes on. -/
  calm : Calm m.endpoint.conn
  /-- What is due. -/
  stack : Stack m.frames
  /-- The calls made, and the one that is due, are those for the answers that were handed out. -/
  exchange : ∃ served, heard labels ++ dueCall m.frames = calls answers served 0 ∧
    Exchange answers labels m.endpoint.conn m.frames served

/-! ### Moves that leave the exchange alone -/

theorem Exchange.of_same {labels' : List (Label H)} {c c' : Connection H}
    {frames frames' : List (Frame H)} {served : List (ReplyHandler H)}
    (h : Exchange answers labels c frames served) (slot : c'.phase.slot? = c.phase.slot?)
    (assembler : c'.assembler = c.assembler) (asked : requests labels' = requests labels)
    (read : fed labels' = fed labels) (handing : handsOut frames = true → handsOut frames' = true) :
    Exchange answers labels' c' frames' served := by
  cases h with
  | answered slot' asked' empty' read' =>
    exact .answered (slot.trans slot') (asked.trans asked') (assembler.trans empty')
      (read.trans read')
  | awaiting slot' asks asked' holds read' part whole =>
    refine .awaiting (slot.trans slot') asks (asked.trans asked') ?_ (read.trans read') part
      fun h => handing (whole h)
    rw [assembler]
    exact holds

/-! ### Handing out -/

theorem dispatch_of_none {e : Endpoint H} (nothing : e.conn.assembler.poll.2 = none) :
    e.dispatch = ({ e with conn := { e.conn with assembler := e.conn.assembler.poll.1 } }, []) := by
  unfold Endpoint.dispatch
  generalize e.conn.assembler.poll = polled at nothing ⊢
  obtain ⟨assembler, yield⟩ := polled
  obtain rfl : yield = none := nothing
  rfl

theorem dispatch_of_batch {e : Endpoint H} {assembler : Assembler} {batch : List Reply}
    (polled : e.conn.assembler.poll = (assembler, some (.ok batch))) :
    e.dispatch =
      ((Endpoint.deliverReplies { e with conn := { e.conn with assembler } } batch).1,
        (Endpoint.deliverReplies { e with conn := { e.conn with assembler } } batch).2 ++
          [.dispatch]) := by
  unfold Endpoint.dispatch
  rw [polled]

/-- Whoever waits is called with the answer, and then nobody waits. -/
theorem deliverReplies_of_asks {e : Endpoint H} {handler : ReplyHandler H} (asks : Asks handler)
    (slot : e.conn.phase.slot? = some handler) (assembler : e.conn.assembler = .fresh handler.count)
    (answers : Nat → Block) (k : Nat) :
    ∃ (called : H) (notice : Notice), calls answers [handler] k = [(called, notice)] ∧
      notice.isReplies = true ∧
      (e.deliverReplies ((span answers k handler.count).map Block.reply)).2 =
        [.call called notice] ∧
      (e.deliverReplies ((span answers k handler.count).map Block.reply)).1.conn =
        { (e.setSlot none).conn with assembler := .fresh 1 } := by
  have slotOnly : (e.setSlot none).conn =
      { (e.setSlot none).conn with assembler := .fresh handler.count } := by
    rw [← assembler]
    rfl
  cases handler with
  | greeting called =>
    have delivered : e.deliverReplies [(answers k).reply] =
        (e.setSlot none, [.call called (.greeting (answers k).reply)]) := by
      unfold Endpoint.deliverReplies
      rw [slot]
    refine ⟨called, .greeting (answers k).reply, rfl, rfl, congrArg Prod.snd delivered, ?_⟩
    exact (congrArg (fun r => r.1.conn) delivered).trans slotOnly
  | reply called =>
    have delivered : e.deliverReplies [(answers k).reply] =
        (e.setSlot none, [.call called (.reply (answers k).reply)]) := by
      unfold Endpoint.deliverReplies
      rw [slot]
    refine ⟨called, .reply (answers k).reply, rfl, rfl, congrArg Prod.snd delivered, ?_⟩
    exact (congrArg (fun r => r.1.conn) delivered).trans slotOnly
  | replies called count =>
    -- a group sets the size of a batch back before its handler is called
    have delivered (batch : List Reply) : e.deliverReplies batch =
        ((e.setSlot none).expect 1, [.call called (.replies batch)]) := by
      unfold Endpoint.deliverReplies
      rw [slot]
    refine ⟨called, .replies ((span answers k count).map Block.reply), rfl, rfl,
      congrArg Prod.snd (delivered _), ?_⟩
    rw [delivered, Endpoint.expect, slotOnly]
    rfl
  | quit => exact absurd rfl asks.1

/-- A whole answer is handed out, and nothing is left of it. -/
theorem dispatch_of_whole {e : Endpoint H} {handler : ReplyHandler H} {k : Nat}
    (asks : Asks handler) (slot : e.conn.phase.slot? = some handler)
    (holds : e.conn.assembler.Holds handler.count (wire (span answers k handler.count))) :
    ∃ (called : H) (notice : Notice), calls answers [handler] k = [(called, notice)] ∧
      notice.isReplies = true ∧ e.dispatch.2 = [.call called notice, .dispatch] ∧
      e.dispatch.1.conn = { (e.setSlot none).conn with assembler := .fresh 1 } := by
  have count := length_span answers k handler.count
  have ne : span answers k handler.count ≠ [] := by
    rw [← List.length_pos_iff, count]
    exact asks.2
  have handed := Assembler.poll_feed_wire ne
  rw [count, ← holds.poll_eq] at handed
  obtain ⟨called, notice, next, replies, work, conn⟩ := deliverReplies_of_asks
    (e := { e with conn := { e.conn with assembler := .fresh handler.count } }) asks slot rfl
    answers k
  refine ⟨called, notice, next, replies, ?_, ?_⟩
  · rw [dispatch_of_batch handed, work]
    rfl
  · rw [dispatch_of_batch handed, conn]
    rfl

theorem Calm.of_same {c c' : Connection H} (calm : Calm c) (live : c'.isLive = c.isLive)
    (peer : c'.peerClosed = c.peerClosed) (stays : c'.shutdownRequested = c.shutdownRequested)
    (errors : c'.errorHandler = c.errorHandler ∨ c'.errorHandler = none) : Calm c' where
  live := live.trans calm.live
  peer := peer.trans calm.peer
  stays := stays.trans calm.stays
  noQuit := by
    rcases errors with same | none
    · rw [same]
      exact calm.noQuit
    · simp [none]

theorem Calm.setSlot {e : Endpoint H} (calm : Calm e.conn) (slot : Option (ReplyHandler H))
    (assembler : Assembler) : Calm { (e.setSlot slot).conn with assembler } :=
  calm.of_same (Endpoint.isLive_setSlot e slot) rfl rfl (.inl rfl)

variable {e : Endpoint H} {frames : List (Frame H)} {served : List (ReplyHandler H)}

/-- A handing-out that finds nothing to hand out is over. -/
theorem Serving.of_nothing (calm : Calm e.conn) (below : Tower (.code :: frames))
    (made : heard labels = calls answers served 0) (nothing : e.conn.assembler.poll.2 = none)
    (exchange : Exchange answers (labels ++ [.work])
      { e.conn with assembler := e.conn.assembler.poll.1 } (.code :: frames) served) :
    Serving answers (labels ++ [.work]) (after e .dispatch (.code :: frames)) ∧
      (after e .dispatch (.code :: frames)).Near := by
  have done : after e .dispatch (.code :: frames) =
      ⟨{ e with conn := { e.conn with assembler := e.conn.assembler.poll.1 } },
        .code :: frames⟩ := by
    rw [after, Endpoint.resume, dispatch_of_none nothing]
    rfl
  rw [done]
  refine ⟨⟨calm.of_same rfl rfl rfl (.inl rfl), .tower below, served, ?_, exchange⟩,
    .inl ⟨frames, rfl⟩⟩
  simpa [Label.heard?] using made

/-- A handing-out that finds the whole answer calls whoever waits, and goes on after that. -/
theorem Serving.of_whole {handler : ReplyHandler H} (calm : Calm e.conn)
    (below : Tower (.code :: frames)) (made : heard labels = calls answers served 0)
    (slot : e.conn.phase.slot? = some handler) (asks : Asks handler)
    (asked : requests labels = served ++ [handler])
    (holds : e.conn.assembler.Holds handler.count
      (wire (span answers (total served) handler.count)))
    (read : fed labels = wire (span answers 0 (total served)) ++
      wire (span answers (total served) handler.count)) :
    Serving answers (labels ++ [.work]) (after e .dispatch (.code :: frames)) ∧
      (after e .dispatch (.code :: frames)).Near := by
  obtain ⟨called, notice, next, replies, work, conn⟩ := dispatch_of_whole asks slot holds
  have due : (Label.call called notice).heard? = some (called, notice) := by
    simp [Label.heard?, replies]
  have done : after e .dispatch (.code :: frames) = ⟨e.dispatch.1,
      .work (.call called notice) :: .work .dispatch :: .code :: frames⟩ := by
    rw [after, Endpoint.resume, work]
    rfl
  rw [done]
  refine ⟨⟨?_, .call called notice (.dispatch below), served ++ [handler], ?_,
    .answered ?_ ?_ ?_ ?_⟩, .inr ⟨called, notice, _, rfl⟩⟩
  · rw [conn]
    exact calm.setSlot none (.fresh 1)
  · -- the call that is due now is the next of those to be made
    rw [calls_append, Nat.zero_add, next, ← made, dueCall, due]
    simp [Label.heard?]
  · rw [conn]
    exact Endpoint.slot?_setSlot_of_live calm.live none
  · simpa [Label.request?] using asked
  · rw [conn]
  · rw [total_snoc, span_append, wire_append, ← read]
    simp [Label.input]

/-- **Handing out answers whoever waits, as soon as the answer is complete.** -/
theorem Serving.dispatch
    (serving : Serving answers labels ⟨e, .work .dispatch :: .code :: frames⟩)
    (below : Tower (.code :: frames)) :
    Serving answers (labels ++ [.work]) (after e .dispatch (.code :: frames)) ∧
      (after e .dispatch (.code :: frames)).Near := by
  obtain ⟨calm, -, served, made, exchange⟩ := serving
  have made : heard labels = calls answers served 0 := (List.append_nil _).symm.trans made
  cases exchange with
  | answered slot asked empty read =>
    -- the last turn of the loop: the assembler is as good as new, and stays so
    have polled : e.conn.assembler.poll = (.fresh 1, none) := by
      rw [empty]
      exact Assembler.poll_fresh
    refine Serving.of_nothing calm below made (by rw [polled])
      (.answered slot ?_ (by rw [polled]) ?_)
    · simpa [Label.request?] using asked
    · simpa [Label.input] using read
  | @awaiting handler data slot asks asked holds read part whole =>
    by_cases complete : data = wire (span answers (total served) handler.count)
    · rw [complete] at holds read
      exact Serving.of_whole calm below made slot asks asked holds read
    · -- lines that are read meanwhile change the assembler, but not what it holds
      have nothing : e.conn.assembler.poll.2 = none := by
        rw [holds.poll_eq, ← length_span answers (total served) handler.count]
        exact Assembler.poll_feed_of_part part complete
      refine Serving.of_nothing calm below made nothing (.awaiting slot asks ?_
        (holds.poll nothing) ?_ part fun h => absurd h complete)
      · simpa [Label.request?] using asked
      · simpa [Label.input] using read

/-! ### Calling and returning -/

theorem Serving.call {handler : H} {notice : Notice}
    (serving : Serving answers labels ⟨e, .work (.call handler notice) :: frames⟩)
    (tower : Tower frames) :
    Serving answers (labels ++ [.call handler notice]) ⟨e, .code :: frames⟩ := by
  obtain ⟨calm, -, served, made, exchange⟩ := serving
  refine ⟨calm, .tower (.code tower), served, ?_, exchange.of_same rfl rfl ?_ ?_ ?_⟩
  · rw [heard_snoc, dueCall_code, List.append_nil]
    exact made
  · simp [Label.request?]
  · simp [Label.input]
  · intro h
    exact absurd ((handsOut_call handler notice frames).symm.trans h) Bool.false_ne_true

theorem Serving.leave {e : Endpoint H} {frame : Frame H} {frames : List (Frame H)}
    (serving : Serving answers labels ⟨e, .code :: frame :: frames⟩)
    (tower : Tower (frame :: frames)) :
    Serving answers (labels ++ [.leave]) ⟨e, frame :: frames⟩ := by
  obtain ⟨calm, -, served, made, exchange⟩ := serving
  -- below running code no call is due, since calls are made as soon as they are due
  have noCall : dueCall (frame :: frames) = [] := by
    cases tower <;> rfl
  refine ⟨calm, .tower tower, served, ?_, exchange.of_same rfl rfl ?_ ?_ ?_⟩
  · rw [heard_snoc, noCall]
    simpa [Label.heard?] using made
  · simp [Label.request?]
  · simp [Label.input]
  · intro h
    exact absurd ((handsOut_code _).symm.trans h) Bool.false_ne_true

theorem Serving.outside {e e' : Endpoint H} {frames : List (Frame H)}
    (serving : Serving answers labels ⟨e, frames⟩) (outside : e.Outside e') :
    Serving answers (labels ++ [.outside]) ⟨e', frames⟩ := by
  obtain ⟨calm, stack, served, made, exchange⟩ := serving
  have conn := outside.conn_eq
  refine ⟨?_, stack, served, ?_, exchange.of_same ?_ ?_ ?_ ?_ id⟩
  · rw [conn]
    exact calm
  · simpa [Label.heard?] using made
  · rw [conn]
  · rw [conn]
  · simp [Label.request?]
  · simp [Label.input]

/-! ### Operations that ask for nothing -/

/-- The connection goes on with who waits and what has come as they were. -/
structure Still (c c' : Connection H) : Prop where
  calm : Calm c'
  slot : c'.phase.slot? = c.phase.slot?
  assembler : c'.assembler = c.assembler

theorem Still.of_eq {c c' : Connection H} (calm : Calm c) (same : c' = c) : Still c c' := by
  subst same
  exact ⟨calm, rfl, rfl⟩

theorem Serving.tower (serving : Serving answers labels ⟨e, .code :: frames⟩) :
    Tower (.code :: frames) := by
  cases serving.stack with
  | tower tower => exact tower

/-- An operation that asks nothing of the server, and neither feeds nor takes, leaves the exchange
alone; it may call the handler for errors. -/
theorem Serving.of_still (serving : Serving answers labels ⟨e, .code :: frames⟩)
    {operation : Operation H} (still : Still e.conn (e.perform operation).1.conn)
    (work : (e.perform operation).2 = [] ∨
      ∃ handler err, (e.perform operation).2 = [.call handler (.error err)])
    (asks : operation.request? = none) (feeds : (Label.operate operation).input = []) :
    Serving answers (labels ++ [.operate operation])
      (performed ⟨e, .code :: frames⟩ operation) := by
  have tower := serving.tower
  obtain ⟨-, -, served, made, exchange⟩ := serving
  refine ⟨still.calm, ?_, served, ?_, exchange.of_same still.slot still.assembler ?_ ?_ ?_⟩
  · -- a call of the handler for errors is due first, or nothing is
    rcases work with work | ⟨handler, err, work⟩
    · rw [performed, frames_after, Endpoint.resume, work]
      exact .tower tower
    · rw [performed, frames_after, Endpoint.resume, work]
      exact .call handler (.error err) tower
  · have nothing : dueCall (performed ⟨e, .code :: frames⟩ operation).frames = [] := by
      rw [performed, frames_after, Endpoint.resume]
      rcases work with work | ⟨handler, err, work⟩ <;> rw [work] <;> rfl
    rw [nothing, heard_snoc]
    simpa [Label.heard?] using made
  · simp [Label.request?, asks]
  · simp [feeds]
  · intro h
    exact absurd ((handsOut_code _).symm.trans h) Bool.false_ne_true

theorem Serving.changeUsage (serving : Serving answers labels ⟨e, .code :: frames⟩)
    {operation : Operation H} {origin usage : Usage}
    (perform : e.perform operation = (e.changeUsage origin usage, []))
    (asks : operation.request? = none) (feeds : (Label.operate operation).input = []) :
    Serving answers (labels ++ [.operate operation])
      (performed ⟨e, .code :: frames⟩ operation) := by
  obtain ⟨id, held⟩ := Endpoint.isLive_iff.mp serving.calm.live
  have live : (e.changeUsage origin usage).conn.isLive = true :=
    Endpoint.isLive_iff.mpr ⟨id, (Endpoint.transport?_changeUsage e origin usage).trans held⟩
  obtain ⟨-, assembler, slot⟩ := Endpoint.Keeps.changeUsage e origin usage live
  have calm : Calm (e.changeUsage origin usage).conn := by
    refine serving.calm.of_same (live.trans serving.calm.live.symm) ?_ ?_ (.inl ?_) <;>
      unfold Endpoint.changeUsage <;> split <;> rfl
  refine serving.of_still ?_ (.inl ?_) asks feeds
  · rw [perform]
    exact ⟨calm, slot, assembler⟩
  · rw [perform]

theorem Serving.writeLine (serving : Serving answers labels ⟨e, .code :: frames⟩) (line : String) :
    Serving answers (labels ++ [.operate (.writeLine line)])
      (performed ⟨e, .code :: frames⟩ (.writeLine line)) := by
  have conn : (e.perform (.writeLine line)).1.conn = e.conn := by
    show (e.writeLine line).1.conn = e.conn
    unfold Endpoint.writeLine
    split
    · rfl
    · split
      · rfl
      · exact Endpoint.conn_sendBytes _ _ _
  exact serving.of_still (.of_eq serving.calm conn) (.inl rfl) rfl rfl

theorem conn_deliverError {e : Endpoint H} (noQuit : e.conn.errorHandler ≠ some .quit)
    (err : Error) : (e.deliverError err).1.conn = e.conn ∧ ((e.deliverError err).2 = [] ∨
      ∃ handler err', (e.deliverError err).2 = [.call handler (.error err')]) := by
  unfold Endpoint.deliverError
  split
  · next handler h => exact ⟨rfl, .inr ⟨handler, err, rfl⟩⟩
  · next h => exact absurd h noQuit
  · exact ⟨rfl, .inl rfl⟩

theorem Serving.returnToPool (serving : Serving answers labels ⟨e, .code :: frames⟩)
    (empty : e.conn.phase.slot? = none) :
    Serving answers (labels ++ [.operate .returnToPool])
      (performed ⟨e, .code :: frames⟩ .returnToPool) := by
  have calm : Calm e.conn := serving.calm
  by_cases idle : e.conn.isIdle = true
  · -- the connection was given back already, which is an error
    have perform : e.perform .returnToPool =
        (e.remark .idleReturned).deliverError (.invalidState .idleReturned) := by
      rw [Endpoint.perform, Endpoint.returnToPool, if_pos idle]
    obtain ⟨conn, work⟩ := conn_deliverError (e := e.remark .idleReturned) calm.noQuit
      (.invalidState .idleReturned)
    refine serving.of_still (.of_eq calm ?_) ?_ rfl rfl
    · rw [perform, conn]
      rfl
    · rw [perform]
      exact work
  · have perform : e.perform .returnToPool = ((e.remark .returned).giveBack, []) := by
      rw [Endpoint.perform, Endpoint.returnToPool, if_neg idle, if_neg (by simp [calm.stays])]
      rfl
    have conn : (e.remark .returned).giveBack.conn =
        { (e.setSlot none).conn with errorHandler := none } := rfl
    have still : Still e.conn (e.remark .returned).giveBack.conn := by
      rw [conn]
      refine ⟨calm.of_same (Endpoint.isLive_setSlot e none) rfl rfl (.inr rfl), ?_, rfl⟩
      rw [empty]
      exact Endpoint.slot?_setSlot_of_live calm.live none
    refine serving.of_still ?_ (.inl ?_) rfl rfl
    · rw [perform]
      exact still
    · rw [perform]

/-! ### Asking and being answered -/

/-- While nobody waits, nothing has come that is not answered. -/
theorem Exchange.of_empty {c : Connection H} {frames : List (Frame H)}
    {served : List (ReplyHandler H)} (h : Exchange answers labels c frames served)
    (slot : c.phase.slot? = none) : requests labels = served ∧ c.assembler = .fresh 1 ∧
      fed labels = wire (span answers 0 (total served)) := by
  cases h with
  | answered slot asked empty read => exact ⟨asked, empty, read⟩
  | awaiting slot' => exact absurd (slot.symm.trans slot') (by simp)

/-- A command that is written while nobody waits is the next to be answered. -/
theorem Serving.ask (serving : Serving answers labels ⟨e, .code :: frames⟩)
    {operation : Operation H} {handler : ReplyHandler H} (asks : Asks handler)
    (empty : e.conn.phase.slot? = none) (request : operation.request? = some handler)
    (feeds : (Label.operate operation).input = []) (work : (e.perform operation).2 = [])
    (conn : e.conn.assembler = .fresh 1 → (e.perform operation).1.conn =
      { (e.setSlot (some handler)).conn with assembler := .fresh handler.count }) :
    Serving answers (labels ++ [.operate operation])
      (performed ⟨e, .code :: frames⟩ operation) := by
  have tower := serving.tower
  obtain ⟨calm, -, served, made, exchange⟩ := serving
  -- nobody waits, so the assembler is as good as new, and holds nothing of the answer to come
  obtain ⟨asked, assembler, read⟩ := exchange.of_empty empty
  have done : performed ⟨e, .code :: frames⟩ operation =
      ⟨(e.perform operation).1, .code :: frames⟩ := by
    rw [performed, after, Endpoint.resume, work]
    rfl
  have holds : (e.perform operation).1.conn.assembler.Holds handler.count [] := by
    rw [conn assembler]
    exact .fresh handler.count
  rw [done]
  refine ⟨?_, .tower tower, served, ?_,
    .awaiting ?_ asks ?_ holds ?_ List.nil_prefix fun h => ?_⟩
  · rw [conn assembler]
    exact calm.setSlot (some handler) (.fresh handler.count)
  · simpa [Label.heard?] using made
  · rw [conn assembler]
    exact Endpoint.slot?_setSlot_of_live calm.live _
  · rw [requests_snoc, asked, Label.request?, request]
    rfl
  · rw [fed_snoc, feeds, read]
  · refine absurd h.symm (wire_ne_nil ?_)
    rw [← List.length_pos_iff, length_span]
    exact asks.2

theorem Serving.write (serving : Serving answers labels ⟨e, .code :: frames⟩)
    (empty : e.conn.phase.slot? = none) {text : String} (taken : e.accepts text = true)
    (mask : Option Nat) (handler : H) :
    Serving answers (labels ++ [.operate (.write text mask handler)])
      (performed ⟨e, .code :: frames⟩ (.write text mask handler)) := by
  obtain ⟨e', written, conn⟩ :=
    Endpoint.writeWith_of_accepts serving.calm.peer taken mask (.reply handler)
  have perform : e.perform (.write text mask handler) = (e', []) := by
    rw [Endpoint.perform, Endpoint.write, written]
  have asks : Asks (.reply handler) := ⟨by simp, Nat.le_refl 1⟩
  refine serving.ask asks empty rfl rfl ?_ fun assembler => ?_
  · rw [perform]
  · rw [perform, conn]
    show (e.setSlot _).conn = { (e.setSlot _).conn with assembler := .fresh 1 }
    rw [← assembler]
    rfl

theorem Serving.writeCommands (serving : Serving answers labels ⟨e, .code :: frames⟩)
    (empty : e.conn.phase.slot? = none) {commands : List String}
    (taken : commands.isEmpty = true ∨ e.accepts ("\r\n".intercalate commands) = true)
    (handler : H) :
    Serving answers (labels ++ [.operate (.writeCommands commands handler)])
      (performed ⟨e, .code :: frames⟩ (.writeCommands commands handler)) := by
  have calm := serving.calm
  by_cases none : commands.isEmpty = true
  · -- an empty group asks for nothing, and is an error
    have perform : e.perform (.writeCommands commands handler) =
        e.deliverError (.invalidState .noCommands) := by
      rw [Endpoint.perform, Endpoint.writeCommands, if_pos none]
    obtain ⟨conn, work⟩ := conn_deliverError calm.noQuit (.invalidState .noCommands)
    refine serving.of_still (.of_eq calm ?_) ?_ ?_ rfl
    · rw [perform, conn]
    · rw [perform]
      exact work
    · rw [Operation.request?, if_pos none]
  · have positive : 1 ≤ commands.length := by
      rw [List.isEmpty_iff, ← List.length_eq_zero_iff] at none
      omega
    have taken' : (e.expect commands.length).accepts ("\r\n".intercalate commands) = true :=
      (Endpoint.accepts_of_same rfl rfl _).trans (taken.resolve_left none)
    obtain ⟨e', written, conn⟩ := Endpoint.writeWith_of_accepts (e := e.expect commands.length)
      calm.peer taken' Option.none (.replies handler commands.length)
    have perform : e.perform (.writeCommands commands handler) = (e', []) := by
      rw [Endpoint.perform, Endpoint.writeCommands, if_neg none]
      dsimp only
      rw [written]
    have asks : Asks (.replies handler commands.length) := ⟨by simp, positive⟩
    refine serving.ask asks empty ?_ rfl ?_ fun assembler => ?_
    · rw [Operation.request?, if_neg none]
    · rw [perform]
    · -- the size of a batch was set before the group was written
      rw [perform, conn, Endpoint.expect, assembler]
      rfl

/-- What comes is a part of the answer that somebody waits for. -/
theorem Serving.input (serving : Serving answers labels ⟨e, .code :: frames⟩) {data : Bytes}
    (sent : fed labels ++ data <+: wire (span answers 0 (total (requests labels)))) :
    Serving answers (labels ++ [.operate (.input data)])
      (performed ⟨e, .code :: frames⟩ (.input data)) := by
  have tower := serving.tower
  obtain ⟨calm, -, served, made, exchange⟩ := serving
  have done : performed ⟨e, .code :: frames⟩ (.input data) =
      ⟨{ e with conn := { e.conn with assembler := e.conn.assembler.feed data } },
        .work .dispatch :: .code :: frames⟩ := by
    rw [performed, after, Endpoint.resume, Endpoint.perform, Endpoint.input, if_pos calm.live]
    rfl
  rw [done]
  refine ⟨calm.of_same rfl rfl rfl (.inl rfl), .tower (.dispatch tower), served, ?_, ?_⟩
  · simpa [Label.heard?, dueCall] using made
  · cases exchange with
    | answered slot asked empty read =>
      -- the server has no more to send until it is asked
      have nothing : data = [] := by
        rw [read, asked] at sent
        have short := sent.length_le
        rw [List.length_append] at short
        exact List.length_eq_zero_iff.mp (by omega)
      subst nothing
      refine .answered slot ?_ ?_ ?_
      · simpa [Label.request?, Operation.request?] using asked
      · rw [Assembler.feed_nil]
        exact empty
      · simpa [Label.input] using read
    | @awaiting handler before slot asks asked holds read part whole =>
      -- what was handed out already cancels, so the rest is a part of the one answer due
      have part' : before ++ data <+: wire (span answers (total served) handler.count) := by
        rw [read, asked, total_snoc, span_append, wire_append, List.append_assoc] at sent
        exact (List.prefix_append_right_inj _).mp sent
      refine .awaiting slot asks ?_ (holds.feed data) ?_ part' fun _ => rfl
      · simpa [Label.request?, Operation.request?] using asked
      · rw [fed_snoc, read, Label.input, List.append_assoc]

/-- What is permitted keeps the exchange going. -/
theorem Serving.operate (serving : Serving answers labels ⟨e, .code :: frames⟩)
    {operation : Operation H} (permitted : permits answers labels e operation = true) :
    Serving answers (labels ++ [.operate operation])
      (performed ⟨e, .code :: frames⟩ operation) := by
  obtain ⟨usage, state⟩ : ∃ usage, e.conn.state = .live usage := by
    have live := serving.calm.live
    rw [Connection.isLive] at live
    cases h : e.conn.state with
    | live usage => exact ⟨usage, rfl⟩
    | _ => simp [h, ConnectionState.isLive] at live
  unfold permits at permitted
  rw [state] at permitted
  cases operation with
  | input data => exact serving.input (List.isPrefixOf_iff_prefix.mp permitted)
  | write text mask handler =>
    obtain ⟨empty, taken⟩ := Bool.and_eq_true_iff.mp permitted
    exact serving.write (Option.isNone_iff_eq_none.mp empty) taken mask handler
  | writeCommands commands handler =>
    obtain ⟨empty, taken⟩ := Bool.and_eq_true_iff.mp permitted
    exact serving.writeCommands (Option.isNone_iff_eq_none.mp empty) (Bool.or_eq_true_iff.mp taken)
      handler
  | writeLine line => exact serving.writeLine line
  | setIdle => exact serving.changeUsage rfl rfl rfl
  | useConnection => exact serving.changeUsage rfl rfl rfl
  | returnToPool => exact serving.returnToPool (Option.isNone_iff_eq_none.mp permitted)
  | _ => exact absurd permitted (by simp)

end Machine

end SmtpLink
