import Mathlib.Algebra.Order.BigOperators.Group.List
import Mathlib.Algebra.Order.Ring.Nat
import Mathlib.Data.List.Infix
import SmtpLink.Proofs.Turns
import SmtpLink.Transport.Script

/-!
# The books of a channel

A script uses both ends of a channel in any order.  What its steps yield is all that the two sides
see of each other, and it is enough to keep books by: which orders were accepted and which were
received, how many bytes were acknowledged, and whether the queue was found full and has not
drained since.  The channel itself keeps a counter that is a word, two marks and the orders that
stand in it.  They agree with the books after every step, as long as each acknowledgement is of a
write that was received and no more stands in the channel than a word can count.

## Main definitions

* `ChannelUse` — a step with what it yielded.
* `ChannelScript.after`, `ChannelScript.history` — the channel after a script, and what was seen.
* `ChannelUse.accepted`, `received`, `acknowledged`, `pressed`, `periods` — the books.
* `ChannelUse.Orderly` — acknowledgements answer receipts, and the counter does not overflow.
* `ChannelUse.Books` — the channel agrees with the books.

## Main results

* `ChannelScript.books_step`, `ChannelScript.books_of_orderly` — **the channel agrees with the
  books** after every step, and so after every script.
* `ChannelScript.queue_accounted` — **orders come out as they were accepted, bytes are counted
  exactly, and each full period ends in one drain.**
-/

namespace SmtpLink

/-! ### Orders -/

namespace Order

/-- One more order is accepted.  The order to close is so only once. -/
def accept (orders : List Order) (order : Order) : List Order :=
  if order = .close ∧ .close ∈ orders then orders else orders ++ [order]

theorem accept_of_fresh {orders : List Order} (h : .close ∉ orders) (order : Order) :
    accept orders order = orders ++ [order] :=
  if_neg fun both => h both.2

theorem accept_close_again {orders : List Order} (h : .close ∈ orders) :
    accept orders .close = orders :=
  if_pos ⟨rfl, h⟩

/-- What orders are to send is what their lines are long. -/
theorem load_eq (orders : List Order) :
    load orders = ((orders.filterMap bytes?).map List.length).sum := by
  induction orders with
  | nil => rfl
  | cons order orders ih =>
    cases order with
    | write data => exact congrArg (data.length + ·) ih
    | _ => exact ih

theorem load_le_of_prefix {orders orders' : List Order} (h : orders <+: orders') :
    load orders ≤ load orders' := by
  obtain ⟨rest, rfl⟩ := h
  rw [load_append]
  exact Nat.le_add_right _ _

end Order

namespace Channel

/-- Bytes are refused after the close order and if nobody can take them, and otherwise stand in
the channel. -/
theorem write_cases (c : Channel) (data : Bytes) :
    (c.closed || c.receiverGone) = true ∧ c.write data = .error .notConnected ∨
      c.closed = false ∧ c.receiverGone = false ∧ c.write data = .ok { c with
        orders := c.orders ++ [.write data]
        queued := c.queued + lengthWord data } := by
  unfold write
  split
  · next refuses => exact .inl ⟨refuses, rfl⟩
  · next takes =>
    rw [Bool.or_eq_true, not_or, Bool.not_eq_true, Bool.not_eq_true] at takes
    exact .inr ⟨takes.1, takes.2, rfl⟩

/-- To be made secure is refused, or stands in the channel as an order. -/
theorem upgrade_cases (c : Channel) : (∃ err, c.upgrade = .error err) ∨
    c.closed = false ∧ c.upgrade = .ok { c with orders := c.orders ++ [.upgrade] } := by
  unfold upgrade
  split
  · exact .inl ⟨_, rfl⟩
  · next closed =>
    split
    · exact .inl ⟨_, rfl⟩
    · split
      · exact .inl ⟨_, rfl⟩
      · exact .inr ⟨by simpa using closed, rfl⟩

end Channel

/-- The order that a step at the connection's end is to give. -/
def ChannelStep.order? : ChannelStep → Option Order
  | .write data => some (.write data)
  | .upgrade => some .upgrade
  | .close => some .close
  | _ => none

/-- The step was refused, or the end that it uses was dropped before. -/
def ChannelResult.isRefusal : ChannelResult → Bool
  | .gone | .outcome (.error _) => true
  | _ => false

/-- A step of a script with what it yielded. -/
structure ChannelUse where
  /-- The step. -/
  step : ChannelStep
  /-- What it yielded. -/
  result : ChannelResult

namespace ChannelUse

/-! ### The books -/

/-- The order that the step gave. -/
def given? (u : ChannelUse) : Option Order :=
  if u.result.isRefusal then none else u.step.order?

/-- The order that the step received. -/
def received? (u : ChannelUse) : Option Order :=
  match u.result with
  | .receipt (.order order) => some order
  | _ => none

/-- How many bytes the step acknowledged. -/
def acknowledged? (u : ChannelUse) : Option ℕ :=
  match u.step with
  | .written length _ => some length.toNat
  | _ => none

/-- The queue was found full. -/
def findsFull (u : ChannelUse) : Bool :=
  match u.step, u.result with
  | .full, .flag full => full
  | _, _ => false

/-- A drain was signalled. -/
def drains (u : ChannelUse) : Bool :=
  match u.step, u.result with
  | .written _ _, .flag drained => drained
  | _, _ => false

/-- The orders that were accepted, in the order of the calls. -/
def accepted (uses : List ChannelUse) : List Order :=
  (uses.filterMap given?).foldl Order.accept []

/-- The orders that were received. -/
def received (uses : List ChannelUse) : List Order := uses.filterMap received?

/-- How many bytes each acknowledgement was of. -/
def acknowledged (uses : List ChannelUse) : List ℕ := uses.filterMap acknowledged?

/-- Whether the queue is found full, and has not drained since, from one step to the next. -/
def press (pressed : Bool) (u : ChannelUse) : Bool := u.findsFull || pressed && !u.drains

/-- The queue was found full, and no drain was signalled since. -/
def pressed (uses : List ChannelUse) : Bool := uses.foldl press false

/-- How many periods began in which the queue is full: it was found so, and had not been since the
last drain. -/
def periods : Bool → List ChannelUse → ℕ
  | _, [] => 0
  | full, u :: uses => (if u.findsFull && !full then 1 else 0) + periods (press full u) uses

/-- Each acknowledgement is of a write that was received, and of its length, each write having one
at most; and what stands in the channel or waits to be acknowledged can be counted by a word. -/
structure Orderly (uses : List ChannelUse) : Prop where
  /-- Each acknowledgement is of a write that was received. -/
  paced : ∀ seen, seen <+: uses →
    (acknowledged seen).Subperm (((received seen).filterMap Order.bytes?).map List.length)
  /-- What is not acknowledged can be counted. -/
  bounded : ∀ seen, seen <+: uses →
    Order.load (accepted seen) < (acknowledged seen).sum + 2 ^ 64

/-- The orders in the channel, and what its counter tells of them, agree with the books. -/
structure Stock (uses : List ChannelUse) (c : Channel) : Prop where
  /-- Orders are received as they were accepted. -/
  in_order : received uses <+: accepted uses
  /-- As long as the socket's end is there, what is not received stands in the channel. -/
  standing : c.receiverGone = false → received uses ++ c.orders = accepted uses
  /-- The channel is closed if the order to close was accepted. -/
  closed : c.closed = true ↔ .close ∈ accepted uses
  /-- Nothing is accepted after the order to close. -/
  ending : .close ∉ (accepted uses).dropLast
  /-- The counter tells what was accepted and is not acknowledged. -/
  counted : c.queued.toNat + (acknowledged uses).sum = Order.load (accepted uses)

/-- The mark in the channel agrees with the books. -/
structure Marks (uses : List ChannelUse) (c : Channel) : Prop where
  /-- The mark tells whether the queue was found full and has not drained since. -/
  marked : c.reportedFull = pressed uses
  /-- As long as the queue has not drained, there is something to acknowledge. -/
  undrained : pressed uses = true → 0 < c.queued.toNat
  /-- Each period in which the queue is full has ended in one drain, but for the present one. -/
  ended : periods false uses = uses.countP drains + (pressed uses).toNat

/-- The channel agrees with the books. -/
structure Books (uses : List ChannelUse) (c : Channel) : Prop extends Stock uses c, Marks uses c

variable {uses seen : List ChannelUse} {u : ChannelUse} {c c' : Channel}

theorem Orderly.of_prefix (orderly : Orderly uses) (h : seen <+: uses) : Orderly seen where
  paced first before := orderly.paced first (before.trans h)
  bounded first before := orderly.bounded first (before.trans h)

/-- Of what was seen, it is decided whether it is orderly. -/
theorem Orderly.of_inits
    (paced : ∀ seen ∈ uses.inits,
      (acknowledged seen).Subperm (((received seen).filterMap Order.bytes?).map List.length))
    (bounded : ∀ seen ∈ uses.inits,
      Order.load (accepted seen) < (acknowledged seen).sum + 2 ^ 64) : Orderly uses where
  paced seen h := paced seen ((List.mem_inits _ _).mpr h)
  bounded seen h := bounded seen ((List.mem_inits _ _).mpr h)

theorem accepted_snoc : accepted (uses ++ [u]) =
    match u.given? with
    | some order => Order.accept (accepted uses) order
    | none => accepted uses := by
  rw [accepted, List.filterMap_append, List.foldl_append]
  cases given : u.given? with
  | none => simp [given, accepted]
  | some order => simp [given, accepted]

theorem accepted_snoc_of_none (given : u.given? = none) :
    accepted (uses ++ [u]) = accepted uses := by
  rw [accepted_snoc, given]

theorem received_snoc : received (uses ++ [u]) = received uses ++ u.received?.toList := by
  rw [received, List.filterMap_append]
  cases h : u.received? <;> simp [received, h]

theorem acknowledged_snoc :
    acknowledged (uses ++ [u]) = acknowledged uses ++ u.acknowledged?.toList := by
  rw [acknowledged, List.filterMap_append]
  cases h : u.acknowledged? <;> simp [acknowledged, h]

theorem received_snoc_of_none (taken : u.received? = none) :
    received (uses ++ [u]) = received uses := by
  rw [received_snoc, taken, Option.toList_none, List.append_nil]

theorem acknowledged_snoc_of_none (noted : u.acknowledged? = none) :
    acknowledged (uses ++ [u]) = acknowledged uses := by
  rw [acknowledged_snoc, noted, Option.toList_none, List.append_nil]

theorem pressed_snoc : pressed (uses ++ [u]) = press (pressed uses) u := by
  rw [pressed, List.foldl_append]
  rfl

theorem periods_snoc (full : Bool) : periods full (uses ++ [u]) =
    periods full uses + if u.findsFull && !uses.foldl press full then 1 else 0 := by
  induction uses generalizing full with
  | nil => simp [periods]
  | cons first uses ih =>
    rw [List.cons_append, periods, periods, ih, Nat.add_assoc]
    rfl

/-- The lengths that are acknowledged are lengths that were received. -/
theorem Orderly.sum_acknowledged_le (orderly : Orderly uses) :
    (acknowledged uses).sum ≤ Order.load (received uses) := by
  obtain ⟨lengths, same, among⟩ := orderly.paced uses (List.prefix_refl uses)
  rw [Order.load_eq, ← same.sum_nat]
  exact among.sum_le_sum fun _ _ => Nat.zero_le _

/-! ### What stands in the channel -/

namespace Stock

/-- A step that gives, takes and acknowledges nothing; the socket's end may go away. -/
theorem keep (stock : Stock uses c) (accepted : accepted (uses ++ [u]) = accepted uses)
    (taken : u.received? = none) (noted : u.acknowledged? = none)
    (there : c'.receiverGone = false → c.receiverGone = false ∧ c'.orders = c.orders)
    (closed : c'.closed = c.closed) (queued : c'.queued = c.queued) :
    Stock (uses ++ [u]) c' := by
  have received : received (uses ++ [u]) = received uses := received_snoc_of_none taken
  have acknowledged : acknowledged (uses ++ [u]) = acknowledged uses :=
    acknowledged_snoc_of_none noted
  constructor
  · rw [accepted, received]
    exact stock.in_order
  · intro present
    obtain ⟨present, orders⟩ := there present
    rw [accepted, received, orders]
    exact stock.standing present
  · rw [accepted, closed]
    exact stock.closed
  · rw [accepted]
    exact stock.ending
  · rw [accepted, acknowledged, queued]
    exact stock.counted

/-- An order is accepted before the channel is closed. -/
theorem gives (stock : Stock uses c) {order : Order} (given : u.given? = some order)
    (taken : u.received? = none) (noted : u.acknowledged? = none)
    (bounded : Order.load (accepted (uses ++ [u])) < (acknowledged (uses ++ [u])).sum + 2 ^ 64)
    (notYet : c.closed = false) (receiver : c'.receiverGone = c.receiverGone)
    (orders : c.receiverGone = false → c'.orders = c.orders ++ [order])
    (closed : c'.closed = decide (order = .close))
    (queued : c'.queued = c.queued + UInt64.ofNat (Order.load [order])) :
    Stock (uses ++ [u]) c' := by
  have fresh : .close ∉ accepted uses := fun mem => by
    rw [stock.closed.mpr mem] at notYet
    exact absurd notYet (by simp)
  have accepted : accepted (uses ++ [u]) = accepted uses ++ [order] := by
    rw [accepted_snoc, given]
    exact Order.accept_of_fresh fresh order
  have received : received (uses ++ [u]) = received uses := received_snoc_of_none taken
  have acknowledged : acknowledged (uses ++ [u]) = acknowledged uses :=
    acknowledged_snoc_of_none noted
  constructor
  · rw [accepted, received]
    exact stock.in_order.trans (List.prefix_append _ _)
  · intro present
    rw [receiver] at present
    rw [accepted, received, orders present, ← List.append_assoc, stock.standing present]
  · rw [accepted, closed, decide_eq_true_iff, List.mem_append, List.mem_singleton]
    exact ⟨fun h => .inr h.symm, fun h => (h.resolve_left fresh).symm⟩
  · rw [accepted, List.dropLast_concat]
    exact fresh
  · -- what is not acknowledged fits into a word, with what is accepted now
    rw [accepted, acknowledged, Order.load_append] at bounded
    have counted := stock.counted
    have fits : (UInt64.ofNat (Order.load [order])).toNat = Order.load [order] := by
      rw [UInt64.toNat_ofNat']
      exact Nat.mod_eq_of_lt (by omega)
    rw [accepted, acknowledged, Order.load_append, queued, UInt64.toNat_add, fits,
      Nat.mod_eq_of_lt (by omega)]
    omega

/-- The oldest order is received. -/
theorem takes (stock : Stock uses c) {order : Order} {rest : List Order} (given : u.given? = none)
    (taken : u.received? = some order) (noted : u.acknowledged? = none)
    (present : c.receiverGone = false) (orders : c.orders = order :: rest) :
    Stock (uses ++ [u]) { c with orders := rest } := by
  have accepted : accepted (uses ++ [u]) = accepted uses := accepted_snoc_of_none given
  have received : received (uses ++ [u]) = received uses ++ [order] := by
    rw [received_snoc, taken, Option.toList_some]
  have acknowledged : acknowledged (uses ++ [u]) = acknowledged uses :=
    acknowledged_snoc_of_none noted
  have standing : ChannelUse.received uses ++ [order] ++ rest = ChannelUse.accepted uses := by
    rw [← stock.standing present, orders, List.append_assoc]
    rfl
  constructor
  · rw [accepted, received, ← standing]
    exact List.prefix_append _ _
  · intro _
    rw [accepted, received]
    exact standing
  · rw [accepted]
    exact stock.closed
  · rw [accepted]
    exact stock.ending
  · rw [accepted, acknowledged]
    exact stock.counted

/-- Bytes that were received are acknowledged; the counter does not run below nothing. -/
theorem acknowledges (stock : Stock uses c) (length : UInt64) (given : u.given? = none)
    (taken : u.received? = none) (noted : u.acknowledged? = some length.toNat)
    (orderly : Orderly (uses ++ [u])) :
    length ≤ c.queued ∧ Stock (uses ++ [u]) { c with queued := c.queued - length } := by
  have accepted : accepted (uses ++ [u]) = accepted uses := accepted_snoc_of_none given
  have received : received (uses ++ [u]) = received uses := received_snoc_of_none taken
  have acknowledged :
      (acknowledged (uses ++ [u])).sum = (acknowledged uses).sum + length.toNat := by
    rw [acknowledged_snoc, noted, Option.toList_some, List.sum_append, List.sum_singleton]
  have counted := stock.counted
  have enough : length ≤ c.queued := by
    have answered := orderly.sum_acknowledged_le
    have received_le := Order.load_le_of_prefix stock.in_order
    rw [acknowledged, received] at answered
    rw [UInt64.le_iff_toNat_le]
    omega
  refine ⟨enough, ?_, ?_, ?_, ?_, ?_⟩
  · rw [accepted, received]
    exact stock.in_order
  · rw [accepted, received]
    exact stock.standing
  · rw [accepted]
    exact stock.closed
  · rw [accepted]
    exact stock.ending
  · rw [accepted, acknowledged, UInt64.toNat_sub_of_le _ _ enough]
    rw [UInt64.le_iff_toNat_le] at enough
    omega

end Stock

/-! ### Full periods and drains -/

namespace Marks

/-- A step at which the queue is not found full and does not drain. -/
theorem keep (marks : Marks uses c) (notFull : u.findsFull = false) (notDrained : u.drains = false)
    (marked : c'.reportedFull = c.reportedFull)
    (queued : pressed uses = true → c.queued.toNat ≤ c'.queued.toNat) :
    Marks (uses ++ [u]) c' := by
  have pressed : pressed (uses ++ [u]) = pressed uses := by
    rw [pressed_snoc, press, notFull, notDrained]
    simp
  constructor
  · rw [pressed, marked]
    exact marks.marked
  · intro undrained
    rw [pressed] at undrained
    exact Nat.lt_of_lt_of_le (marks.undrained undrained) (queued undrained)
  · rw [periods_snoc, pressed, notFull, List.countP_append, List.countP_singleton, notDrained]
    exact marks.ended

/-- The queue is asked after. -/
theorem asks (marks : Marks uses c) (full : u.findsFull = c.isFull)
    (notDrained : u.drains = false) : Marks (uses ++ [u]) c.full.2 := by
  have pressed : pressed (uses ++ [u]) = (c.isFull || pressed uses) := by
    rw [pressed_snoc, press, full, notDrained]
    simp
  constructor
  · show (c.reportedFull || c.isFull) = _
    rw [pressed, marks.marked, Bool.or_comm]
  · intro undrained
    rw [pressed, Bool.or_eq_true] at undrained
    rcases undrained with now | before
    · rw [Channel.isFull, Bool.and_eq_true, decide_eq_true_iff, UInt64.lt_iff_toNat_lt] at now
      exact now.1
    · exact marks.undrained before
  · -- a period begins if the queue is found full that was not so before
    have ended := marks.ended
    rw [periods_snoc, pressed, full, List.countP_append, List.countP_singleton, notDrained, ended]
    show _ + (if c.isFull && !ChannelUse.pressed uses then 1 else 0) = _
    cases c.isFull <;> cases ChannelUse.pressed uses <;> simp

/-- Bytes that stand in the channel are acknowledged. -/
theorem acknowledges (marks : Marks uses c) {length low : UInt64} (notFull : u.findsFull = false)
    (drains : u.drains = (c.written length low).1) (enough : length ≤ c.queued) :
    Marks (uses ++ [u]) (c.written length low).2 := by
  have left : c.leftAfter length = c.queued - length := if_pos enough
  rw [Channel.written_fst, left, marks.marked] at drains
  have pressed : pressed (uses ++ [u]) = (pressed uses && !u.drains) := by
    rw [pressed_snoc, press, notFull, Bool.false_or]
  rw [Channel.written_snd, left]
  by_cases drained : c.queued - length ≤ low
  · rw [if_pos drained] at drains ⊢
    constructor
    · rw [pressed, drains]
      simp
    · rw [pressed, drains]
      simp
    · rw [periods_snoc, pressed, notFull, List.countP_append, List.countP_singleton, drains,
        marks.ended]
      cases ChannelUse.pressed uses <;> simp
  · rw [if_neg drained] at drains ⊢
    refine ⟨?_, fun _ => ?_, ?_⟩
    · rw [pressed, drains, marks.marked]
      simp
    · -- more is left than the low water mark, and so more than nothing
      rw [UInt64.not_le, UInt64.lt_iff_toNat_lt] at drained
      exact Nat.lt_of_le_of_lt (Nat.zero_le _) drained
    · rw [periods_snoc, pressed, notFull, List.countP_append, List.countP_singleton, drains,
        marks.ended]
      simp

end Marks

/-! ### A step, and a script -/

theorem books_initial (limit : UInt64) (secure : Bool) : Books [] { limit, secure } where
  in_order := List.prefix_refl _
  standing _ := rfl
  closed := by simp [accepted]
  ending := by simp [accepted]
  counted := rfl
  marked := rfl
  undrained h := absurd h (by simp [pressed])
  ended := rfl

namespace Books

/-- A step that changes nothing that the books tell of. -/
theorem keep (books : Books uses c) (accepted : accepted (uses ++ [u]) = accepted uses)
    (taken : u.received? = none) (noted : u.acknowledged? = none) (notFull : u.findsFull = false)
    (notDrained : u.drains = false)
    (there : c'.receiverGone = false → c.receiverGone = false ∧ c'.orders = c.orders)
    (closed : c'.closed = c.closed) (queued : c'.queued = c.queued)
    (marked : c'.reportedFull = c.reportedFull) : Books (uses ++ [u]) c' where
  toStock := books.toStock.keep accepted taken noted there closed queued
  toMarks := books.toMarks.keep notFull notDrained marked fun _ => by rw [queued]

/-- A step that is refused changes nothing. -/
theorem refused (books : Books uses c) (refusal : u.result.isRefusal = true)
    (noted : u.acknowledged? = none) : Books (uses ++ [u]) c := by
  obtain ⟨s, r⟩ := u
  have unseen : ChannelUse.received? ⟨s, r⟩ = none ∧ ChannelUse.findsFull ⟨s, r⟩ = false ∧
      ChannelUse.drains ⟨s, r⟩ = false := by
    cases r with
    | gone => cases s <;> exact ⟨rfl, rfl, rfl⟩
    | outcome result => cases s <;> exact ⟨rfl, rfl, rfl⟩
    | _ => exact absurd refusal (by simp [ChannelResult.isRefusal])
  have accepted : accepted (uses ++ [⟨s, r⟩]) = accepted uses :=
    accepted_snoc_of_none (if_pos refusal)
  exact books.keep accepted unseen.1 noted unseen.2.1 unseen.2.2 (fun present => ⟨present, rfl⟩)
    rfl rfl rfl

/-- An order is accepted before the channel is closed. -/
theorem gives (books : Books uses c) {order : Order} (given : u.given? = some order)
    (taken : u.received? = none) (noted : u.acknowledged? = none) (notFull : u.findsFull = false)
    (notDrained : u.drains = false) (orderly : Orderly (uses ++ [u])) (notYet : c.closed = false)
    (receiver : c'.receiverGone = c.receiverGone)
    (orders : c.receiverGone = false → c'.orders = c.orders ++ [order])
    (closed : c'.closed = decide (order = .close))
    (queued : c'.queued = c.queued + UInt64.ofNat (Order.load [order]))
    (marked : c'.reportedFull = c.reportedFull) : Books (uses ++ [u]) c' := by
  have bounded := orderly.bounded _ (List.prefix_refl _)
  have stock := books.toStock.gives given taken noted bounded notYet receiver orders closed queued
  refine ⟨stock, books.toMarks.keep notFull notDrained marked fun _ => ?_⟩
  -- the counter does not run round, so it only grows
  have counted := stock.counted
  have before := books.counted
  rw [acknowledged_snoc_of_none noted, accepted_snoc, given] at counted
  have grows : accepted uses <+: Order.accept (accepted uses) order := by
    unfold Order.accept
    split
    · exact List.prefix_refl _
    · exact List.prefix_append _ _
  have load := Order.load_le_of_prefix grows
  dsimp only at counted
  omega

end Books

end ChannelUse

namespace ChannelScript

open ChannelUse

variable {uses : List ChannelUse} {c : Channel}

/-- What a step is seen to do. -/
def use (c : Channel) (s : ChannelStep) : ChannelUse := ⟨s, (step c s).2⟩

/-- The channel after the steps of a script. -/
def after (c : Channel) (steps : List ChannelStep) : Channel :=
  steps.foldl (fun c s => (step c s).1) c

/-- What the steps of a script are seen to do, oldest first. -/
def history (c : Channel) : List ChannelStep → List ChannelUse
  | [] => []
  | s :: steps => use c s :: history (step c s).1 steps

theorem after_snoc (c : Channel) (steps : List ChannelStep) (s : ChannelStep) :
    after c (steps ++ [s]) = (step (after c steps) s).1 :=
  List.foldl_append

theorem history_snoc (c : Channel) (steps : List ChannelStep) (s : ChannelStep) :
    history c (steps ++ [s]) = history c steps ++ [use (after c steps) s] := by
  induction steps generalizing c with
  | nil => rfl
  | cons first steps ih => exact congrArg (use c first :: ·) (ih _)

/-! ### A step -/

section

variable (books : Books uses c)

include books

theorem books_write {data : Bytes}
    (orderly : Orderly (uses ++ [⟨.write data, (settle c (c.write data)).2⟩])) :
    Books (uses ++ [⟨.write data, (settle c (c.write data)).2⟩]) (settle c (c.write data)).1 := by
  rcases c.write_cases data with ⟨-, refused⟩ | ⟨notYet, -, taken⟩
  · rw [refused]
    exact books.refused rfl rfl
  · rw [taken] at orderly ⊢
    exact books.gives rfl rfl rfl rfl rfl orderly notYet rfl (fun _ => rfl) notYet rfl rfl

theorem books_upgrade (orderly : Orderly (uses ++ [⟨.upgrade, (settle c c.upgrade).2⟩])) :
    Books (uses ++ [⟨.upgrade, (settle c c.upgrade).2⟩]) (settle c c.upgrade).1 := by
  rcases c.upgrade_cases with ⟨err, refused⟩ | ⟨notYet, taken⟩
  · rw [refused]
    exact books.refused rfl rfl
  · rw [taken] at orderly ⊢
    exact books.gives rfl rfl rfl rfl rfl orderly notYet rfl (fun _ => rfl) notYet
      (UInt64.add_zero _).symm rfl

theorem books_close (orderly : Orderly (uses ++ [⟨.close, .nothing⟩])) :
    Books (uses ++ [⟨.close, .nothing⟩]) c.close := by
  unfold Channel.close
  split
  · next closed =>
    -- the order to close is not accepted again
    have again : accepted (uses ++ [⟨.close, .nothing⟩]) = accepted uses :=
      accepted_snoc.trans (Order.accept_close_again (books.closed.mp closed))
    exact books.keep again rfl rfl rfl rfl (fun present => ⟨present, rfl⟩) rfl rfl rfl
  · next closed =>
    have notYet : c.closed = false := by simpa using closed
    exact books.gives rfl rfl rfl rfl rfl orderly notYet rfl
      (fun present => if_neg (by simp [present])) rfl (UInt64.add_zero _).symm rfl

theorem books_full : Books (uses ++ [⟨.full, .flag c.full.1⟩]) c.full.2 where
  toStock := books.toStock.keep (accepted_snoc_of_none rfl) rfl rfl (fun present => ⟨present, rfl⟩)
    rfl rfl
  toMarks := books.toMarks.asks rfl rfl

theorem books_receive (present : c.receiverGone = false) :
    Books (uses ++ [⟨.receive, .receipt c.receive.1⟩]) c.receive.2 := by
  unfold Channel.receive
  split
  · next order rest orders =>
    exact ⟨books.toStock.takes rfl rfl rfl present orders,
      books.toMarks.keep rfl rfl rfl fun _ => Nat.le_refl _⟩
  · have nothing {receipt : Receipt} (h : ∀ order, receipt ≠ .order order) :
        ChannelUse.received? ⟨.receive, .receipt receipt⟩ = none := by
      cases receipt with
      | order order => exact absurd rfl (h order)
      | _ => rfl
    exact books.keep (accepted_snoc_of_none rfl) (nothing (by split <;> simp)) rfl rfl rfl
      (fun present => ⟨present, rfl⟩) rfl rfl rfl

theorem books_written {length low : UInt64}
    (orderly : Orderly (uses ++ [⟨.written length low, .flag (c.written length low).1⟩])) :
    Books (uses ++ [⟨.written length low, .flag (c.written length low).1⟩])
      (c.written length low).2 := by
  obtain ⟨enough, stock⟩ := books.toStock.acknowledges length rfl rfl rfl orderly
  refine ⟨?_, books.toMarks.acknowledges rfl rfl enough⟩
  rw [Channel.written_snd]
  exact ⟨stock.in_order, stock.standing, stock.closed, stock.ending, stock.counted⟩

/-- A step does nothing once the end that it uses was dropped. -/
theorem books_end {s : ChannelStep} {gone : Bool} {r : ChannelResult} {c' : Channel}
    (one : step c s = if gone then (c, .gone) else (c', r))
    (noted : (use c s).acknowledged? = none) (orderly : Orderly (uses ++ [use c s]))
    (done : gone = false → Orderly (uses ++ [⟨s, r⟩]) → Books (uses ++ [⟨s, r⟩]) c') :
    Books (uses ++ [use c s]) (step c s).1 := by
  unfold use at noted orderly ⊢
  rw [one] at noted orderly ⊢
  split at orderly
  · next dropped =>
    rw [if_pos dropped] at noted ⊢
    exact books.refused rfl noted
  · next there =>
    rw [if_neg there]
    exact done (Bool.eq_false_iff.mpr there) orderly

/-- **The channel agrees with the books after every step.** -/
theorem books_step (s : ChannelStep) (orderly : Orderly (uses ++ [use c s])) :
    Books (uses ++ [use c s]) (step c s).1 := by
  have stays : c.receiverGone = false → c.receiverGone = false ∧ c.orders = c.orders :=
    fun present => ⟨present, rfl⟩
  cases s with
  | write data => exact books_end books rfl rfl orderly fun _ => books_write books
  | upgrade => exact books_end books rfl rfl orderly fun _ => books_upgrade books
  | close => exact books_end books rfl rfl orderly fun _ => books_close books
  | full => exact books_end books rfl rfl orderly fun _ _ => books_full books
  | secure =>
    refine books_end books rfl rfl orderly fun _ _ => ?_
    exact books.keep (accepted_snoc_of_none rfl) rfl rfl rfl rfl stays rfl rfl rfl
  | dropSender =>
    refine books_end books rfl rfl orderly fun _ _ => ?_
    exact books.keep (accepted_snoc_of_none rfl) rfl rfl rfl rfl stays rfl rfl rfl
  | receive => exact books_end books rfl rfl orderly fun present _ => books_receive books present
  | dropReceiver =>
    -- what stands in the channel is lost with the socket's end, but stays accepted
    refine books_end books rfl rfl orderly fun _ _ => ?_
    exact books.keep (accepted_snoc_of_none rfl) rfl rfl rfl rfl
      (fun present => absurd present (by simp [Channel.dropReceiver])) rfl rfl rfl
  | setSecure => exact books.keep (accepted_snoc_of_none rfl) rfl rfl rfl rfl stays rfl rfl rfl
  | written length low => exact books_written books orderly

end

/-! ### A script -/

/-- Where nothing is received, all that was accepted was received before. -/
theorem received_all (books : Books uses c) {receipt : Receipt}
    (found : (use c .receive).result = .receipt receipt)
    (nothing : ∀ order, receipt ≠ .order order) : received uses = accepted uses := by
  have one : step c .receive = if c.receiverGone then (c, .gone) else
      (c.receive.2, .receipt c.receive.1) := rfl
  rw [use, one] at found
  cases gone : c.receiverGone with
  | true => exact absurd found (by simp [gone])
  | false =>
    obtain rfl : c.receive.1 = receipt := by simpa [gone] using found
    rw [← books.standing gone, Channel.orders_eq_nil_of_receive nothing, List.append_nil]

/-- The channel agrees with the books after every script. -/
theorem books_of_orderly (limit : UInt64) (secure : Bool) (steps : List ChannelStep)
    (orderly : Orderly (history { limit, secure } steps)) :
    Books (history { limit, secure } steps) (after { limit, secure } steps) := by
  induction steps using List.reverseRecOn with
  | nil => exact books_initial limit secure
  | append_singleton steps s ih =>
    rw [history_snoc] at orderly ⊢
    rw [after_snoc]
    exact books_step (ih (orderly.of_prefix (List.prefix_append _ _))) s orderly

/-- **Orders come out as they were accepted, bytes are counted exactly, and each full period ends
in one drain**, for every limit and every script in which acknowledgements answer receipts and the
counter does not overflow.  Where nothing is received, all that was accepted has come out.  Bytes
are refused exactly after the close order or with the socket's end gone, and then nothing changes.
A drain is signalled exactly if the queue was found full since the last one, and no more than the
low water mark is left. -/
theorem queue_accounted (limit : UInt64) (secure : Bool) (steps : List ChannelStep)
    (orderly : Orderly (history { limit, secure } steps)) :
    Books (history { limit, secure } steps) (after { limit, secure } steps) ∧
    (∀ receipt, (use (after { limit, secure } steps) .receive).result = .receipt receipt →
      (∀ order, receipt ≠ .order order) →
        received (history { limit, secure } steps) = accepted (history { limit, secure } steps)) ∧
    (∀ data, (after { limit, secure } steps).senderGone = false →
      ((use (after { limit, secure } steps) (.write data)).result.isRefusal = true ↔
        (after { limit, secure } steps).closed = true ∨
          (after { limit, secure } steps).receiverGone = true) ∧
      ((use (after { limit, secure } steps) (.write data)).result.isRefusal = true →
        (step (after { limit, secure } steps) (.write data)).1 = after { limit, secure } steps)) ∧
    (∀ length low, Orderly (history { limit, secure } (steps ++ [.written length low])) →
      ((use (after { limit, secure } steps) (.written length low)).drains = true ↔
        pressed (history { limit, secure } steps) = true ∧
          (after { limit, secure } (steps ++ [.written length low])).queued ≤ low)) := by
  have books := books_of_orderly limit secure steps orderly
  refine ⟨books, fun _ found nothing => received_all books found nothing,
    fun data there => ?_, fun length low orderly' => ?_⟩
  · have one : step (after { limit, secure } steps) (.write data) =
        settle (after { limit, secure } steps) ((after { limit, secure } steps).write data) :=
      if_neg (by simp [there])
    rw [use, one]
    rcases (after { limit, secure } steps).write_cases data with
      ⟨refuses, refused⟩ | ⟨notYet, present, taken⟩
    · rw [refused]
      exact ⟨iff_of_true rfl (by simpa using refuses), fun _ => rfl⟩
    · rw [taken]
      refine ⟨iff_of_false (by simp [settle, ChannelResult.isRefusal]) ?_, fun refused => ?_⟩
      · simp [notYet, present]
      · exact absurd refused (by simp [settle, ChannelResult.isRefusal])
  · rw [history_snoc] at orderly'
    rw [after_snoc]
    obtain ⟨enough, -⟩ := books.toStock.acknowledges length
      (u := use (after { limit, secure } steps) (.written length low)) rfl rfl rfl orderly'
    have left : (after { limit, secure } steps).leftAfter length =
        (after { limit, secure } steps).queued - length := if_pos enough
    show ((after { limit, secure } steps).written length low).1 = true ↔
      _ ∧ ((after { limit, secure } steps).written length low).2.queued ≤ low
    rw [Channel.written_fst, Channel.written_snd, left, books.marked]
    split
    · next drained => exact ⟨fun pressed => ⟨pressed, drained⟩, And.left⟩
    · next undrained => exact iff_of_false (by simp) fun both => undrained both.2

/-- Ten bytes make the queue full, and are received with what was given behind them; then the
channel is closed, twice, and a line comes too late. -/
def fullOnce : List ChannelStep :=
  [.write [48, 49, 50, 51, 52, 53, 54, 55, 13, 10], .full, .write [13, 10], .upgrade, .receive,
    .receive, .receive, .close, .close, .write [81, 13, 10], .written 2 4]

/-- The acknowledgement of the ten bytes signals the drain. -/
theorem full_once_drains :
    (use (after { limit := 8 } fullOnce) (.written 10 4)).drains = true ∧
    (after { limit := 8 } fullOnce).closed = true ∧
    (step (after { limit := 8 } fullOnce) (.write [81, 13, 10])).1 =
      after { limit := 8 } fullOnce := by
  have orderly : Orderly (history { limit := 8 } fullOnce) := .of_inits (by decide) (by decide)
  have orderly' : Orderly (history { limit := 8 } (fullOnce ++ [.written 10 4])) :=
    .of_inits (by decide) (by decide)
  obtain ⟨-, -, refused, drains⟩ := queue_accounted 8 false fullOnce orderly
  refine ⟨?_, by decide, (refused _ (by decide)).2 (by decide)⟩
  exact (drains 10 4 orderly').mpr ⟨by decide, by decide⟩

end ChannelScript

end SmtpLink
