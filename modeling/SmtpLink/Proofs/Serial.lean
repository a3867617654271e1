import Mathlib.Algebra.GroupWithZero.Nat
import SmtpLink.Proofs.Block
import SmtpLink.Proofs.Expectation

/-!
# Serial exchanges

A connection matches replies with commands by their order alone: it has one slot for whoever
waits, and whatever comes next answers that.  This is meant for applications that write the next
command only when nobody waits, and for servers that answer each command with one block.  Here
such exchanges are written down, with the calls that handlers are to get in them.

## Main definitions

* `Machine.requests`, `Machine.fed`, `Machine.heard` — what a run has asked of the server, what
  came from the server, and who was called with what.
* `Machine.calls` — who is to be called with what, given the server's answers.
* `Machine.permits`, `Machine.Serial` — the application waits for each reply, and the server
  answers what it was asked.

## Main results

* `Machine.calls_append` — what was asked first is answered first.
-/

namespace SmtpLink

variable {H : Type}

/-- Who waits for the answers to what an operation asks of the server. -/
def Operation.request? : Operation H → Option (ReplyHandler H)
  | .dial _ greeting _ => some (.greeting greeting)
  | .write _ _ handler => some (.reply handler)
  | .writeCommands commands handler =>
    if commands.isEmpty then none else some (.replies handler commands.length)
  | _ => none

namespace Label

/-- Who waits for the answers to what a move asks of the server. -/
def request? : Label H → Option (ReplyHandler H)
  | .operate operation => operation.request?
  | _ => none

/-- The bytes that come with a move. -/
def input : Label H → Bytes
  | .operate (.input data) => data
  | _ => []

/-- The call of a handler with replies. -/
def heard? : Label H → Option (H × Notice)
  | .call handler notice => if notice.isReplies then some (handler, notice) else none
  | _ => none

/-- The connection goes on by itself: no running code does anything. -/
def isOwn : Label H → Bool
  | .operate _ | .leave => false
  | _ => true

end Label

namespace Machine

/-! ### The exchange as it should be -/

/-- Who waits for answers to what a run has asked of the server, in order of issue.  The first is
whoever waits for the greeting. -/
def requests (labels : List (Label H)) : List (ReplyHandler H) := labels.filterMap Label.request?

/-- The bytes that have come in a run. -/
def fed (labels : List (Label H)) : Bytes := labels.flatMap Label.input

/-- The calls with replies that a run has made. -/
def heard (labels : List (Label H)) : List (H × Notice) := labels.filterMap Label.heard?

/-- How many answers are asked for. -/
def total (requests : List (ReplyHandler H)) : Nat := (requests.map ReplyHandler.count).sum

/-- So many of the server's answers, from the one with a given number. -/
def span (answers : Nat → Block) (first count : Nat) : List Block :=
  (List.range' first count).map answers

/-- The calls that are to be made, given the server's answers and the number of the first that
is not handed out yet: a single command takes one answer, a group one for each command. -/
def calls (answers : Nat → Block) : List (ReplyHandler H) → Nat → List (H × Notice)
  | [], _ => []
  | .greeting handler :: rest, k =>
    (handler, .greeting (answers k).reply) :: calls answers rest (k + 1)
  | .reply handler :: rest, k =>
    (handler, .reply (answers k).reply) :: calls answers rest (k + 1)
  | .replies handler count :: rest, k =>
    (handler, .replies ((span answers k count).map Block.reply)) :: calls answers rest (k + count)
  | .quit :: rest, k => calls answers rest (k + 1)

/-- What application and server may do.  The connection is opened once.  A command is written,
and the connection given back, only when nobody waits for a reply, and the transport takes what
is written.  Each command counts as one line, and the server sends no byte of an answer before
it was asked. -/
def permits (answers : Nat → Block) (labels : List (Label H)) (e : Endpoint H)
    (operation : Operation H) : Bool :=
  match e.conn.state, operation with
  | .closed, .dial _ _ _ => true
  | .connecting, .connected _ => true
  | .live _, .input data =>
    (fed labels ++ data).isPrefixOf (wire (span answers 0 (total (requests labels))))
  | .live _, .write text _ _ => e.conn.phase.slot?.isNone && e.accepts text
  | .live _, .writeCommands commands _ =>
    e.conn.phase.slot?.isNone &&
      (commands.isEmpty || e.accepts ("\r\n".intercalate commands))
  | .live _, .returnToPool => e.conn.phase.slot?.isNone
  | .live _, .writeLine _ => true
  | .live _, .setIdle => true
  | .live _, .useConnection => true
  | _, _ => false

/-- The application waits for each reply, and the server answers what it was asked.  Handlers
are called and return as they like, and around the connection anything may change. -/
def Serial (answers : Nat → Block) (labels : List (Label H)) (m : Machine H) : Label H → Prop
  | .operate operation => permits answers labels m.endpoint operation = true
  | _ => True

instance (answers : Nat → Block) (labels : List (Label H)) (m : Machine H) (label : Label H) :
    Decidable (Serial answers labels m label) :=
  match label with
  | .operate operation =>
    inferInstanceAs (Decidable (permits answers labels m.endpoint operation = true))
  | .call _ _ | .leave | .work | .outside => .isTrue trivial

/-- Code is running: no work is due before it does something. -/
def Running (m : Machine H) : Prop := ∃ frames, m.frames = .code :: frames

instance (m : Machine H) : Decidable m.Running :=
  decidable_of_iff ((match m.frames with | .code :: _ => true | _ => false) = true) <| by
    unfold Running
    split
    · next frames h => exact iff_of_true rfl ⟨frames, h⟩
    · next h => exact iff_of_false (by simp) fun ⟨frames, code⟩ => h frames code

variable {answers : Nat → Block} {labels : List (Label H)} {m n : Machine H}

/-- Code is running, or is called next. -/
def Near (m : Machine H) : Prop :=
  m.Running ∨ ∃ handler notice frames, m.frames = .work (.call handler notice) :: frames

/-! ### Counting answers -/

@[simp] theorem requests_snoc (labels : List (Label H)) (label : Label H) :
    requests (labels ++ [label]) = requests labels ++ label.request?.toList := by
  cases h : label.request? <;> simp [requests, h]

@[simp] theorem fed_snoc (labels : List (Label H)) (label : Label H) :
    fed (labels ++ [label]) = fed labels ++ label.input := by
  simp [fed]

@[simp] theorem heard_snoc (labels : List (Label H)) (label : Label H) :
    heard (labels ++ [label]) = heard labels ++ label.heard?.toList := by
  cases h : label.heard? <;> simp [heard, h]

theorem total_snoc (requests : List (ReplyHandler H)) (handler : ReplyHandler H) :
    total (requests ++ [handler]) = total requests + handler.count := by
  simp [total]

theorem span_append (answers : Nat → Block) (k l : Nat) :
    span answers 0 (k + l) = span answers 0 k ++ span answers k l := by
  have parts : List.range' 0 k ++ List.range' (0 + k) l = List.range' 0 (k + l) :=
    List.range'_append_1
  rw [span, ← parts, Nat.zero_add, List.map_append]
  rfl

theorem length_span (answers : Nat → Block) (first count : Nat) :
    (span answers first count).length = count := by
  rw [span, List.length_map, List.length_range']

theorem calls_append (answers : Nat → Block) (requests more : List (ReplyHandler H)) (k : Nat) :
    calls answers (requests ++ more) k =
      calls answers requests k ++ calls answers more (k + total requests) := by
  induction requests generalizing k with
  | nil => rfl
  | cons handler rest ih =>
    have further : k + total (handler :: rest) = k + handler.count + total rest := by
      rw [total, List.map_cons, List.sum_cons, Nat.add_assoc]
      rfl
    rw [further, List.cons_append]
    cases handler with
    | quit => exact ih (k + 1)
    | _ => simp only [calls, ih, ReplyHandler.count, List.cons_append]

end Machine

end SmtpLink
