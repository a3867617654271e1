import SmtpLink.Proofs.Exchange

/-!
# Replies and the commands they answer

From its opening on, a connection in a serial exchange calls the handler of the greeting and the
handlers of all commands in the order in which they were issued, each once and with the replies
to its own commands.  It does not matter how the server's bytes are cut into chunks.

## Main definitions

* `Machine.Course` — the course of an exchange, from before the connection is opened.

## Main results

* `Machine.course_of_run` — what is permitted keeps the course.
* `Machine.heard_in_order` — handlers are called in order of issue, each with its answer.
* `Machine.replies_correlated` — **and all of them, when all that the server sends has come.**
-/

namespace SmtpLink

variable {H : Type}

namespace Machine

variable {answers : Nat → Block} {labels : List (Label H)} {m n : Machine H}

/-! ### The course -/

/-- The course of an exchange, from before the connection is opened. -/
inductive Course (answers : Nat → Block) (labels : List (Label H)) (m : Machine H) : Prop
  /-- The connection is not opened yet. -/
  | unopened (phase : m.endpoint.conn.phase = .closed)
      (stays : m.endpoint.conn.shutdownRequested = false) (frames : m.frames = [.code])
      (asked : requests labels = []) (read : fed labels = []) (made : heard labels = [])
  /-- The connection waits for a socket. -/
  | opening {greeting : H} (phase : m.endpoint.conn.phase = .connecting greeting)
      (stays : m.endpoint.conn.shutdownRequested = false)
      (noQuit : m.endpoint.conn.errorHandler ≠ some .quit) (frames : m.frames = [.code])
      (asked : requests labels = [.greeting greeting]) (read : fed labels = [])
      (made : heard labels = [])
  /-- The connection is open. -/
  | serving (serving : Serving answers labels m)

theorem course_initial : Course answers [] (initial : Machine H) :=
  .unopened rfl rfl rfl rfl rfl rfl

theorem Course.dial {e : Endpoint H} (phase : e.conn.phase = .closed)
    (stays : e.conn.shutdownRequested = false) (asked : requests labels = [])
    (read : fed labels = []) (made : heard labels = []) {operation : Operation H}
    (permitted : permits answers labels e operation = true) :
    Course answers (labels ++ [.operate operation]) (performed ⟨e, [.code]⟩ operation) := by
  have state : e.conn.state = .closed := by
    rw [Connection.state, phase]
    rfl
  unfold permits at permitted
  rw [state] at permitted
  cases operation with
  | dial config greeting onError =>
    have released : e.releaseTransport.conn = e.conn := by
      unfold Endpoint.releaseTransport
      split <;> rfl
    refine .opening rfl ?_ ?_ rfl ?_ ?_ ?_
    · show e.releaseTransport.conn.shutdownRequested = false
      rw [released]
      exact stays
    · show some (ErrorHandler.app onError) ≠ some .quit
      simp
    · rw [requests_snoc, asked]
      rfl
    · rw [fed_snoc, read]
      rfl
    · rw [heard_snoc, made]
      rfl
  | _ => exact absurd permitted (by simp)

/-- The greeting handler is the first to wait. -/
theorem Course.connected {e : Endpoint H} {greeting : H}
    (phase : e.conn.phase = .connecting greeting) (stays : e.conn.shutdownRequested = false)
    (noQuit : e.conn.errorHandler ≠ some .quit) (asked : requests labels = [.greeting greeting])
    (read : fed labels = []) (made : heard labels = []) {operation : Operation H}
    (permitted : permits answers labels e operation = true) :
    Course answers (labels ++ [.operate operation]) (performed ⟨e, [.code]⟩ operation) := by
  have state : e.conn.state = .connecting := by
    rw [Connection.state, phase]
    rfl
  unfold permits at permitted
  rw [state] at permitted
  cases operation with
  | connected t =>
    -- the input is dropped, whatever an earlier socket left of it
    have done : performed ⟨e, [.code]⟩ (.connected t) = ⟨e.connected t, [.code]⟩ := rfl
    have ne : span answers 0 1 ≠ [] := by simp [span]
    rw [done, Endpoint.connected_of_connecting t phase]
    refine .serving ⟨⟨rfl, rfl, stays, noQuit⟩, .tower .outside, [], ?_,
      .awaiting rfl ⟨by simp, Nat.le_refl 1⟩ ?_ (.fresh 1) ?_ List.nil_prefix
        fun h => absurd h.symm (wire_ne_nil ne)⟩
    · simpa [Label.heard?, calls] using made
    · rw [requests_snoc, asked]
      rfl
    · rw [fed_snoc, read]
      rfl
  | _ => exact absurd permitted (by simp)

theorem Course.outside {e e' : Endpoint H} {frames : List (Frame H)}
    (course : Course answers labels ⟨e, frames⟩) (outside : e.Outside e') :
    Course answers (labels ++ [.outside]) ⟨e', frames⟩ := by
  have conn := outside.conn_eq
  have asked' : requests (labels ++ [.outside]) = requests labels := by simp [Label.request?]
  have read' : fed (labels ++ [.outside]) = fed labels := by simp [Label.input]
  have made' : heard (labels ++ [.outside]) = heard labels := by simp [Label.heard?]
  cases course with
  | unopened phase stays only asked read made =>
    exact .unopened ((congrArg Connection.phase conn).trans phase)
      ((congrArg Connection.shutdownRequested conn).trans stays) only (asked'.trans asked)
      (read'.trans read) (made'.trans made)
  | opening phase stays noQuit only asked read made =>
    refine .opening ((congrArg Connection.phase conn).trans phase)
      ((congrArg Connection.shutdownRequested conn).trans stays) ?_ only (asked'.trans asked)
      (read'.trans read) (made'.trans made)
    rw [conn]
    exact noQuit
  | serving serving => exact .serving (serving.outside outside)

/-- Before the connection is open, only the code outside is running. -/
theorem Course.serving_of_frames (course : Course answers labels m) (h : m.frames ≠ [.code]) :
    Serving answers labels m := by
  cases course with
  | unopened phase stays frames => exact absurd frames h
  | opening phase stays noQuit frames => exact absurd frames h
  | serving serving => exact serving

theorem Course.operate {e : Endpoint H} {frames : List (Frame H)}
    (course : Course answers labels ⟨e, .code :: frames⟩) {operation : Operation H}
    (permitted : permits answers labels e operation = true) :
    Course answers (labels ++ [.operate operation])
      (performed ⟨e, .code :: frames⟩ operation) := by
  cases course with
  | unopened phase stays only asked read made =>
    obtain rfl : frames = [] := (List.cons.inj only).2
    exact .dial phase stays asked read made permitted
  | opening phase stays noQuit only asked read made =>
    obtain rfl : frames = [] := (List.cons.inj only).2
    exact .connected phase stays noQuit asked read made permitted
  | serving serving => exact .serving (serving.operate permitted)

/-- **What is permitted keeps the course of the exchange.** -/
theorem course_move {label : Label H} (course : Course answers labels m)
    (move : Move Operation.Any m label n) (serial : Serial answers labels m label) :
    Course answers (labels ++ [label]) n := by
  cases move.turn with
  | work due =>
    cases due with
    | work noCall =>
      -- the only work that is ever due, calls apart, is to hand out replies
      have serving := course.serving_of_frames (by simp)
      cases serving.stack with
      | tower tower =>
        cases tower with
        | dispatch below => exact .serving (serving.dispatch below).1
      | call => exact absurd noCall (by simp [Work.isCall])
    | operate => exact course.operate serial
  | call =>
    have serving := course.serving_of_frames (by simp)
    cases serving.stack with
    | tower tower => cases tower
    | call handler notice tower => exact .serving (serving.call tower)
  | leave =>
    have serving := course.serving_of_frames (by simp)
    cases serving.tower with
    | code below => exact .serving (serving.leave below)
  | outside outside => exact course.outside outside

theorem course_of_run (run : RunBy (Serial answers) initial labels m) : Course answers labels m :=
  run.invariant course_move course_initial

/-! ### Who is called -/

/-- **Handlers are called in order of issue, each at most once and with its answer**, however the
server's bytes are cut. -/
theorem heard_in_order (run : RunBy (Serial answers) initial labels m) :
    heard labels <+: calls answers (requests labels) 0 := by
  cases course_of_run run with
  | unopened phase stays frames asked read made =>
    rw [made]
    exact List.nil_prefix
  | opening phase stays noQuit frames asked read made =>
    rw [made]
    exact List.nil_prefix
  | serving serving =>
    obtain ⟨served, made, exchange⟩ := serving.exchange
    have called : heard labels <+: calls answers served 0 := ⟨_, made⟩
    cases exchange with
    | answered slot asked =>
      rw [asked]
      exact called
    | awaiting slot asks asked =>
      rw [asked, calls_append]
      exact called.trans (List.prefix_append _ _)

/-- When all has come and code is running, all have been called. -/
theorem Course.complete (course : Course answers labels m)
    (complete : fed labels = wire (span answers 0 (total (requests labels))))
    (running : m.Running) :
    heard labels = calls answers (requests labels) 0 := by
  cases course with
  | unopened phase stays frames asked read made =>
    rw [made, asked]
    rfl
  | opening phase stays noQuit frames asked read made =>
    rw [read, asked] at complete
    exact absurd complete.symm (wire_ne_nil (by simp [span, total, ReplyHandler.count]))
  | serving serving =>
    obtain ⟨frames, code⟩ := running
    obtain ⟨served, made, exchange⟩ := serving.exchange
    rw [code, dueCall_code, List.append_nil] at made
    cases exchange with
    | answered slot asked =>
      rw [asked]
      exact made
    | @awaiting handler data slot asks asked holds read part whole =>
      -- the whole answer has come, so it would be handed out before any code runs
      rw [asked, total_snoc, span_append, wire_append, read] at complete
      have handing := whole (List.append_cancel_left complete)
      rw [code, handsOut_code] at handing
      exact absurd handing Bool.false_ne_true

/-- What the connection does by itself asks and feeds nothing, and is always permitted. -/
theorem Course.own {labels' : List (Label H)} (course : Course answers labels m)
    (run : RunBy (fun _ _ label => label.isOwn = true) m labels' n) :
    Course answers (labels ++ labels') n ∧ fed (labels ++ labels') = fed labels ∧
      requests (labels ++ labels') = requests labels := by
  induction run with
  | nil =>
    rw [List.append_nil]
    exact ⟨course, rfl, rfl⟩
  | @snoc _ _ earlier label run move own ih =>
    obtain ⟨course, read, asked⟩ := ih
    rw [← List.append_assoc]
    cases label with
    | operate operation => exact absurd own (by simp [Label.isOwn])
    | leave => exact absurd own (by simp [Label.isOwn])
    | _ =>
      refine ⟨course_move course move trivial, ?_, ?_⟩
      · rw [fed_snoc, read]
        exact List.append_nil _
      · rw [requests_snoc, asked]
        exact List.append_nil _

/-- The connection goes on by itself until code is running. -/
theorem Course.runs_on (course : Course answers labels m) : ∃ (labels' : List (Label H))
    (n : Machine H), RunBy (fun _ _ label => label.isOwn = true) m labels' n ∧ n.Running := by
  have stay (running : m.Running) : ∃ (labels' : List (Label H)) (n : Machine H),
      RunBy (fun _ _ label => label.isOwn = true) m labels' n ∧ n.Running := ⟨[], m, .nil, running⟩
  cases course with
  | unopened phase stays frames => exact stay ⟨[], frames⟩
  | opening phase stays noQuit frames => exact stay ⟨[], frames⟩
  | serving serving =>
    obtain ⟨e, frames⟩ := m
    cases serving.stack with
    | call handler notice tower => exact ⟨_, _, .snoc .nil .call rfl, _, rfl⟩
    | tower tower =>
      cases tower with
      | outside => exact stay ⟨_, rfl⟩
      | code below => exact stay ⟨_, rfl⟩
      | @dispatch frames below =>
        have handed : RunBy (fun _ _ label => label.isOwn = true)
            ⟨e, .work .dispatch :: .code :: frames⟩ ([] ++ [.work])
            (after e .dispatch (.code :: frames)) := .snoc .nil (.work (by simp)) rfl
        -- handing out comes to running code at once, or calls a handler, which is running then
        obtain ⟨-, running | ⟨handler, notice, rest, call⟩⟩ := serving.dispatch below
        · exact ⟨_, _, handed, running⟩
        · generalize after e .dispatch (.code :: frames) = k at handed call
          obtain ⟨e', frames'⟩ := k
          obtain rfl : frames' = .work (.call handler notice) :: rest := call
          exact ⟨_, _, .snoc handed .call rfl, _, rfl⟩

/-- **Every handler is called once, in order of issue, and with the answers to its own
commands**, when all that the server sends has come: the connection goes on by itself until code
is running again, and then all have been called.  It does not matter how the server's bytes were
cut into chunks, nor by whom the commands were written. -/
theorem replies_correlated (run : RunBy (Serial answers) initial labels m)
    (complete : fed labels = wire (span answers 0 (total (requests labels)))) :
    (∀ (labels' : List (Label H)) (n : Machine H),
      RunBy (fun _ _ label => label.isOwn = true) m labels' n → n.Running →
        heard (labels ++ labels') = calls answers (requests labels) 0) ∧
    ∃ (labels' : List (Label H)) (n : Machine H),
      RunBy (fun _ _ label => label.isOwn = true) m labels' n ∧ n.Running := by
  have course := course_of_run run
  refine ⟨fun labels' n own running => ?_, course.runs_on⟩
  obtain ⟨course', read, asked⟩ := course.own own
  rw [← asked]
  refine course'.complete ?_ running
  rw [read, asked]
  exact complete

/-- A server that greets with one line and answers with two. -/
def twoLined : Nat → Block
  | 0 => { hundreds := 2, tens := 2, units := 0, last := some [104, 105], clean := by simp,
           short := by simp }
  | _ => { hundreds := 2, tens := 5, units := 0, earlier := [[97]], last := none,
           clean := by simp, short := by simp }

/-- The greeting comes in two chunks.  Its handler writes a command, and the first half of the
answer comes while it is still running.  The second half brings the handler of the command, which
writes a group. -/
def exchanged : List (Choice Nat) :=
  [.operate (.dial (Config.build "mail" []) 0 1), .operate (.connected (.manual {})),
    .operate (.input [50, 50, 48, 32]), .proceed, .operate (.input [104, 105, 13, 10]), .proceed,
    .proceed, .operate (.write "HELP" none 2), .operate (.input [50, 53, 48, 45, 97, 13, 10, 50]),
    .proceed, .leave, .proceed, .operate (.input [53, 48, 13, 10]), .proceed, .proceed,
    .operate (.writeCommands ["RSET", "NOOP"] 3), .leave, .proceed,
    .operate (.input (wire [twoLined 2, twoLined 3])), .proceed, .proceed]

/-- Three handlers are called, each with its answers. -/
theorem three_handlers_called : heard (initial.play exchanged).1 =
    [(0, .greeting ⟨⟨220⟩, ["hi"]⟩), (2, .reply ⟨⟨250⟩, ["a", ""]⟩),
      (3, .replies [⟨⟨250⟩, ["a", ""]⟩, ⟨⟨250⟩, ["a", ""]⟩])] := by
  have keeps : PlaysBy (Serial twoLined) [] initial exchanged := by decide +kernel
  have run : RunBy (Serial twoLined) initial (initial.play exchanged).1
      (initial.play exchanged).2 := runBy_play exchanged .nil keeps
  have complete : fed (initial.play exchanged).1 =
      wire (span twoLined 0 (total (requests (initial.play exchanged).1))) := by decide +kernel
  have running : (initial.play exchanged).2.Running := by decide +kernel
  have called := (replies_correlated run complete).1 [] _ .nil running
  rw [List.append_nil] at called
  rw [called]
  rfl

end Machine

end SmtpLink
