import SmtpLink.Proofs.SessionEnd
import SmtpLink.Proofs.Turns

/-!
# What the listener hears of a session

The pool opens a session's account when it begins to connect, and closes it when its listener
hears that connecting failed or that the socket has closed.  The latter is due from several
sides: the peer ends its stream, reading fails, the connection closes its socket, or the socket
cannot be made secure.  Each of these makes the turn the last, and the last turn alone tells.

## Main definitions

* `SocketMachine.attempted` — the session that an attempt to connect begins.
* `SocketMachine.Accounted` — what the listener has heard, with what it is due to hear.

## Main results

* `SocketMachine.accounted_move` — every move keeps the account.
* `SocketMachine.told_once` — **of every session that has ended the listener has heard once**:
  that the socket has closed if there was one, and otherwise that connecting failed.
-/

namespace SmtpLink

variable {H : Type}

/-- What the listener is to hear of a session in the end, by how its attempt to connect went. -/
def Account.ofAttempt : Except Error Bool → Account
  | .ok _ => .closed
  | .error _ => .failed

theorem Endpoint.account?_of_leaves {replies : Bool} {work : List (Work H)}
    (leaves : Leaves replies work) : work.filterMap Work.account? = [] := by
  refine List.filterMap_eq_nil_iff.mpr fun w mem => ?_
  have notPerform := leaves.not_perform mem
  cases w with
  | perform operation => exact absurd notPerform (by simp [Work.isPerform])
  | _ => rfl

theorem Work.account?_of_public {operation : Operation H} (h : operation.Public) :
    (Work.perform operation).account? = none := by
  cases operation <;> first | rfl | exact absurd h (by simp [Operation.isPublic])

/-- The last turn tells that the socket has closed, and no other turn tells anything. -/
theorem SocketTask.account?_answer (t : SocketTask) (e : Endpoint H) (report : SocketReport) :
    (t.answer e report).2.filterMap Work.account? =
      if report.isLast then [.closed] else [] := by
  cases report with
  | wrote data result =>
    cases result with
    | ok =>
      show (turn (if (t.acknowledge e data).1 then [.drained] else [])).filterMap _ = []
      split <;> rfl
    | error fault => rfl
  | upgraded result => cases result <;> rfl
  | shutDown result => cases result <;> rfl
  | _ => rfl

namespace SocketMachine

variable {s t : SocketMachine H} {label : Label H ⊕ SocketReport}
  {labels : List (Label H ⊕ SocketReport)} {e : Endpoint H} {limit : UInt64} {secure : Bool}
  {old : List Account} {verdict : Account}

/-- The session that an attempt to connect begins: with a socket that is secure or not, or
without any. -/
def attempted (e : Endpoint H) (limit : UInt64) : Except Error Bool → SocketMachine H
  | .ok secure => start e limit secure
  | .error err => refused e err

/-- What the listener is due to hear. -/
def dueAccounts (s : SocketMachine H) : List Account := s.dues.filterMap Work.account?

/-- In its last turn the listener hears the verdict on the session, or has heard it. -/
structure Accounted (old : List Account) (verdict : Account) (s : SocketMachine H) : Prop where
  /-- What was heard and what is due make the verdict. -/
  balance : s.machine.endpoint.accounts ++ s.dueAccounts =
    old ++ if s.last then [verdict] else []
  /-- A session that goes on has its socket. -/
  goesOn : s.last = false → verdict = .closed

/-- Every move keeps the account. -/
theorem accounted_move (underway : s.Underway) (accounted : Accounted old verdict s)
    (move : Move Operation.Public s label t) : Accounted old verdict t := by
  cases move.act with
  | @work _ _ w below kind endpoint dues task last =>
    refine ⟨?_, fun goesOn => accounted.goesOn (last ▸ goesOn)⟩
    have deals := s.machine.endpoint.deals_resume (k := s.task.channel) w
      (Work.ne_connected_of_not_opening (underway.not_opening kind))
    -- what is left by work is never due to the listener
    have left : ((s.machine.endpoint.resume w).2.filter fun v => !v.isCall).filterMap
        Work.account? = [] := by
      refine List.filterMap_eq_nil_iff.mpr fun v mem => ?_
      exact List.filterMap_eq_nil_iff.mp (Endpoint.account?_of_leaves
        (Endpoint.leaves_resume s.machine.endpoint w)) v (List.mem_filter.mp mem).1
    have dueBefore : s.dueAccounts = w.account?.toList ++ below.filterMap Work.account? := by
      rcases kind with first | ⟨first, operation, rfl, isPublic⟩
      · rw [dueAccounts, first, List.filterMap_cons]
        cases w.account? <;> rfl
      · rw [dueAccounts, first, Work.account?_of_public isPublic]
        rfl
    rw [dueAccounts, dues, List.filterMap_append, left, List.nil_append, endpoint, deals.accounts,
      List.append_assoc, ← dueBefore, last]
    exact accounted.balance
  | pause endpoint dues task last =>
    obtain ⟨clock, -, endpoint⟩ := endpoint
    refine ⟨?_, fun goesOn => accounted.goesOn (last ▸ goesOn)⟩
    rw [dueAccounts, dues, endpoint, last]
    exact accounted.balance
  | @turn _ report e head due endpoint dues task last =>
    -- between the turns nothing is due, so nothing new was heard
    have balance := accounted.balance
    rw [dueAccounts, head.dues_eq_nil, head.2] at balance
    have heard : s.machine.endpoint.accounts = old := by simpa using balance
    refine ⟨?_, fun _ => accounted.goesOn head.2⟩
    rw [dueAccounts, dues, endpoint, due.tends.accounts, heard, s.task.account?_answer, last,
      accounted.goesOn head.2]

theorem accounted_of_run (run : Run Operation.Public s labels t) (underway : s.Underway)
    (accounted : Accounted old verdict s) : Accounted old verdict t := by
  have both := run.invariant (P := fun u => u.Underway ∧ Accounted old verdict u)
    (fun ⟨underway, accounted⟩ move =>
      ⟨underway.move move, accounted_move underway accounted move⟩) ⟨underway, accounted⟩
  exact both.2

theorem accounted_connected (e : Endpoint H) (limit : UInt64) (secure : Bool) :
    Accounted e.accounts .closed (connected e limit secure) := by
  refine ⟨?_, fun _ => rfl⟩
  show (e.connected _).accounts ++ [] = e.accounts ++ []
  rw [Endpoint.accounts_connected]

theorem underway_refused (e : Endpoint H) (err : Error) : (refused e err).Underway := by
  intro w mem
  rcases List.mem_cons.mp mem with rfl | mem
  · rfl
  · obtain rfl := List.mem_singleton.mp mem
    rfl

theorem accounted_refused (e : Endpoint H) (err : Error) :
    Accounted e.accounts .failed (refused e err) :=
  ⟨rfl, fun goesOn => absurd goesOn (by simp [refused])⟩

/-- **Of every session that has ended the listener has heard exactly once**: that the socket has
closed if there was one, and that connecting failed if there was none. -/
theorem told_once {attempt : Except Error Bool}
    (run : Run Operation.Public (attempted e limit attempt) labels s) (ended : s.Ended) :
    s.machine.endpoint.accounts = e.accounts ++ [.ofAttempt attempt] := by
  have accounted : Accounted e.accounts (.ofAttempt attempt) s := by
    cases attempt with
    | ok secure =>
      obtain ⟨clock, rest, -, -, run⟩ := begins_of_run run ended.1
      exact accounted_of_run run (underway_connected _ limit secure)
        (accounted_connected { e with clock } limit secure)
    | error err =>
      exact accounted_of_run run (underway_refused e err) (accounted_refused e err)
  have balance := accounted.balance
  rwa [dueAccounts, dues, ended.1, ended.2, if_pos rfl, List.filterMap_nil, List.filterMap_nil,
    List.append_nil] at balance

/-- One session ends with its peer's stream, and another without a socket. -/
theorem told_of_both :
    (∃ labels s, Run Operation.Public begun labels s ∧ s.Ended ∧
      s.machine.endpoint.accounts = [.closed]) ∧
    ∃ labels s, Run Operation.Public (refused begun.machine.endpoint (.io .refused)) labels s ∧
      s.Ended ∧ s.machine.endpoint.accounts = [.failed] := by
  constructor
  · have begins : Trail Operation.Public begun [] _ := .nil
    have waiting := begins.played [.proceed, .proceed, .proceed] (by decide)
    have ended := (waiting.reported .readEnd (by decide) (.readEnd rfl)).played
      [.proceed, .proceed, .leave, .proceed, .proceed] (by decide)
    have run : Run Operation.Public (attempted begun.machine.endpoint 1000 (.ok false)) _ _ :=
      ended.run
    exact ⟨_, _, run, by decide, told_once run (by decide)⟩
  · have begins : Trail Operation.Public
        (attempted begun.machine.endpoint 0 (.error (.io .refused))) [] _ := .nil
    have ended := begins.played [.proceed, .proceed, .leave, .proceed, .proceed] (by decide)
    exact ⟨_, _, ended.run, by decide, told_once ended.run (by decide)⟩

end SocketMachine

end SmtpLink
