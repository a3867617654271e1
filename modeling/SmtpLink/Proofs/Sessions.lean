import SmtpLink.Proofs.Steady
import SmtpLink.SocketTask.Machine

/-!
# Sessions of a socket task

A session is orderly as long as the application keeps a handle and only uses the connection.  All
that is done is ordinary work, but for the end that the task makes of the connection after a
failed upgrade; and what the task does at its channel between the turns does not concern the
connection.  So the connection stays steady, and no fault is delivered as long as it can be used.

## Main definitions

* `Endpoint.Aside` — the socket task works at its channel.
* `SocketMachine.Deed` — what a move of a session does.
* `SocketMachine.opened` — a session of a connection that was just opened.
* `SocketMachine.Orderly` — what is known of a session at any time.
* `SocketMachine.Fresh`, `Begun` — a session before its first turn, and later.
* `SocketMachine.played`, `reported` — a session that is played by choices, and its turns.
* `SocketMachine.Reaches` — a session that another may become.

## Main results

* `SocketMachine.orderly_of_run` — **sessions are orderly.**
* `SocketMachine.gone_of_ended` — **a session that has ended has let go of its socket.**
* `SocketMachine.run_played` — what is played of a session is a session.
-/

namespace SmtpLink

variable {H : Type}

/-- The move goes on with a turn, and asks for ordinary operations only. -/
def Label.isOrdinary : Label H → Bool
  | .operate operation => operation.isOrdinary
  | .outside => false
  | _ => true

/-- Operations that leave the connection to its use. -/
abbrev Operation.Ordinary (operation : Operation H) : Prop := operation.isOrdinary = true

/-! ### The task at its channel -/

namespace Endpoint

variable {e e' e'' : Endpoint H} {w : Work H}

/-- The socket task works at its channel, or remarks something: nothing that concerns the
connection. -/
structure Aside (e e' : Endpoint H) : Prop where
  /-- The connection stays. -/
  conn : e'.conn = e.conn
  /-- So do the transports, each in its place. -/
  transports : e'.transports.length = e.transports.length
  /-- No fault is delivered. -/
  deliveries : e'.deliveries = e.deliveries

namespace Aside

theorem refl (e : Endpoint H) : Aside e e := ⟨rfl, rfl, rfl⟩

theorem trans (h : Aside e e') (h' : Aside e' e'') : Aside e e'' :=
  ⟨h'.conn.trans h.conn, h'.transports.trans h.transports, h'.deliveries.trans h.deliveries⟩

theorem remark (e : Endpoint H) {r : Remark} (h : (Event.remark r).isDelivery = false) :
    Aside e (e.remark r) :=
  ⟨rfl, rfl, deliveries_remark_of_not h⟩

theorem sound (h : Aside e e') (sound : e.Sound) : e'.Sound :=
  sound.of_same (by rw [h.conn]) (by rw [h.conn]) h.transports

end Aside

/-- A connection that can no longer be used meets no fault any more. -/
theorem resume_of_terminal (sound : e.Sound) (terminal : e.conn.state.isTerminal = true)
    (h : w.isDial = false) : (e.resume w).1.conn.state.isTerminal = true ∧
      (e.resume w).1.deliveries = e.deliveries := by
  constructor
  · rw [(effects_resume e w h).state_of_terminal terminal]
    exact terminal
  · refine (deliveries_resume e w).resolve_right ?_
    rintro ⟨found, err, meets, inFlight⟩
    have live := (meets.held sound inFlight).1
    rw [not_live_of_terminal terminal] at live
    exact absurd live Bool.false_ne_true

/-- A connection that holds its socket keeps it over allowed work, or can no longer be used. -/
theorem socket_resume (sound : e.Sound) (steady : e.Steady) (allowed : w.Allowed)
    (h : e.conn.isLive = true ∨ e.conn.state.isTerminal = true) :
    (e.resume w).1.conn.isLive = true ∨ (e.resume w).1.conn.state.isTerminal = true := by
  rcases h with live | terminal
  · rcases allowed with ordinary | rfl
    · rcases e.abides_or_meets ordinary with abides | ⟨found, err, meets, inFlight⟩
      · exact .inl ((abides steady).2 live)
      · refine .inr ?_
        rw [(meets.delivers sound inFlight).state]
        rfl
    · refine .inr ?_
      show e.setBroken.conn.state.isTerminal = true
      rw [state_setBroken, not_terminal_of_live live]
      rfl
  · exact .inr (resume_of_terminal sound terminal allowed.not_dial).1

/-- When the socket closes, a connection that held it can no longer be used. -/
theorem terminal_closed (sound : e.Sound) (steady : e.Steady)
    (h : e.conn.isLive = true ∨ e.conn.state.isTerminal = true) :
    (e.resume (.perform .closed)).1.conn.state.isTerminal = true := by
  rcases h with live | terminal
  · have inFlight : e.noteClosed.conn.state.isInFlight = true := by
      show e.conn.state.isInFlight = true
      rw [steady.active live]
      rfl
    rw [(Meets.closed.delivers sound inFlight).state]
    rfl
  · exact (resume_of_terminal sound terminal rfl).1

end Endpoint

namespace SocketTask

variable {e e' : Endpoint H} {report : SocketReport}

theorem aside_setChannel (t : SocketTask) (e : Endpoint H) (c : Channel) :
    e.Aside (t.setChannel e c) :=
  ⟨rfl, List.length_set, rfl⟩

theorem aside_takeOrder (t : SocketTask) (e : Endpoint H) : e.Aside (t.takeOrder e).2 := by
  unfold takeOrder
  split
  · exact .refl e
  · exact t.aside_setChannel e _

theorem aside_acknowledge (t : SocketTask) (e : Endpoint H) (data : Bytes) :
    e.Aside (t.acknowledge e data).2 := by
  unfold acknowledge
  split
  · exact .refl e
  · exact t.aside_setChannel e _

theorem aside_secure (t : SocketTask) (e : Endpoint H) : e.Aside (t.secure e) := by
  unfold secure
  split
  · exact .refl e
  · exact t.aside_setChannel e _

/-- What the task does before a turn concerns its channel only. -/
theorem aside_answer (t : SocketTask) (e : Endpoint H) (report : SocketReport) :
    e.Aside (t.answer e report).1 := by
  cases report with
  | wrote data result =>
    cases result with
    | ok => exact t.aside_acknowledge e data
    | error fault => exact t.aside_acknowledge e data
  | upgraded result =>
    cases result with
    | ok => exact (t.aside_secure e).trans (.remark _ rfl)
    | error err => exact .remark e rfl
  | shutDown result =>
    cases result with
    | ok => exact .refl e
    | error fault => exact .remark e rfl
  | handlesDropped => exact .remark e rfl
  | _ => exact .refl e

/-- A turn starts from what the oldest order leaves. -/
theorem Due.eq_takeOrder {t : SocketTask} {handles : Bool} (due : t.Due handles e report e') :
    e' = (t.takeOrder e).2 := by
  cases due <;> simp_all

/-- The work of a turn is ordinary, but for the end of the connection after a failed upgrade, and
for the graceful close after the last handle was dropped. -/
theorem work_answer (t : SocketTask) (e : Endpoint H) (handle : report ≠ .handlesDropped)
    {w : Work H} (mem : w ∈ (t.answer e report).2) : w.isOrdinary = true ∨
      w = .perform .setBroken ∧ ∃ err, report = .upgraded (.error err) := by
  have ordinary {operations : List (Operation H)} (h : ∀ o ∈ operations, o.isOrdinary = true)
      (mem : w ∈ turn operations) : w.isOrdinary = true := by
    simp only [turn, List.mem_append, List.mem_map, List.mem_singleton] at mem
    rcases mem with ⟨o, asked, rfl⟩ | rfl
    · exact h o asked
    · rfl
  cases report with
  | wrote data result =>
    cases result with
    | ok =>
      refine .inl (ordinary ?_ mem)
      split <;> simp [Operation.isOrdinary]
    | error fault => exact .inl (ordinary (by simp [Operation.isOrdinary]) mem)
  | upgraded result =>
    cases result with
    | ok => exact .inl (ordinary (by simp [Operation.isOrdinary]) mem)
    | error err =>
      simp only [answer, turn, List.map_cons, List.map_nil, List.mem_append, List.mem_cons,
        List.not_mem_nil, or_false] at mem
      rcases mem with (rfl | rfl | rfl) | rfl
      · exact .inl rfl
      · exact .inr ⟨rfl, err, rfl⟩
      · exact .inl rfl
      · exact .inl rfl
  | shutDown result =>
    cases result <;> exact .inl (ordinary (by simp [Operation.isOrdinary]) mem)
  | handlesDropped => exact absurd rfl handle
  | _ => exact .inl (ordinary (by simp [Operation.isOrdinary]) mem)

/-- In the last turn the connection hears that the socket has closed. -/
theorem closed_mem_answer (t : SocketTask) (e : Endpoint H) (last : report.isLast = true) :
    .perform .closed ∈ (t.answer e report).2 := by
  cases report with
  | upgraded result =>
    cases result with
    | ok => exact absurd last Bool.false_ne_true
    | error err => simp [answer, turn]
  | shutDown result => cases result <;> simp [answer, turn]
  | readEnd | readFailed => simp [answer, turn]
  | _ => exact absurd last Bool.false_ne_true

end SocketTask

/-! ### Orderly sessions -/

namespace SocketMachine

variable {s t u : SocketMachine H} {label : Label H ⊕ SocketReport}
  {labels labels' : List (Label H ⊕ SocketReport)} {handler : H} {notice : Notice}

/-- A session of a connection that was just opened. -/
def opened (config : Config) (greeting onError : H) (clock : Instant) (task : Option TaskId)
    (limit : UInt64) (secure : Bool) : SocketMachine H :=
  start (({ clock, task } : Endpoint H).dial config greeting onError) limit secure

/-- The socket could not be made secure. -/
def UpgradeFailed (labels : List (Label H ⊕ SocketReport)) : Prop :=
  ∃ err, .inr (.upgraded (.error err)) ∈ labels

/-- What is known of a session that has shown `labels`. -/
structure Orderly (labels : List (Label H ⊕ SocketReport)) (s : SocketMachine H) : Prop where
  /-- The connection is sound. -/
  sound : s.machine.endpoint.Sound
  /-- Nobody closes it. -/
  steady : s.machine.endpoint.Steady
  /-- Work that is due is ordinary, but for the end of the connection after a failed upgrade. -/
  work : ∀ w, .work w ∈ s.machine.frames → w.isOrdinary = true ∨
    w = .perform .setBroken ∧ UpgradeFailed labels
  /-- As long as the connection can be used, no fault was delivered. -/
  unheard : s.machine.endpoint.conn.state.isTerminal = false → s.machine.endpoint.deliveries = 0

theorem UpgradeFailed.snoc (h : UpgradeFailed labels) : UpgradeFailed (labels ++ [label]) := by
  obtain ⟨err, mem⟩ := h
  exact ⟨err, List.mem_append_left _ mem⟩

theorem orderly_opened (config : Config) (greeting onError : H) (clock : Instant)
    (task : Option TaskId) (limit : UInt64) (secure : Bool) :
    Orderly [] (opened config greeting onError clock task limit secure) where
  sound := Endpoint.sound_dial _ config greeting onError
  steady.active live := absurd live Bool.false_ne_true
  steady.calm := by
    rintro (quit | quit | armed)
    · exact absurd (Option.some.inj quit) (by simp)
    · exact (Option.some_ne_none _).symm quit
    · exact absurd armed Bool.false_ne_true
  steady.remembered := (Option.some_ne_none _).symm
  steady.tasks := List.not_mem_nil
  work w mem := by
    rcases List.mem_cons.mp mem with first | mem
    · exact .inl (Frame.work.inj first ▸ rfl)
    · exact .inl (Frame.work.inj (List.mem_singleton.mp mem) ▸ rfl)
  unheard _ := Endpoint.deliveries_dial _ config greeting onError

namespace Orderly

/-- Work that is done in an orderly session is allowed. -/
theorem allowed (orderly : Orderly labels s) {w : Work H} {frames : List (Frame H)}
    (kind : w.isOrdinary = true ∨ s.machine.frames = .work w :: frames) : w.Allowed :=
  kind.elim .inl fun first => (orderly.work w (first ▸ List.mem_cons_self)).imp_right And.left

/-- Allowed work leaves an orderly session, whatever is due below it. -/
theorem after (orderly : Orderly labels s) {w : Work H} {frames : List (Frame H)}
    (allowed : w.Allowed)
    (below : ∀ v, .work v ∈ frames → .work v ∈ s.machine.frames) :
    Orderly (labels ++ [label])
      { s with machine := Machine.after s.machine.endpoint w frames } := by
  have effects := Endpoint.effects_resume s.machine.endpoint w allowed.not_dial
  refine ⟨?_, Endpoint.steady_resume orderly.steady allowed, fun v mem => ?_, fun usable => ?_⟩
  · exact effects.invariant (P := Endpoint.Sound) (fun sound effect => effect.sound sound)
      orderly.sound
  · rw [Machine.frames_after] at mem
    simp only [List.mem_append, List.mem_map, Frame.work.injEq, exists_eq_right] at mem
    rcases mem with left | mem
    · exact .inl (Work.isOrdinary_of_not_perform
        ((Endpoint.leaves_resume s.machine.endpoint w).not_perform left))
    · exact (orderly.work v (below v mem)).imp_right (And.imp_right UpgradeFailed.snoc)
  · -- a fault that is delivered ends the connection
    show (s.machine.endpoint.resume w).1.deliveries = 0
    have before : s.machine.endpoint.conn.state.isTerminal = false := by
      cases terminal : s.machine.endpoint.conn.state.isTerminal with
      | false => rfl
      | true =>
        have ended := (Endpoint.resume_of_terminal orderly.sound terminal allowed.not_dial).1
        exact absurd (ended.symm.trans usable) (by simp)
    rcases Endpoint.deliveries_resume s.machine.endpoint w with same | ⟨found, err, meets, inFlight⟩
    · exact same.trans (orderly.unheard before)
    · have broken : (s.machine.endpoint.resume w).1.conn.state = .broken :=
        (meets.delivers orderly.sound inFlight).state
      have usable : (s.machine.endpoint.resume w).1.conn.state.isTerminal = false := usable
      rw [broken] at usable
      exact absurd usable (by simp [ConnectionState.isTerminal])

/-- What does not concern the connection leaves an orderly session. -/
theorem aside (orderly : Orderly labels s)
    (aside : s.machine.endpoint.Aside t.machine.endpoint)
    (work : ∀ w, .work w ∈ t.machine.frames → w.isOrdinary = true ∨
      w = .perform .setBroken ∧ UpgradeFailed (labels ++ [label])) :
    Orderly (labels ++ [label]) t where
  sound := aside.sound orderly.sound
  steady := orderly.steady.of_conn aside.conn
  work := work
  unheard usable := by
    rw [aside.conn] at usable
    exact aside.deliveries.trans (orderly.unheard usable)

end Orderly

/-- What a move of a session does. -/
inductive Deed : SocketMachine H → Label H ⊕ SocketReport → SocketMachine H → Prop
  /-- Work that is due is done, or code of the application asks for an ordinary operation. -/
  | work {s : SocketMachine H} {l : Label H} {w : Work H} {frames : List (Frame H)}
      (due : Machine.Due s.machine l w frames)
      (kind : w.isOrdinary = true ∨ s.machine.frames = .work w :: frames) :
      Deed s (.inl l) { s with machine := Machine.after s.machine.endpoint w frames }
  /-- Code of the application begins or returns, or time passes. -/
  | pause {s t : SocketMachine H} {l : Label H}
      (aside : s.machine.endpoint.Aside t.machine.endpoint) (last : t.last = s.last)
      (same : ∀ w, w.isCall = false → (.work w ∈ t.machine.frames ↔ .work w ∈ s.machine.frames)) :
      Deed s (.inl l) t
  /-- A turn begins. -/
  | turn {s t : SocketMachine H} {report : SocketReport} {e : Endpoint H}
      (aside : s.machine.endpoint.Aside t.machine.endpoint) (last : t.last = report.isLast)
      (work : ∀ w, .work w ∈ t.machine.frames ↔ w ∈ (s.task.answer e report).2) :
      Deed s (.inr report) t

theorem Move.deed (move : Move Operation.Ordinary s label t) : Deed s label t := by
  obtain ⟨task, ⟨e, frames⟩, handles, last⟩ := s
  cases move with
  | inside move internal =>
    cases move with
    | work noCall =>
      refine .work (s := ⟨task, ⟨e, _⟩, handles, last⟩) (.work ?_) (.inr rfl)
      exact Work.isCall_of_ne noCall
    | operate isAdmitted =>
      exact .work (s := ⟨task, ⟨e, _⟩, handles, last⟩) .operate (.inl isAdmitted)
    | call =>
      refine .pause (.refl _) rfl fun w noCall => ?_
      simp only [List.mem_cons, reduceCtorEq, false_or, Frame.work.injEq]
      refine ⟨.inr, Or.rec (fun called => ?_) id⟩
      rw [called] at noCall
      exact absurd noCall (by simp [Work.isCall])
    | leave => exact .pause (.refl _) rfl fun w _ => by simp
    | _ => exact absurd rfl internal
  | wait later => exact .pause ⟨rfl, rfl, rfl⟩ rfl fun w _ => Iff.rfl
  | @turn report e' head due =>
    have taken : e.Aside e' := by
      rw [due.eq_takeOrder]
      exact task.aside_takeOrder e
    refine .turn (e := e') (taken.trans (task.aside_answer e' report)) rfl fun w => ?_
    cases report <;> simp [framesOf]

theorem orderly_move (orderly : Orderly labels s) (handle : label ≠ .inr .handlesDropped)
    (move : Move Operation.Ordinary s label t) : Orderly (labels ++ [label]) t := by
  cases move.deed with
  | work due kind =>
    exact orderly.after (orderly.allowed kind) fun v mem => (due.frames_of_mem mem).1
  | pause aside last same =>
    refine orderly.aside aside fun w mem => ?_
    cases call : w.isCall with
    | true =>
      cases w with
      | call => exact .inl rfl
      | _ => exact absurd call Bool.false_ne_true
    | false =>
      exact (orderly.work w ((same w call).mp mem)).imp_right (And.imp_right UpgradeFailed.snoc)
  | @turn _ report e aside last work =>
    refine orderly.aside aside fun w mem => ?_
    have reported : report ≠ .handlesDropped := fun h => handle (by rw [h])
    refine (s.task.work_answer e reported ((work w).mp mem)).imp_right ?_
    rintro ⟨breaks, err, rfl⟩
    exact ⟨breaks, err, List.mem_append_right _ List.mem_cons_self⟩

/-- **Sessions are orderly.** -/
theorem orderly_of_run (orderly : Orderly labels s) (run : Run Operation.Ordinary s labels' t)
    (handle : .inr .handlesDropped ∉ labels') : Orderly (labels ++ labels') t := by
  induction run with
  | nil => rwa [List.append_nil]
  | snoc run move ih =>
    rw [List.mem_append, not_or, List.mem_singleton] at handle
    rw [← List.append_assoc]
    exact orderly_move (ih handle.1) (Ne.symm handle.2) move

/-- After its end a connection hears of no fault. -/
theorem deliveries_of_terminal (orderly : Orderly labels s)
    (terminal : s.machine.endpoint.conn.state.isTerminal = true)
    (run : Run Operation.Ordinary s labels' t) (handle : .inr .handlesDropped ∉ labels') :
    t.machine.endpoint.conn.state.isTerminal = true ∧
      t.machine.endpoint.deliveries = s.machine.endpoint.deliveries := by
  induction run with
  | nil => exact ⟨terminal, rfl⟩
  | snoc run move ih =>
    rw [List.mem_append, not_or] at handle
    obtain ⟨terminal, same⟩ := ih handle.1
    have orderly := orderly_of_run orderly run handle.1
    cases move.deed with
    | work due kind =>
      have notDial := (orderly.allowed kind).not_dial
      have still := Endpoint.resume_of_terminal orderly.sound terminal notDial
      exact ⟨still.1, still.2.trans same⟩
    | pause aside | turn aside =>
      exact ⟨by rw [aside.conn]; exact terminal, aside.deliveries.trans same⟩

/-! ### The last turn -/

/-- A session before its first turn. -/
structure Fresh (s : SocketMachine H) : Prop where
  /-- The connection waits for its socket. -/
  waits : ∃ greeting, s.machine.endpoint.conn.phase = .connecting greeting
  /-- The socket is there. -/
  due : ∃ t, s.machine.frames = [.work (.perform (.connected t)), .work (.perform .runScheduled)]
  /-- Turns will follow. -/
  goesOn : s.last = false

/-- A session that has begun. -/
structure Begun (s : SocketMachine H) : Prop where
  /-- The connection holds its socket, or can no longer be used. -/
  socket : s.machine.endpoint.conn.isLive = true ∨
    s.machine.endpoint.conn.state.isTerminal = true
  /-- In the last turn the connection hears that the socket has closed. -/
  ending : s.last = true → .work (.perform .closed) ∈ s.machine.frames ∨
    s.machine.endpoint.conn.state.isTerminal = true

theorem begun_move (orderly : Orderly labels s) (begun : Begun s)
    (move : Move Operation.Ordinary s label t) : Begun t := by
  cases move.deed with
  | @work l w frames due kind =>
    have allowed := orderly.allowed kind
    refine ⟨Endpoint.socket_resume orderly.sound orderly.steady allowed begun.socket,
      fun last => ?_⟩
    rcases begun.ending last with mem | terminal
    · rcases due.of_mem mem with rfl | mem
      · exact .inr (Endpoint.terminal_closed orderly.sound orderly.steady begun.socket)
      · exact .inl (List.mem_append_right _ mem)
    · exact .inr (Endpoint.resume_of_terminal orderly.sound terminal allowed.not_dial).1
  | pause aside last same =>
    refine ⟨by rw [aside.conn]; exact begun.socket, fun ends => ?_⟩
    rw [aside.conn, same _ rfl]
    exact begun.ending (last ▸ ends)
  | @turn _ report e aside last work =>
    refine ⟨by rw [aside.conn]; exact begun.socket, fun ends => .inl ?_⟩
    rw [last] at ends
    rw [work]
    exact s.task.closed_mem_answer e ends

/-- The first thing that is done is to hand the socket over. -/
theorem begun_of_fresh (fresh : Fresh s) (move : Move Operation.Ordinary s label t) :
    Fresh t ∨ Begun t ∧ t.machine.endpoint.conn.isLive = true := by
  obtain ⟨⟨greeting, waits⟩, ⟨channel, due⟩, goesOn⟩ := fresh
  obtain ⟨task, ⟨e, frames⟩, handles, last⟩ := s
  obtain rfl : frames = _ := due
  cases move with
  | inside move internal =>
    cases move with
    | work noCall =>
      have live : (e.connected channel).conn.isLive = true := by
        rw [Endpoint.connected_of_connecting channel waits]
        rfl
      exact .inr ⟨⟨.inl live, fun ends => absurd (goesOn.symm.trans ends) (by simp)⟩, live⟩
    | _ => exact absurd rfl internal
  | wait later => exact .inl ⟨⟨greeting, waits⟩, ⟨channel, rfl⟩, goesOn⟩
  | turn head due => exact absurd head.1 (by simp)

theorem begun_of_run (orderly : Orderly labels s) (fresh : Fresh s)
    (run : Run Operation.Ordinary s labels' t) (handle : .inr .handlesDropped ∉ labels') :
    Fresh t ∨ Begun t := by
  induction run with
  | nil => exact .inl fresh
  | snoc run move ih =>
    rw [List.mem_append, not_or] at handle
    rcases ih handle.1 with fresh | begun
    · exact (begun_of_fresh fresh move).imp_right And.left
    · exact .inr (begun_move (orderly_of_run orderly run handle.1) begun move)

theorem fresh_opened (config : Config) (greeting onError : H) (clock : Instant)
    (task : Option TaskId) (limit : UInt64) (secure : Bool) :
    Fresh (opened config greeting onError clock task limit secure) :=
  ⟨⟨greeting, rfl⟩, ⟨.channel { limit, secure }, rfl⟩, rfl⟩

/-- A session that has ended has let go of its socket. -/
theorem gone_of_ended (orderly : Orderly labels s) (fresh : Fresh s)
    (run : Run Operation.Ordinary s labels' t) (handle : .inr .handlesDropped ∉ labels')
    (ended : t.Ended) : t.machine.endpoint.conn.state.isTerminal = true := by
  rcases begun_of_run orderly fresh run handle with fresh | begun
  · exact absurd (fresh.goesOn.symm.trans ended.2) (by simp)
  · refine (begun.ending ended.2).resolve_left fun mem => ?_
    rw [ended.1] at mem
    exact absurd mem List.not_mem_nil

/-! ### Sessions played by choices -/

/-- The session after the choices of a turn. -/
def played (s : SocketMachine H) (choices : List (Choice H)) : SocketMachine H :=
  { s with machine := (s.machine.play choices).2 }

/-- What these choices show. -/
def shown (s : SocketMachine H) (choices : List (Choice H)) : List (Label H ⊕ SocketReport) :=
  (s.machine.play choices).1.map .inl

/-- The session at the beginning of a turn. -/
def reported (s : SocketMachine H) (report : SocketReport) : SocketMachine H :=
  let e := (s.task.takeOrder s.machine.endpoint).2
  { task := s.task.after report
    machine := ⟨(s.task.answer e report).1, framesOf report (s.task.answer e report).2⟩
    handles := handlesAfter s.handles report
    last := report.isLast }

theorem inr_not_mem_shown (s : SocketMachine H) (choices : List (Choice H))
    (report : SocketReport) : .inr report ∉ s.shown choices := by
  simp [shown]

instance (s : SocketMachine H) : Decidable s.AtHead :=
  decidable_of_iff (s.machine.frames.isEmpty = true ∧ s.last = false) (by simp [AtHead])

instance (s : SocketMachine H) : Decidable s.Ended :=
  decidable_of_iff (s.machine.frames.isEmpty = true ∧ s.last = true) (by simp [Ended])

/-- An ordinary move of the connection is a move of a session. -/
theorem move_inside {m : Machine H} {l : Label H} (move : Machine.Move Operation.Any s.machine l m)
    (ordinary : l.isOrdinary = true) :
    Move Operation.Ordinary s (.inl l) { s with machine := m } := by
  refine .inside ?_ ?_
  · generalize s.machine = k at move
    cases move with
    | work noCall => exact .work noCall
    | call => exact .call
    | operate => exact .operate ordinary
    | leave => exact .leave
    | _ => exact absurd ordinary Bool.false_ne_true
  · rintro rfl
    exact absurd ordinary Bool.false_ne_true

theorem run_inside {m : Machine H} {inner : List (Label H)}
    (run : Machine.Run Operation.Any s.machine inner m) (h : ∀ l ∈ inner, l.isOrdinary = true) :
    Run Operation.Ordinary s (inner.map .inl) { s with machine := m } := by
  generalize hs : s.machine = k at run
  induction run with
  | nil =>
    subst hs
    exact .nil s
  | @snoc n o before label run move ih =>
    obtain ⟨h, last⟩ := List.forall_mem_append.mp h
    rw [List.map_append]
    have ordinary := last label List.mem_cons_self
    exact .snoc (ih h) (move_inside (s := { s with machine := n }) move ordinary)

/-- **What is played of a session is a session.** -/
theorem run_played (s : SocketMachine H) (choices : List (Choice H))
    (h : ∀ l ∈ (s.machine.play choices).1, l.isOrdinary = true) :
    Run Operation.Ordinary s (s.shown choices) (s.played choices) :=
  run_inside (Machine.run_play s.machine choices) h

theorem Run.append {admitted : Operation H → Prop} (h : Run admitted s labels t)
    (h' : Run admitted t labels' u) : Run admitted s (labels ++ labels') u := by
  induction h' with
  | nil => rwa [List.append_nil]
  | snoc run move ih =>
    rw [← List.append_assoc]
    exact .snoc ih move

/-- One choice is one move. -/
theorem move_played (s : SocketMachine H) {choice : Choice H} {l : Label H}
    (shown : (s.machine.play [choice]).1 = [l]) (ordinary : l.isOrdinary = true) :
    Move Operation.Ordinary s (.inl l) (s.played [choice]) := by
  refine move_inside ?_ ordinary
  cases chosen : s.machine.advance choice with
  | none => simp [Machine.play, chosen] at shown
  | some next =>
    simp only [Machine.play, chosen, List.cons.injEq, and_true] at shown ⊢
    exact shown ▸ Machine.move_of_advance chosen

/-- A session is reached from another while the application keeps a handle. -/
def Reaches (begin s : SocketMachine H) : Prop :=
  ∃ labels, Run Operation.Ordinary begin labels s ∧ .inr .handlesDropped ∉ labels

namespace Reaches

variable {begin : SocketMachine H}

/-- What is played of a turn. -/
theorem played (h : Reaches begin s) (choices : List (Choice H))
    (ordinary : ∀ l ∈ (s.machine.play choices).1, l.isOrdinary = true) :
    Reaches begin (s.played choices) := by
  obtain ⟨labels, run, handle⟩ := h
  refine ⟨_, run.append (run_played s choices ordinary), ?_⟩
  rw [List.mem_append, not_or]
  exact ⟨handle, inr_not_mem_shown s choices _⟩

/-- A turn begins. -/
theorem reported (h : Reaches begin s) (report : SocketReport) (keeps : report ≠ .handlesDropped)
    (head : s.AtHead) (due : s.task.Due s.handles s.machine.endpoint report
      (s.task.takeOrder s.machine.endpoint).2) : Reaches begin (s.reported report) := by
  obtain ⟨labels, run, handle⟩ := h
  refine ⟨_, .snoc run (.turn head due), ?_⟩
  rw [List.mem_append, not_or, List.mem_singleton]
  exact ⟨handle, fun same => keeps (Sum.inr.inj same).symm⟩

end Reaches

end SocketMachine

end SmtpLink
