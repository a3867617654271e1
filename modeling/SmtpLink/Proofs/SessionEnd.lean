import SmtpLink.Proofs.Sessions

/-!
# How sessions end

A session ends in one of five ways: the peer ends its stream, reading fails, a write fails, the
input makes no sense, or the socket cannot be made secure.  While the application keeps a handle
and only uses the connection, four of them are faults that the connection meets while it is
active, and so the handler for errors is called with the fault, once, before the session is over.
The fifth is not: after a failed upgrade the task makes the connection unusable itself, which
delivers nothing, whoever waits for a reply.

## Main definitions

* `SocketMachine.CutOff` — a move takes the socket of a connection that is active.
* `SocketMachine.GivesUp` — the task is about to make the connection unusable.
* `SocketMachine.Fails` — a move meets a fault.
* `SocketMachine.Told` — a handler is called next.

## Main results

* `SocketMachine.cutOff_of_run` — a session that has begun holds its socket until it is cut off.
* `SocketMachine.cut_cases` — **what cuts a session off is a fault or a failed upgrade.**
* `SocketMachine.fault_told_once` — **every session is cut off, and the fault is told once exactly
  if it is not a failed upgrade.**
-/

namespace SmtpLink

variable {H : Type}

/-- A handler is called with an error. -/
def Label.isErrorCall : Label H → Bool
  | .call _ (.error _) => true
  | _ => false

namespace SocketMachine

variable {s t u : SocketMachine H} {label : Label H ⊕ SocketReport}
  {labels labels' : List (Label H ⊕ SocketReport)} {handler : H} {notice : Notice}

/-! ### The cut -/

/-- The task is about to make the connection unusable. -/
def GivesUp (s : SocketMachine H) : Prop :=
  ∃ frames, s.machine.frames = .work (.perform .setBroken) :: frames

/-- A move meets a fault. -/
def Fails (s : SocketMachine H) (label : Label H ⊕ SocketReport) (err : Error) : Prop :=
  ∃ (l : Label H) (w : Work H) (frames : List (Frame H)) (found : Endpoint H), label = .inl l ∧
    Machine.Due s.machine l w frames ∧ s.machine.endpoint.Meets w found err

/-- A handler is called next, whatever time passes before. -/
def Told (handler : H) (notice : Notice) (labels : List (Label H ⊕ SocketReport)) : Prop :=
  ∃ waits later, labels = waits ++ .inl (.call handler notice) :: later ∧
    ∀ l ∈ waits, l = .inl .outside

theorem Told.snoc (h : Told handler notice labels) : Told handler notice (labels ++ [label]) := by
  obtain ⟨waits, later, rfl, outside⟩ := h
  exact ⟨waits, later ++ [label], by simp, outside⟩

/-- A call that is due is made before anything else, if the session ends. -/
theorem told_of_run {admitted : Operation H → Prop} {frames : List (Frame H)}
    (due : s.machine.frames = .work (.call handler notice) :: frames)
    (run : Run admitted s labels t) (ended : t.machine.frames = []) :
    Told handler notice labels := by
  have called : Told handler notice labels ∨
      t.machine.frames = s.machine.frames ∧ ∀ l ∈ labels, l = .inl .outside := by
    clear ended
    induction run with
    | nil => exact .inr ⟨rfl, by simp⟩
    | @snoc k u before label run move ih =>
      rcases ih with told | ⟨same, waits⟩
      · exact .inl told.snoc
      · obtain ⟨task, ⟨e, below⟩, handles, last⟩ := k
        obtain rfl : below = _ := same.trans due
        cases move with
        | inside move internal =>
          cases move with
          | work noCall => exact absurd rfl (noCall handler notice)
          | call => exact .inl ⟨before, [], rfl, waits⟩
          | _ => exact absurd rfl internal
        | wait later =>
          refine .inr ⟨due.symm, fun l mem => ?_⟩
          rcases List.mem_append.mp mem with mem | mem
          · exact waits l mem
          · exact List.mem_singleton.mp mem
        | turn head due => exact absurd head.1 (by simp)
  refine called.resolve_right fun ⟨same, _⟩ => ?_
  rw [ended, due] at same
  exact absurd same (by simp)

/-- The move that cuts a session off gives the connection up, or meets a fault that finds the
handler for errors. -/
theorem cut_cases (orderly : Orderly labels s) (live : s.machine.endpoint.conn.isLive = true)
    (move : Move Operation.Ordinary s label t)
    (cut : t.machine.endpoint.conn.isLive = false) :
    (s.GivesUp ∧ UpgradeFailed labels ∧ t.machine.endpoint.deliveries = 0) ∨
    (¬ s.GivesUp ∧ ∃ err, s.Fails label err ∧ t.machine.endpoint.deliveries = 1 ∧
      ∃ frames, t.machine.frames =
        (Endpoint.errorCalls s.machine.endpoint.conn.errorHandler err).map .work ++ frames) := by
  have heard := orderly.unheard (Endpoint.not_terminal_of_live live)
  cases move.deed with
  | @work l w frames due kind =>
    cases ordinary : w.isOrdinary with
    | true =>
      obtain ⟨found, err, meets, inFlight, handler⟩ :=
        Endpoint.meets_of_cut orderly.steady ordinary live cut
      have delivers := meets.delivers orderly.sound inFlight
      refine .inr ⟨?_, err, ⟨l, w, frames, found, rfl, due, meets⟩, ?_, ?_⟩
      · rintro ⟨below, first⟩
        obtain rfl : w = .perform .setBroken := due.eq_of_first first
        exact absurd ordinary Bool.false_ne_true
      · show (s.machine.endpoint.resume w).1.deliveries = 1
        rw [delivers.deliveries_eq, meets.deliveries_found, heard]
      · obtain ⟨rest, -, calls⟩ := delivers.calls
        refine ⟨rest.map .work ++ frames, ?_⟩
        rw [Machine.frames_after, calls, handler, List.map_append, List.append_assoc]
    | false =>
      have first := kind.resolve_left (by simp [ordinary])
      obtain ⟨rfl, failed⟩ := (orderly.work w (first ▸ List.mem_cons_self)).resolve_left
        (by simp [ordinary])
      exact .inl ⟨⟨frames, first⟩, failed, (Endpoint.deliveries_setBroken _).trans heard⟩
  | pause aside | turn aside =>
    rw [aside.conn, live] at cut
    exact absurd cut (by simp)

/-- A session is cut off: a move takes the socket of a connection that is active. -/
structure CutOff (begin : SocketMachine H) (before : List (Label H ⊕ SocketReport))
    (s : SocketMachine H) (label : Label H ⊕ SocketReport) (t : SocketMachine H)
    (after : List (Label H ⊕ SocketReport)) (u : SocketMachine H) : Prop where
  /-- The session up to the cut. -/
  run : Run Operation.Ordinary begin before s
  /-- The connection is active. -/
  active : s.machine.endpoint.conn.state = .active
  /-- The cut. -/
  move : Move Operation.Ordinary s label t
  /-- The connection has lost its socket. -/
  gone : t.machine.endpoint.conn.isLive = false
  /-- What comes after. -/
  rest : Run Operation.Ordinary t after u

theorem CutOff.whole {begin : SocketMachine H} (cutOff : CutOff begin labels s label t labels' u) :
    Run Operation.Ordinary begin (labels ++ label :: labels') u := by
  rw [List.append_cons]
  exact Run.append (.snoc cutOff.run cutOff.move) cutOff.rest

/-- A session that has neither been cut off nor begun holds its socket. -/
theorem cutOff_of_run (orderly : Orderly labels s) (fresh : Fresh s)
    (run : Run Operation.Ordinary s labels' u) (handle : .inr .handlesDropped ∉ labels') :
    Fresh u ∨ u.machine.endpoint.conn.isLive = true ∨
      ∃ before k label t after, labels' = before ++ label :: after ∧
        CutOff s before k label t after u := by
  induction run with
  | nil => exact .inl fresh
  | @snoc k u before label run move ih =>
    rw [List.mem_append, not_or] at handle
    rcases ih handle.1 with fresh | live | ⟨before, k, first, t, after, rfl, cutOff⟩
    · exact (begun_of_fresh fresh move).imp_right fun begun => .inl begun.2
    · cases gone : u.machine.endpoint.conn.isLive with
      | true => exact .inr (.inl rfl)
      | false =>
        have active := (orderly_of_run orderly run handle.1).steady.active live
        exact .inr (.inr ⟨before, k, label, u, [], rfl, run, active, move, gone, .nil u⟩)
    · exact .inr (.inr ⟨before, k, first, t, after ++ [label], by simp, cutOff.run, cutOff.active,
        cutOff.move, cutOff.gone, .snoc cutOff.rest move⟩)

/-- What is told of the fault that a session is cut off by. -/
theorem CutOff.told {begin : SocketMachine H} (opens : Orderly [] begin) (fresh : Fresh begin)
    (cutOff : CutOff begin labels s label t labels' u)
    (handle : .inr .handlesDropped ∉ labels ++ label :: labels') (ended : u.Ended)
    (installed : s.machine.endpoint.conn.errorHandler = some (.app handler)) :
    ((∃ err, s.Fails label err ∧ Told handler (.error err) labels' ∧
        u.machine.endpoint.deliveries = 1) ↔ ¬ s.GivesUp) ∧
    (s.GivesUp → UpgradeFailed labels ∧ u.machine.endpoint.deliveries = 0) := by
  obtain ⟨run, active, move, gone, rest⟩ := cutOff
  rw [List.mem_append, List.mem_cons, not_or, not_or] at handle
  obtain ⟨held, heldNow, heldOn⟩ := handle
  have orderly : Orderly labels s := orderly_of_run opens run held
  have live : s.machine.endpoint.conn.isLive = true := by
    rw [Connection.isLive, active]
    rfl
  have begun : Begun s := by
    refine (begun_of_run opens fresh run held).resolve_left fun fresh => ?_
    obtain ⟨_, waits⟩ := fresh.waits
    rw [Connection.state, waits] at active
    exact absurd active (by simp [Phase.state])
  have terminal : t.machine.endpoint.conn.state.isTerminal = true :=
    (begun_move orderly begun move).socket.resolve_left (by simp [gone])
  have after := deliveries_of_terminal (orderly_move orderly (Ne.symm heldNow) move) terminal rest
    heldOn
  rcases cut_cases orderly live move gone with
    ⟨givesUp, failed, none⟩ | ⟨stays, err, fails, one, frames, due⟩
  · refine ⟨iff_of_false ?_ (not_not_intro givesUp), fun _ => ⟨failed, after.2.trans none⟩⟩
    rintro ⟨err, -, -, one⟩
    exact absurd (one.symm.trans (after.2.trans none)) (by simp)
  · rw [installed] at due
    exact ⟨iff_of_true ⟨err, fails, told_of_run due rest ended.1, after.2.trans one⟩ stays,
      fun givesUp => absurd givesUp stays⟩

/-- **Every session is cut off before it ends, and the fault that cuts it off is told once exactly
if it is not a failed upgrade.**  Then the handler for errors is called next, and no other fault is
delivered.  After a failed upgrade none is delivered at all. -/
theorem fault_told_once {config : Config} {greeting onError : H} {clock : Instant}
    {task : Option TaskId} {limit : UInt64} {secure : Bool}
    (run : Run Operation.Ordinary (opened config greeting onError clock task limit secure) labels u)
    (handle : .inr .handlesDropped ∉ labels) (ended : u.Ended) :
    (∃ before s label t after, labels = before ++ label :: after ∧
      CutOff (opened config greeting onError clock task limit secure) before s label t after u) ∧
    ∀ before s label t after, labels = before ++ label :: after →
      CutOff (opened config greeting onError clock task limit secure) before s label t after u →
      ∀ handler, s.machine.endpoint.conn.errorHandler = some (.app handler) →
        ((∃ err, s.Fails label err ∧ Told handler (.error err) after ∧
          u.machine.endpoint.deliveries = 1) ↔ ¬ s.GivesUp) ∧
        (s.GivesUp → UpgradeFailed before ∧ u.machine.endpoint.deliveries = 0) := by
  have orderly := orderly_opened config greeting onError clock task limit secure
  have fresh := fresh_opened config greeting onError clock task limit secure
  constructor
  · have terminal := gone_of_ended orderly fresh run handle ended
    rcases cutOff_of_run orderly fresh run handle with fresh | live | cutOff
    · exact absurd (fresh.goesOn.symm.trans ended.2) (by simp)
    · rw [Endpoint.not_live_of_terminal terminal] at live
      exact absurd live Bool.false_ne_true
    · exact cutOff
  · rintro before s label t after rfl cutOff handler installed
    exact cutOff.told orderly fresh handle ended installed

/-! ### Two sessions -/

instance (s : SocketMachine H) : Decidable s.GivesUp :=
  decidable_of_iff ((match s.machine.frames with
    | .work (.perform .setBroken) :: _ => true
    | _ => false) = true) <| by
    unfold GivesUp
    split <;> simp_all

/-- A session before its first turn. -/
def begun : SocketMachine Nat := opened (Config.build "mail" []) 0 1 ⟨0⟩ (some 0) 1000 false

/-- The greeting comes. -/
def greeted : SocketMachine Nat :=
  (begun.played [.proceed, .proceed, .proceed]).reported
    (.read [50, 50, 48, 32, 104, 105, 13, 10])

/-- Who is greeted asks for an operation. -/
def asks (operation : Operation Nat) : List (Choice Nat) :=
  [.proceed, .proceed, .proceed, .operate operation, .leave, .proceed, .proceed, .proceed]

theorem reaches_greeted : Reaches begun greeted := by
  have start : Reaches begun (begun.played [.proceed, .proceed, .proceed]) :=
    Reaches.played ⟨[], .nil _, by simp⟩ _ (by decide)
  exact start.reported _ (by simp) (by decide) (.read (by simp) rfl)

/-- A command is written and sent, and the peer ends its stream. -/
def hungUp : SocketMachine Nat :=
  (((greeted.played (asks (.write "NOOP" none 2))).reported
    (.wrote [78, 79, 79, 80, 13, 10] (.ok ()))).played [.proceed, .proceed]).reported .readEnd

theorem reaches_hungUp : Reaches begun hungUp := by
  have written := reaches_greeted.played (asks (.write "NOOP" none 2)) (by decide)
  have acknowledged := (written.reported _ (by simp) (by decide) (.wrote (.ok ()) rfl)).played
    [.proceed, .proceed] (by decide)
  exact acknowledged.reported _ (by simp) (by decide) (.readEnd rfl)

/-- Nobody will answer the command, and the handler for errors hears of it. -/
theorem hung_up_told : ∃ before label after u,
    Run Operation.Ordinary begun (before ++ label :: after) u ∧ u.Ended ∧
    ∃ err, hungUp.Fails label err ∧ Told 1 (.error err) after ∧
      u.machine.endpoint.deliveries = 1 := by
  obtain ⟨before, run, handle⟩ := reaches_hungUp
  have cutOff : CutOff begun before hungUp (.inl .work) (hungUp.played [.proceed]) _ _ :=
    ⟨run, by decide, move_played hungUp rfl rfl, by decide,
      run_played (hungUp.played [.proceed]) [.proceed, .leave, .proceed, .proceed] (by decide)⟩
  have kept : .inr .handlesDropped ∉ before ++ .inl .work ::
      (hungUp.played [.proceed]).shown [.proceed, .leave, .proceed, .proceed] := by
    simp [handle, inr_not_mem_shown]
  have told := (fault_told_once cutOff.whole kept (by decide)).2 _ _ _ _ _ rfl cutOff 1 rfl
  exact ⟨before, _, _, _, cutOff.whole, by decide, told.1.mpr (by decide)⟩

/-- The socket cannot be made secure; who waits for it is told, and writes a command. -/
def unsecured : SocketMachine Nat :=
  ((greeted.played (asks (.upgrade 2))).reported
    (.upgraded (.error (.io .resetByPeer)))).played
    [.proceed, .proceed, .operate (.write "NOOP" none 3), .leave]

theorem reaches_unsecured : Reaches begun unsecured := by
  have awaited := reaches_greeted.played (asks (.upgrade 2)) (by decide)
  exact (awaited.reported _ (by simp) (by decide) (.upgraded _ rfl)).played _ (by decide)

/-- Nobody hears that the command will not be answered. -/
theorem unsecured_untold : ∃ before label t after u,
    CutOff begun before unsecured label t after u ∧
    .inr .handlesDropped ∉ before ++ label :: after ∧ u.Ended ∧
    unsecured.machine.endpoint.conn.phase.slot?.isSome ∧
    unsecured.machine.endpoint.conn.errorHandler = some (.app 1) ∧
    u.machine.endpoint.deliveries = 0 ∧
    ∀ l, .inl l ∈ label :: after → l.isErrorCall = false := by
  obtain ⟨before, run, handle⟩ := reaches_unsecured
  have cutOff : CutOff begun before unsecured (.inl .work) (unsecured.played [.proceed]) _ _ :=
    ⟨run, by decide, move_played unsecured rfl rfl, by decide,
      run_played (unsecured.played [.proceed]) [.proceed, .proceed, .proceed] (by decide)⟩
  refine ⟨before, _, _, _, _, cutOff, ?_, by decide, by decide, rfl, by decide, ?_⟩
  · simp [handle, inr_not_mem_shown]
  · intro l mem
    rcases List.mem_cons.mp mem with first | mem
    · rw [Sum.inl.inj first]
      rfl
    · obtain ⟨l', mem, same⟩ := List.mem_map.mp mem
      have quiet : ∀ l ∈ ((unsecured.played [.proceed]).machine.play
        [.proceed, .proceed, .proceed]).1, l.isErrorCall = false := by decide
      exact Sum.inl.inj same ▸ quiet l' mem

end SocketMachine

end SmtpLink
