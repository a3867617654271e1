import SmtpLink.Proofs.Keep
import SmtpLink.Proofs.Play
import SmtpLink.Proofs.Poll

/-!
# Nothing that has come is left over

When input has come, batches are handed out until no batch is complete; batches that nobody
waits for are dropped.  So nothing is left that could answer a later command.

Malformed input ends the handing out.  That is as it should be while a command may be in flight,
because the connection is broken then.  While the connection is idle it goes on, and the lines
behind the malformed one stay where they are: the first command after that is answered by them.

## Main definitions

* `Endpoint.Drained` — no batch and no error is due, as long as the connection holds a socket.
* `Endpoint.Spoils` — a piece of work that leaves a batch or an error due, with nothing to hand
  it out.
* `Machine.Clear` — the connection is drained, or is being drained.

## Main results

* `Machine.clear_move_iff` — a move leaves the connection clear exactly if it does not spoil it.
* `Machine.drained_after_input` — **input leaves a connection drained**, unless the handing out
  was ended by malformed input while the connection was idle.
-/

namespace SmtpLink

variable {H : Type}

/-! ### What leaves something due -/

namespace Endpoint

variable {e e' : Endpoint H} {w : Work H}

/-- No batch and no error is due, as long as the connection holds a socket. -/
def Drained (e : Endpoint H) : Prop :=
  e.conn.isLive = true → e.conn.assembler.poll.2 = none

/-- A piece of work leaves a batch or an error due, with nothing to hand it out. -/
inductive Spoils (e : Endpoint H) : Work H → Prop
  /-- Malformed input ends the handing out while the connection is idle, and more than a part of
  a batch lies behind it. -/
  | dispatch {err : Error} (idle : e.conn.isIdle = true)
      (malformed : e.conn.assembler.poll.2 = some (.error err))
      (left : e.conn.assembler.poll.1.poll.2 ≠ none) : Spoils e .dispatch
  /-- A group is written, and as many replies as it asks for lie there already. -/
  | writeCommands {commands : List String} {handler : H} (ne : commands.isEmpty = false)
      (live : e.conn.isLive = true)
      (stays : e.conn.isIdle = true ∨ e.accepts ("\r\n".intercalate commands) = true)
      (enough : commands.length ≤ e.conn.assembler.poll.1.completed.length) :
      Spoils e (.perform (.writeCommands commands handler))
  /-- A group that was refused sets the size of a batch back, and a reply lies there. -/
  | expectOne (live : e.conn.isLive = true)
      (enough : 1 ≤ e.conn.assembler.poll.1.completed.length) : Spoils e .expectOne

theorem Spoils.live (h : e.Spoils w) : e.conn.isLive = true := by
  cases h with
  | dispatch idle malformed left =>
    rw [Connection.isIdle, beq_iff_eq] at idle
    rw [Connection.isLive, idle]
    rfl
  | writeCommands ne live stays enough => exact live
  | expectOne live enough => exact live

theorem drained_of_gone (gone : e.conn.isLive = false) : e.Drained := by
  intro live
  rw [gone] at live
  exact absurd live (by simp)

theorem Keeps.drained (keeps : Keeps e e') (drained : e.Drained) : e'.Drained := by
  intro live
  obtain ⟨live, assembler, -⟩ := keeps live
  rw [assembler]
  exact drained live

theorem poll_of_isEmpty {a : Assembler} (h : a.isEmpty = true) : a.poll.2 = none := by
  simp only [Assembler.isEmpty, Bool.and_eq_true, List.isEmpty_iff] at h
  obtain ⟨⟨⟨ready, unended⟩, block⟩, completed⟩ := h
  rw [Assembler.poll_of_drained ready]
  · rw [completed]
    exact a.one_le_expected
  · rw [unended]
    exact Nat.zero_le _

theorem drained_connected (drained : e.Drained) (t : Transport) : (e.connected t).Drained := by
  cases hp : e.conn.phase with
  | connecting greeting =>
    intro _
    rw [connected_of_connecting t hp]
    exact poll_of_isEmpty rfl
  | _ =>
    have conn := conn_connected_of_not_connecting (e := e) t
      (by simp [Connection.state, hp, Phase.state])
    exact (Keeps.of_conn conn).drained drained

theorem drained_upgraded (drained : e.Drained) (result : Outcome) :
    (e.upgraded result).1.Drained := by
  have dropped : (if result.isOk then e.dropInput else e).Drained := by
    split
    · exact fun _ => poll_of_isEmpty rfl
    · exact drained
  unfold upgraded
  dsimp only
  split
  · exact fun live => dropped live
  · exact fun live => dropped live

/-- A command leaves the input alone. -/
theorem drained_writeWith (sound : e.Sound) (drained : e.Drained) (text : String)
    (mask : Option Nat) (handler : ReplyHandler H) :
    (e.writeWith text mask handler).1.1.Drained := by
  by_cases stays : e.conn.isLive = true ∧ (e.conn.isIdle = true ∨ e.accepts text = true)
  · intro _
    rw [conn_writeWith sound stays.1 stays.2]
    exact drained stays.1
  · rw [not_and] at stays
    refine drained_of_gone (isLive_writeWith sound (fun live => ?_) mask handler)
    simpa using stays live

theorem drained_returnToPool (drained : e.Drained) : e.returnToPool.1.Drained := by
  unfold returnToPool
  split
  · have quiet (err : Error) : Effects false e ((e.remark .idleReturned).deliverError err).1 :=
      (effects_remark rfl).append (effects_deliverError _ _)
    exact (quiet _).keeps_of_quiet.drained drained
  · split
    · have quiet : Effects false e (e.remark .shutdownOnReturn).close :=
        (effects_remark rfl).append (effects_close _)
      exact quiet.keeps_of_quiet.drained drained
    · intro live
      have same : (e.setSlot none).conn.isLive = true := live
      rw [isLive_setSlot] at same
      exact drained same

theorem drained_runClose (sound : e.Sound) (drained : e.Drained) : e.runClose.1.Drained := by
  unfold runClose
  split
  · exact (effects_remark (e := e) rfl).keeps_of_quiet.drained drained
  · dsimp only
    split
    · exact drained_of_gone (isLive_shutdown _)
    · next h =>
      simp only [Bool.or_eq_true, Bool.not_eq_true', not_or, Bool.not_eq_true,
        Bool.not_eq_false] at h
      have began : Effect false (e.remark .shuttingDown) (e.remark .shuttingDown).beginQuit :=
        .beginQuit h.1 h.2
      have drained' : (e.remark .shuttingDown).Drained := fun live => drained live
      exact drained_writeWith
        (began.sound (e := e.remark .shuttingDown) (sound.of_same rfl rfl rfl))
        (began.keeps_of_quiet.drained drained') "QUIT" none .quit

theorem drained_runTasks (sound : e.Sound) (drained : e.Drained) : e.runTasks.1.Drained := by
  unfold runTasks
  split
  · exact drained
  · next task rest oldest =>
    have taken : Effect false e { e with conn := { e.conn with scheduled := rest } } :=
      .unschedule oldest
    have drained' := taken.keeps_of_quiet.drained drained
    dsimp only
    split
    · exact drained'
    · exact drained_runClose (taken.sound sound) drained'

theorem drained_expect_iff (drained : e.Drained) (n : Nat) : (e.expect n).Drained ↔
    (e.conn.isLive = true → e.conn.assembler.poll.1.completed.length < max n 1) :=
  forall_congr' fun live => Assembler.poll_expect_iff (drained live) n

/-- A group that is written, or that an idle connection could not write, leaves nothing that hands
out replies. -/
theorem not_dispatch_of_writeCommands (sound : e.Sound) (live : e.conn.isLive = true)
    {commands : List String} (ne : commands.isEmpty = false)
    (stays : e.conn.isIdle = true ∨ e.accepts ("\r\n".intercalate commands) = true) (handler : H) :
    .dispatch ∉ (e.writeCommands commands handler).2 := by
  have peer : (e.expect commands.length).conn.peerClosed = false := sound.peer live
  have same : (e.expect commands.length).accepts ("\r\n".intercalate commands) =
      e.accepts ("\r\n".intercalate commands) := accepts_of_same rfl rfl _
  unfold writeCommands
  rw [if_neg (by simp [ne])]
  dsimp only
  cases taken : e.accepts ("\r\n".intercalate commands) with
  | true =>
    obtain ⟨e', written, -⟩ := writeWith_of_accepts peer (same.trans taken) none
      (.replies handler commands.length)
    rw [written]
    simp
  | false =>
    obtain ⟨found, err, written, conn⟩ := writeWith_of_not_accepts peer live (same.trans taken) none
      (.replies handler commands.length)
    have idle : e.conn.isIdle = true := stays.resolve_right (by simp [taken])
    have notInFlight : found.conn.state.isInFlight = false := by
      rw [conn, Connection.state, phase_setSlot, Phase.state_setSlot]
      exact not_inFlight_of_idle idle
    rw [written, fault_of_not_inFlight notInFlight]
    simp

/-- A group of commands leaves a batch due exactly if it asks for no more replies than lie there,
and it leaves nothing that would hand it out. -/
theorem drained_writeCommands_iff (sound : e.Sound) (drained : e.Drained) (commands : List String)
    (handler : H) :
    (.dispatch ∈ (e.writeCommands commands handler).2 ∨
      (e.writeCommands commands handler).1.Drained) ↔
      ¬ e.Spoils (.perform (.writeCommands commands handler)) := by
  cases ne : commands.isEmpty with
  | true =>
    have same : e.writeCommands commands handler = e.deliverError (.invalidState .noCommands) := by
      unfold writeCommands
      rw [if_pos ne]
    rw [same]
    refine iff_of_true (.inr ((effects_deliverError e _).keeps_of_quiet.drained drained)) ?_
    intro h
    cases h with
    | writeCommands ne' => exact absurd (ne.symm.trans ne') (by simp)
  | false =>
    have positive : 1 ≤ commands.length := by
      rw [← Bool.not_eq_true, List.isEmpty_iff, ← List.length_eq_zero_iff] at ne
      omega
    have sound' : (e.expect commands.length).Sound := sound.of_same rfl rfl rfl
    have accepts : (e.expect commands.length).accepts ("\r\n".intercalate commands) =
        e.accepts ("\r\n".intercalate commands) := accepts_of_same rfl rfl _
    by_cases stays : e.conn.isLive = true ∧
        (e.conn.isIdle = true ∨ e.accepts ("\r\n".intercalate commands) = true)
    · obtain ⟨live, stays⟩ := stays
      have conn := conn_writeWith sound' live (accepts ▸ stays) none
        (.replies handler commands.length)
      have few : (e.writeCommands commands handler).1.Drained ↔
          e.conn.assembler.poll.1.completed.length < commands.length := by
        have written : (e.writeCommands commands handler).1.Drained ↔
            (e.expect commands.length).Drained := by
          rw [Drained, fst_writeCommands ne, conn, isLive_setSlot]
          rfl
        rw [written, drained_expect_iff drained, Nat.max_eq_left positive]
        exact ⟨fun h => h live, fun h _ => h⟩
      have noLoop := not_dispatch_of_writeCommands sound live ne stays handler
      rw [few]
      constructor
      · rintro (loop | few) h
        · exact noLoop loop
        · cases h with
          | writeCommands _ _ _ enough => exact absurd few (Nat.not_lt.mpr enough)
      · intro fits
        refine .inr (Nat.lt_of_not_le fun enough => fits ?_)
        exact .writeCommands ne live stays enough
    · have gone : (e.writeCommands commands handler).1.conn.isLive = false := by
        rw [fst_writeCommands ne]
        refine isLive_writeWith sound' (fun live => ?_) none _
        rw [accepts]
        have refused := not_and.mp stays live
        rw [not_or, Bool.not_eq_true, Bool.not_eq_true] at refused
        exact refused
      refine iff_of_true (.inr (drained_of_gone gone)) ?_
      intro h
      cases h with
      | writeCommands _ live stays' => exact stays ⟨live, stays'⟩

theorem clear_perform_iff (sound : e.Sound) (drained : e.Drained) (operation : Operation H) :
    (.dispatch ∈ (e.perform operation).2 ∨ (e.perform operation).1.Drained) ↔
      ¬ e.Spoils (.perform operation) := by
  cases operation with
  | dial config greeting onError =>
    exact iff_of_true (.inr (drained_of_gone rfl)) fun h => by cases h
  | connected t => exact iff_of_true (.inr (drained_connected drained t)) fun h => by cases h
  | input data =>
    refine iff_of_true ?_ fun h => by cases h
    show .dispatch ∈ (e.input data).2 ∨ (e.input data).1.Drained
    unfold input
    split
    · exact .inl List.mem_cons_self
    · exact .inr ((Keeps.of_conn (e := e) rfl).drained drained)
  | upgraded result =>
    exact iff_of_true (.inr (drained_upgraded drained result)) fun h => by cases h
  | fault err => exact iff_of_true (.inr ((keeps_fault e err).drained drained)) fun h => by cases h
  | closed => exact iff_of_true (.inr ((keeps_closed e).drained drained)) fun h => by cases h
  | write text mask handler =>
    exact iff_of_true (.inr (drained_writeWith sound drained text mask (.reply handler)))
      fun h => by cases h
  | writeCommands commands handler =>
    exact drained_writeCommands_iff sound drained commands handler
  | returnToPool => exact iff_of_true (.inr (drained_returnToPool drained)) fun h => by cases h
  | _ =>
    exact iff_of_true (.inr ((effects_perform_of_quiet e rfl).keeps_of_quiet.drained drained))
      fun h => by cases h

/-- Handing out the next batch leaves more to hand out, or nothing that is due, unless it spoils
the connection. -/
theorem clear_dispatch_iff (sound : e.Sound) :
    (.dispatch ∈ e.dispatch.2 ∨ e.dispatch.1.Drained) ↔ ¬ e.Spoils .dispatch := by
  unfold dispatch
  dsimp only
  split
  · next polled =>
    refine iff_of_true (.inr fun _ => ?_) ?_
    · show e.conn.assembler.poll.1.poll.2 = none
      rw [Assembler.poll_poll_of_none polled]
    · intro h
      cases h with
      | dispatch _ malformed => exact absurd (polled.symm.trans malformed) (by simp)
  · next err malformed =>
    cases inFlight : e.conn.state.isInFlight with
    | true =>
      -- the connection is broken, so nothing is due
      have peer : e.conn.peerClosed = false := sound.peer (isLive_of_inFlight inFlight)
      refine iff_of_true (.inr ?_) ?_
      · rw [fault_of_inFlight (by exact peer) (by exact inFlight)]
        refine Keeps.drained (effects_deliverError _ err).keeps_of_quiet ?_
        exact drained_of_gone (isLive_setBroken _)
      · intro h
        cases h with
        | dispatch idle => exact absurd inFlight (by simp [not_inFlight_of_idle idle])
    | false =>
      rw [fault_of_not_inFlight (by exact inFlight)]
      constructor
      · rintro (loop | drained) h
        · exact absurd loop (by simp)
        · cases h with
          | dispatch idle _ left => exact left (drained (Spoils.dispatch idle malformed left).live)
      · intro fits
        refine .inr fun live => ?_
        have live : e.conn.isLive = true := live
        have idle : e.conn.isIdle = true := by
          cases idle : e.conn.isIdle with
          | true => rfl
          | false => exact absurd (isInFlight_of_live live idle) (by simp [inFlight])
        by_cases left : e.conn.assembler.poll.1.poll.2 = none
        · exact left
        · exact absurd (.dispatch idle malformed left) fits
  · refine iff_of_true (.inl (List.mem_append_right _ List.mem_cons_self)) ?_
    next polled =>
    intro h
    cases h with
    | dispatch _ malformed => exact absurd (polled.symm.trans malformed) (by simp)

/-- **Work leaves a connection drained, or leaves to hand out what is due, exactly if it does not
spoil it.** -/
theorem clear_resume_iff (sound : e.Sound) (drained : w = .dispatch ∨ e.Drained) :
    (.dispatch ∈ (e.resume w).2 ∨ (e.resume w).1.Drained) ↔ ¬ e.Spoils w := by
  cases w with
  | dispatch => exact clear_dispatch_iff sound
  | call handler notice =>
    exact iff_of_true (.inr (drained.resolve_left (by simp))) fun h => by cases h
  | perform operation => exact clear_perform_iff sound (drained.resolve_left (by simp)) operation
  | sendDeferred deferred =>
    have keeps := (effects_writeLine e deferred.line).keeps_of_quiet
    exact iff_of_true (.inr (keeps.drained (drained.resolve_left (by simp)))) fun h => by cases h
  | expectOne =>
    have few := drained_expect_iff (drained.resolve_left (by simp)) 1
    constructor
    · rintro (loop | drained') h
      · exact absurd loop (by simp [resume, done])
      · cases h with
        | expectOne live enough => exact absurd (few.mp drained' live) (by omega)
    · intro fits
      refine .inr (few.mpr fun live => ?_)
      by_cases enough : 1 ≤ e.conn.assembler.poll.1.completed.length
      · exact absurd (.expectOne live enough) fits
      · omega
  | runTasks =>
    exact iff_of_true (.inr (drained_runTasks sound (drained.resolve_left (by simp))))
      fun h => by cases h

end Endpoint

/-! ### Runs -/

namespace Machine

variable {admitted : Operation H → Prop} {m n k : Machine H} {label : Label H}
  {labels before : List (Label H)} {data : Bytes}

/-- The connection is drained, or is being drained. -/
def Clear (m : Machine H) : Prop := .work .dispatch ∈ m.frames ∨ m.endpoint.Drained

/-- The work of the move with this label spoils the connection, and nothing is handing out. -/
def Spoils (m : Machine H) (label : Label H) : Prop :=
  ∃ w frames, Due m label w frames ∧ .work .dispatch ∉ frames ∧ m.endpoint.Spoils w

/-- **A move leaves a connection clear exactly if it does not spoil it.** -/
theorem clear_move_iff (sound : m.endpoint.Sound) (clear : m.Clear)
    (move : Move admitted m label n) : n.Clear ↔ ¬ m.Spoils label := by
  cases move.turn with
  | @work _ _ w frames due =>
    by_cases waits : .work .dispatch ∈ frames
    · refine iff_of_true (.inl (List.mem_append_right _ waits)) ?_
      rintro ⟨w', frames', due', none, -⟩
      rw [(due.unique due').2] at waits
      exact none waits
    · have drained : w = .dispatch ∨ m.endpoint.Drained := by
        refine clear.imp_left fun loop => ?_
        cases due with
        | work noCall =>
          rcases List.mem_cons.mp loop with head | loop
          · exact (Frame.work.inj head).symm
          · exact absurd loop waits
        | operate => exact absurd loop waits
      have left : .work .dispatch ∈ (after m.endpoint w frames).frames ↔
          .dispatch ∈ (m.endpoint.resume w).2 := by
        simp [after, waits]
      rw [Clear, left]
      refine (Endpoint.clear_resume_iff sound drained).trans (not_congr ?_)
      constructor
      · intro h
        exact ⟨w, frames, due, waits, h⟩
      · rintro ⟨w', frames', due', -, h⟩
        rwa [(due.unique due').1]
  | call =>
    refine iff_of_true (clear.imp_left fun loop => ?_) ?_
    · exact List.mem_cons_of_mem _ (by simpa using loop)
    · rintro ⟨w, frames, due, -⟩
      cases due
  | leave =>
    refine iff_of_true (clear.imp_left fun loop => by simpa using loop) ?_
    rintro ⟨w, frames, due, -⟩
    cases due
  | outside outside =>
    refine iff_of_true (clear.imp_right fun drained => ?_) ?_
    · exact (Endpoint.Keeps.of_conn outside.conn_eq).drained drained
    · rintro ⟨w, frames, due, -⟩
      cases due

/-- Once a call has returned nobody is handing out. -/
theorem clear_iff_drained (settled : m.Settled) : m.Clear ↔ m.endpoint.Drained := by
  rw [Clear, settled]
  simp

theorem clear_performed (m : Machine H) (data : Bytes) : (m.performed (.input data)).Clear := by
  rw [performed, Clear, frames_after, endpoint_after, Endpoint.resume, Endpoint.perform,
    Endpoint.input]
  split
  · exact .inl List.mem_cons_self
  · next gone => exact .inr (Endpoint.drained_of_gone (Bool.eq_false_iff.mpr gone))

/-- How the call of an operation with input stands. -/
inductive Handing (m : Machine H) : Prop
  /-- The handing out goes on when what is running has returned. -/
  | loop (inner : List (Frame H)) (frames : m.frames = inner ++ [.work .dispatch, .code]) :
      Handing m
  /-- The handing out is over, and the connection can no longer be used. -/
  | ceased (inner : List (Frame H)) (frames : m.frames = inner ++ [.code])
      (terminal : m.endpoint.conn.state.isTerminal = true) : Handing m
  /-- The call has returned. -/
  | returned (settled : m.Settled) : Handing m

theorem frames_performed (settled : m.Settled) (operation : Operation H) :
    (m.performed operation).frames =
      (m.endpoint.perform operation).2.map .work ++ [.code] := by
  rw [performed, after, settled]
  rfl

theorem handing_performed (settled : m.Settled) (data : Bytes) :
    (m.performed (.input data)).Handing := by
  have frames := frames_performed settled (.input data)
  rw [Endpoint.perform, Endpoint.input] at frames
  split at frames
  · exact .loop [] frames
  · exact .returned frames

/-- Handing out the next batch ends the handing out, or leaves more to hand out, or breaks the
connection. -/
theorem dispatch_cases (e : Endpoint H) : e.dispatch.2 = [] ∨
    (∃ work, e.dispatch.2 = work ++ [.dispatch]) ∨
    e.dispatch.1.conn.state.isTerminal = true := by
  unfold Endpoint.dispatch
  dsimp only
  split
  · exact .inl rfl
  · next err _ =>
    rcases Endpoint.fault_cases
      { e with conn := { e.conn with assembler := e.conn.assembler.poll.1 } } err with
      passed | terminal
    · exact .inl (by rw [passed])
    · exact .inr (.inr terminal)
  · exact .inr (.inl ⟨_, rfl⟩)

theorem handing_move (handing : m.Handing) (unsettled : ¬ m.Settled) (tidy : m.Tidy)
    (move : Move admitted m label n) (notDial : label.isDial = false) : n.Handing := by
  cases handing with
  | loop inner frames =>
    by_cases top : inner = []
    · subst top
      rw [List.nil_append] at frames
      cases move.turn with
      | @work _ _ w rest due =>
        cases due with
        | @work e _ _ noCall =>
          obtain ⟨head, rfl⟩ := List.cons.inj frames
          obtain rfl := Frame.work.inj head
          rcases dispatch_cases e with ended | ⟨work, more⟩ | terminal
          · refine .returned ?_
            rw [Settled, frames_after, Endpoint.resume, ended]
            rfl
          · have frames' : (after e .dispatch [.code]).frames =
                work.map .work ++ [.work .dispatch, .code] := by
              rw [frames_after, Endpoint.resume, more, List.map_append, List.append_assoc]
              rfl
            exact .loop _ frames'
          · exact .ceased _ rfl terminal
        | operate => exact absurd (List.cons.inj frames).1 (by simp)
      | call => exact absurd (List.cons.inj frames).1 (by simp)
      | leave => exact absurd (List.cons.inj frames).1 (by simp)
      | outside outside => exact .loop [] frames
    · obtain ⟨inner', frames'⟩ := move.frames_of_inner frames top
      exact .loop _ frames'
  | ceased inner frames terminal =>
    have deeper : inner ≠ [] := by
      rintro rfl
      exact unsettled frames
    obtain ⟨inner', frames'⟩ := move.frames_of_inner frames deeper
    refine .ceased _ frames' ?_
    rw [(effects_move tidy move notDial).state_of_terminal terminal]
    exact terminal
  | returned settled => exact absurd settled unsettled

/-- As long as nobody has opened the connection anew, only the end of the handing out spoils it. -/
theorem returns_of_spoils (handing : m.Handing) (unsettled : ¬ m.Settled)
    (move : Move admitted m label n) (spoils : m.Spoils label) :
    n.Settled ∧ m.endpoint.Spoils .dispatch := by
  obtain ⟨w, frames, due, none, spoils⟩ := spoils
  cases handing with
  | loop inner frames' =>
    cases inner with
    | nil =>
      cases due with
      | @work e _ _ noCall =>
        obtain ⟨head, rfl⟩ := List.cons.inj frames'
        obtain rfl := Frame.work.inj head
        refine ⟨?_, spoils⟩
        rw [(Due.work noCall).eq_after move, Settled, frames_after, Endpoint.resume]
        cases spoils with
        | dispatch idle malformed left =>
          have passed := Endpoint.fault_of_not_inFlight
            (e := { e with conn := { e.conn with assembler := e.conn.assembler.poll.1 } })
            (Endpoint.not_inFlight_of_idle idle)
          unfold Endpoint.dispatch
          dsimp only
          rw [malformed]
          dsimp only
          rw [passed]
          rfl
      | operate => exact absurd (List.cons.inj frames').1 (by simp)
    | cons first inner =>
      -- the handing out waits below
      refine absurd ?_ none
      cases due with
      | work noCall => simp [(List.cons.inj frames').2]
      | operate =>
        have waits : Frame.work .dispatch ∈ first :: inner ++ [.work .dispatch, .code] := by simp
        rwa [← frames'] at waits
  | ceased inner frames' terminal =>
    have live := spoils.live
    rw [Endpoint.not_live_of_terminal terminal] at live
    exact absurd live (by simp)
  | returned settled => exact absurd settled unsettled

/-- **Input leaves a connection drained.**  When a call with input has returned, after moves that
did not spoil the connection, no batch and no error is due; and the move that returns leaves one
due exactly if it spoils the connection.  As long as nobody has opened the connection anew
meanwhile, no other move can spoil it, and the one that returns can only by meeting malformed
input while the connection is idle. -/
theorem drained_after_input (history : Run Operation.Any initial before m) (settled : m.Settled)
    (run : RunBy (fun _ a l => ¬ a.Settled ∧ ¬ a.Spoils l) (m.performed (.input data)) labels k) :
    (k.Settled → k.endpoint.Drained) ∧
    (¬ k.Settled → ∀ label n, Move Operation.Any k label n →
      (n.Settled → (n.endpoint.Drained ↔ ¬ k.Spoils label)) ∧
      ((∀ l ∈ labels, l.isDial = false) → k.Spoils label →
        n.Settled ∧ k.endpoint.Spoils .dispatch)) := by
  have begin : Move Operation.Any m (.operate (.input data)) (m.performed (.input data)) := by
    obtain ⟨e, frames⟩ := m
    obtain rfl : frames = [.code] := settled
    exact .operate trivial
  -- the moves of the call, after those of its history
  have whole : ∀ {ls : List (Label H)} {a : Machine H},
      RunBy (fun _ a l => ¬ a.Settled ∧ ¬ a.Spoils l) (m.performed (.input data)) ls a →
      Run Operation.Any initial (before ++ [.operate (.input data)] ++ ls) a :=
    fun moves => (Run.snoc history begin).append moves.run
  have sound := sound_of_run (whole run)
  have clear : k.Clear := by
    induction run with
    | nil => exact clear_performed m data
    | snoc run move keeps ih =>
      have sound' := sound_of_run (whole run)
      exact (clear_move_iff sound' (ih sound') move).mpr keeps.2
  have handing (unopened : ∀ l ∈ labels, l.isDial = false) : k.Handing := by
    clear sound clear
    induction run with
    | nil => exact handing_performed settled data
    | snoc run move keeps ih =>
      refine handing_move (ih fun l hl => unopened l (List.mem_append_left _ hl)) keeps.1
        (tidy_of_run (whole run)) move (unopened _ (by simp))
  refine ⟨fun returned => (clear_iff_drained returned).mp clear,
    fun unsettled label n move => ⟨?_, ?_⟩⟩
  · intro returned
    rw [← clear_iff_drained returned]
    exact clear_move_iff sound clear move
  · intro unopened spoils
    exact returns_of_spoils (handing unopened) unsettled move spoils

theorem Spoils.isIdle {rest : List (Frame H)} (h : m.Spoils label)
    (top : m.frames = .work .dispatch :: rest) : m.endpoint.conn.isIdle = true := by
  obtain ⟨w, frames, due, -, spoils⟩ := h
  cases due with
  | work noCall =>
    obtain rfl := Frame.work.inj (List.cons.inj top).1
    cases spoils with
    | dispatch idle => exact idle
  | operate => exact absurd (List.cons.inj top).1 (by simp)

/-- A socket is connected, and the connection is given back at once, so that nobody waits for a
reply. -/
def givenBack : List (Choice Nat) :=
  [.operate (.dial (Config.build "mail" []) 0 1), .operate (.connected (.manual {})),
    .operate .returnToPool]

/-- A reply that nobody waits for is dropped. -/
theorem late_reply_dropped :
    ((((initial.play givenBack).2.performed (.input [50, 53, 48, 13, 10])).play
      [.proceed, .proceed]).2).endpoint.conn.isLive = true ∧
    ((((initial.play givenBack).2.performed (.input [50, 53, 48, 13, 10])).play
      [.proceed, .proceed]).2).endpoint.Drained := by
  have settled : (initial.play givenBack).2.Settled := by decide +kernel
  have keeps : PlaysBy (fun _ a l => ¬ a.Settled ∧ ¬ a.Spoils l) []
      ((initial.play givenBack).2.performed (.input [50, 53, 48, 13, 10])) [.proceed, .proceed] :=
    ⟨⟨by decide +kernel, fun h => absurd (h.isIdle rfl) (by decide +kernel)⟩,
      ⟨by decide +kernel, fun h => absurd (h.isIdle rfl) (by decide +kernel)⟩, trivial⟩
  have drained := (drained_after_input (run_play initial givenBack) settled
    (runBy_play [.proceed, .proceed] .nil keeps)).1
  exact ⟨by decide +kernel, drained (by decide +kernel)⟩

/-- **Input does not leave every connection drained**: while the connection is idle, a whole reply
may stay behind malformed input. -/
theorem reply_left_behind : ¬ ∀ (before : List (Label Nat)) (m : Machine Nat) (data : Bytes)
    (labels : List (Label Nat)) (n : Machine Nat), Run Operation.Any initial before m →
    Call m (.input data) labels n → n.endpoint.Drained := by
  intro h
  have history := run_play initial (givenBack ++ [.operate .setIdle])
  have unsettled : PlaysBy (fun _ a _ => ¬ a.Settled) []
      ((initial.play (givenBack ++ [.operate .setIdle])).2.performed
        (.input [63, 10, 50, 53, 48, 13, 10])) [.proceed] := ⟨by decide +kernel, trivial⟩
  have call := h _ _ [63, 10, 50, 53, 48, 13, 10] _ _ history
    ⟨by decide +kernel, runBy_play [.proceed] .nil unsettled, by decide +kernel⟩
  exact absurd (call (by decide +kernel)) (by decide +kernel)

end Machine

end SmtpLink
