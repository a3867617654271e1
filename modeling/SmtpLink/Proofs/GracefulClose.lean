import SmtpLink.Proofs.Hearing
import SmtpLink.Proofs.Ownership
import SmtpLink.Proofs.Poll

/-!
# A graceful close ends with the socket released

A graceful close sends QUIT and waits for the reply with a deadline.  The deadline is set
exactly as long as the connection waits, whatever the application does meanwhile to the slot and
to the handler for errors; so a connection that waits can always be ended by time alone.  The
reply, a fault, the peer's closing and the deadline all end the wait in the same way.

## Main definitions

* `View.Timed`, `Endpoint.Timed` — a deadline is set exactly while QUIT is in progress, now and
  whenever the listener was called.
* `Endpoint.Ends` — the work that ends a graceful close.
* `Endpoint.Released` — the close has ended, and the socket was let go of.
* `Machine.Step.Steers` — code put a handler for errors in charge while QUIT was in progress.

## Main results

* `Endpoint.Effect.timed` — **effects keep the deadline in step with QUIT.**
* `Machine.steered_of_run` — errors of a graceful close reach the application only if it asked
  for them.
* `Machine.quit_ends_with_release` — **whatever ends a graceful close releases the socket**, and
  no handler is called.
-/

namespace SmtpLink

variable {H : Type}

/-- What the listener saw of the connection when it was called. -/
def Event.view? : Event → Option View
  | .connectionClosed view | .operationEnded view => some view
  | _ => none

/-- A deadline is set exactly while QUIT is in progress. -/
def View.Timed (view : View) : Prop := view.timer.isSome = true ↔ view.state = .shuttingDown

/-- The running code puts a handler of its choice in charge of errors. -/
def Label.setsErrorHandler : Label H → Bool
  | .operate (.setErrorHandler _) | .operate .resetErrorHandler => true
  | _ => false

namespace Endpoint

variable {loud : Bool} {e e' : Endpoint H} {w : Work H} {id : TransportId}

/-- What the listener saw, in order. -/
def views (e : Endpoint H) : List View := e.trace.filterMap Event.view?

/-- A deadline is set exactly while QUIT is in progress, now and whenever the listener was
called. -/
structure Timed (e : Endpoint H) : Prop where
  /-- It is so now. -/
  now : e.conn.view.Timed
  /-- It was so whenever the listener was called. -/
  heard : ∀ view ∈ e.views, view.Timed

/-- The work ends a graceful close that waits for the reply to QUIT. -/
inductive Ends (e : Endpoint H) : Work H → Prop
  /-- The reply has come, whatever it says. -/
  | reply {batch : List Reply} (waits : e.conn.phase.slot? = some .quit)
      (come : e.conn.assembler.poll.2 = some (.ok batch)) : Ends e .dispatch
  /-- The input makes no sense. -/
  | malformed {err : Error} (come : e.conn.assembler.poll.2 = some (.error err)) : Ends e .dispatch
  /-- The socket fails. -/
  | fault (err : Error) : Ends e (.perform (.fault err))
  /-- The peer closes the socket. -/
  | closed : Ends e (.perform .closed)
  /-- The deadline is reached. -/
  | timeout {deadline now : Instant} (due : e.conn.timer = some deadline)
      (late : deadline ≤ now) : Ends e (.perform (.timeout now))

/-- The close has ended, nothing is waited for, and the transport was let go of. -/
structure Released (id : TransportId) (e : Endpoint H) : Prop where
  /-- The connection can no longer be used. -/
  terminal : e.conn.state.isTerminal = true
  /-- No deadline is set. -/
  timer : e.conn.timer = none
  /-- The transport was closed exactly once, and then last. -/
  letGo : e.HasLetGo id

/-! ### What the listener saw -/

theorem views_emit (e : Endpoint H) (event : Event) :
    (e.emit event).views = e.views ++ event.view?.toList := by
  rw [views, trace_emit, List.filterMap_append]
  cases h : event.view? <;> simp [views, h]

theorem views_closeTransport (e : Endpoint H) (id : TransportId) :
    (e.closeTransport id).views = e.views := by
  unfold closeTransport
  split
  · rfl
  · rw [views_emit]
    exact List.append_nil _

theorem views_release (e : Endpoint H) (phase : Phase H) : (e.release phase).views = e.views := by
  have freed (d : Endpoint H) : d.releaseTransport.views = d.views := by
    unfold releaseTransport
    split <;> rfl
  have remarked : (e.remark .closingSocket).views = e.views := by
    rw [remark, views_emit]
    exact List.append_nil _
  unfold release
  dsimp only
  split
  · next id held =>
    exact (freed _).trans ((views_closeTransport _ id).trans remarked)
  · rfl

namespace Timed

theorem of_same (timed : e.Timed) (timer : e'.conn.timer = e.conn.timer)
    (state : e'.conn.state = e.conn.state) (views : e'.views = e.views) : e'.Timed := by
  refine ⟨?_, by rw [views]; exact timed.heard⟩
  show e'.conn.timer.isSome = true ↔ e'.conn.state = .shuttingDown
  rw [timer, state]
  exact timed.now

theorem emit_of_none (timed : e.Timed) {event : Event} (h : event.view? = none) :
    (e.emit event).Timed := by
  refine timed.of_same rfl rfl ?_
  rw [views_emit, h]
  exact List.append_nil _

theorem remark (timed : e.Timed) (r : Remark) : (e.remark r).Timed := timed.emit_of_none rfl

/-- What the listener sees now is as it should be. -/
theorem emit_of_view (timed : e.Timed) {event : Event} (h : event.view? = some e.conn.view) :
    (e.emit event).Timed := by
  refine ⟨timed.now, fun view hv => ?_⟩
  rw [views_emit, h, List.mem_append] at hv
  rcases hv with hv | hv
  · exact timed.heard view hv
  · rw [List.mem_singleton.mp hv]
    exact timed.now

theorem operationEnded (timed : e.Timed) : e.operationEnded.Timed := timed.emit_of_view rfl

/-- Where no QUIT is in progress, no deadline is set. -/
theorem timer_eq_none (timed : e.Timed) (h : e.conn.state ≠ .shuttingDown) :
    e.conn.timer = none := by
  rw [← Option.not_isSome_iff_eq_none]
  intro set
  exact h (timed.now.mp set)

/-- Where no deadline is set and no QUIT is in progress, all is as it should be. -/
theorem of_unset (heard : ∀ view ∈ e.views, view.Timed) (timer : e.conn.timer = none)
    (state : e.conn.state ≠ .shuttingDown) : e.Timed := by
  refine ⟨iff_of_false ?_ state, heard⟩
  show ¬ e.conn.timer.isSome = true
  rw [timer]
  simp

/-- A connection that lets go of its socket waits for nothing. -/
theorem release (timed : e.Timed) {phase : Phase H} (h : phase.state ≠ .shuttingDown) :
    (e.release phase).Timed := by
  refine of_unset ?_ (timer_release e phase) h
  rw [views_release]
  exact timed.heard

theorem shutdown (timed : e.Timed) : e.shutdown.Timed := by
  refine timed.release ?_
  split <;> simp [Phase.state]

theorem finishQuit (timed : e.Timed) : e.finishQuit.Timed := by
  have same : e.finishQuit.views = e.views :=
    views_release { e with conn := { e.conn with timer := none } } _
  refine of_unset (by rw [same]; exact timed.heard) (timer_release _ _) ?_
  rw [state_finishQuit]
  split <;> simp

theorem setBroken (timed : e.Timed) : e.setBroken.Timed := by
  cases terminal : e.conn.state.isTerminal with
  | true =>
    rw [setBroken_of_terminal terminal]
    exact timed.remark _
  | false =>
    rw [setBroken_of_not_terminal terminal]
    have released : ((e.remark .breaking).release .broken).Timed :=
      (timed.remark .breaking).release (by simp [Phase.state])
    exact released.operationEnded

theorem noteClosed (timed : e.Timed) : e.noteClosed.Timed := by
  have called : ((e.remark .socketClosed).emit (.connectionClosed e.conn.view)).Timed :=
    (timed.remark .socketClosed).emit_of_view rfl
  exact called.of_same rfl rfl rfl

/-- Between the caller and the pool no QUIT is in progress. -/
theorem changeUsage (timed : e.Timed) {origin usage : Usage} (ho : origin ≠ .shuttingDown)
    (hu : usage ≠ .shuttingDown) : (e.changeUsage origin usage).Timed := by
  unfold Endpoint.changeUsage
  split
  · next hs =>
    have live : e.conn.phase.state.isLive = true := by
      rw [← Connection.state, hs]
      rfl
    refine of_unset timed.heard (timed.timer_eq_none (by simpa [hs] using ho)) ?_
    show (e.conn.phase.relabel usage).state ≠ .shuttingDown
    rw [Phase.state_relabel_of_live live]
    simpa using hu
  · exact timed.remark _

theorem connected (timed : e.Timed) (t : Transport) : (e.connected t).Timed := by
  by_cases hs : e.conn.state = .connecting
  · obtain ⟨greeting, hp⟩ := phase_of_connecting hs
    have unset : e.conn.timer = none := timed.timer_eq_none (by simp [hs])
    rw [connected_of_connecting t hp]
    refine remark ?_ .connected
    exact of_unset timed.heard unset (by simp [Connection.state, Phase.state])
  · have conn := conn_connected_of_not_connecting t hs
    refine timed.of_same (by rw [conn]) (by rw [conn]) ?_
    rw [views, trace_connected_of_not_connecting t hs, List.filterMap_append]
    exact List.append_nil _

theorem refused (timed : e.Timed) (waiting : e.conn.state = .connecting) :
    (e.setPhase .broken).Timed :=
  of_unset timed.heard (timed.timer_eq_none (by simp [waiting]))
    (by simp [Connection.state, setPhase, Phase.state])

/-- The listener hears of a failure to connect when the connection has taken note of it. -/
theorem connectFailed (timed : e.Timed) (err : Error) : ∃ heard : Endpoint H, heard.Timed ∧
    e.connectFailed err = (heard.emit .connectFailed).deliverError err := by
  refine ⟨_, ?_, rfl⟩
  split
  · next waiting => exact (timed.remark .connectFailed).refused waiting
  · exact timed.remark .connectFailed

end Timed

theorem views_sendBytes (e : Endpoint H) (id : TransportId) (data : Bytes) :
    (e.sendBytes id data).1.views = e.views := by
  unfold sendBytes
  split
  · rfl
  · split
    · rw [views_emit]
      exact List.append_nil _
    · rw [views_emit]
      exact List.append_nil _

theorem views_askUpgrade (e : Endpoint H) (id : TransportId) :
    (e.askUpgrade id).1.views = e.views := by
  unfold askUpgrade
  split
  · rfl
  · split
    · rw [views_emit]
      exact List.append_nil _
    · rw [views_emit]
      exact List.append_nil _

theorem views_askFull (e : Endpoint H) (id : TransportId) : (e.askFull id).2.views = e.views := by
  unfold askFull
  split <;> rfl

/-- **Effects keep the deadline in step with QUIT.** -/
theorem Effect.timed (timed : e.Timed) (effect : Effect loud e e') : e'.Timed := by
  cases effect with
  | @event _ _ event plain =>
    refine timed.emit_of_none ?_
    cases event <;> simp_all [Event.isPlain, Event.view?]
  | outside outside =>
    exact timed.of_same (by rw [outside.conn_eq]) (by rw [outside.conn_eq])
      (by rw [views, outside.trace_eq, views])
  | fillSlot handler held peer => exact timed.of_same rfl (Phase.state_setSlot _ _) rfl
  | emptySlot => exact timed.of_same rfl (Phase.state_setSlot _ _) rfl
  | @send _ _ id data held peer =>
    have conn := conn_sendBytes e id data
    exact timed.of_same (by rw [conn]) (by rw [conn]) (views_sendBytes e id data)
  | @askFull _ _ id held =>
    have conn := conn_askFull e id
    exact timed.of_same (by rw [conn]) (by rw [conn]) (views_askFull e id)
  | @askUpgrade _ _ id held =>
    have conn := conn_askUpgrade e id
    exact timed.of_same (by rw [conn]) (by rw [conn]) (views_askUpgrade e id)
  | park => exact timed.changeUsage (by simp) (by simp)
  | use => exact timed.changeUsage (by simp) (by simp)
  | connected t => exact timed.connected t
  | refused waiting => exact timed.refused waiting
  | setBroken => exact timed.setBroken
  | fault peer inFlight => exact timed.setBroken.remark _
  | hangUp inFlight => exact timed.noteClosed.setBroken.remark _
  | retire idle => exact (timed.noteClosed.remark _).setBroken
  | closeExpected gone => exact timed.noteClosed
  | giveBack notIdle notRequested =>
    have emptied : (e.setSlot none).Timed := timed.of_same rfl (Phase.state_setSlot _ _) rfl
    exact emptied.operationEnded.of_same rfl rfl rfl
  | beginQuit peer live =>
    exact ⟨iff_of_true rfl (state_beginQuit live), timed.heard⟩
  | finishQuit waits => exact timed.finishQuit
  | shutdown gone notYet => exact timed.shutdown
  | _ => exact timed.of_same rfl rfl rfl

/-- A connection that was closed waits for nothing when it is opened. -/
theorem Timed.dial (timed : e.Timed) (closed : e.conn.state = .closed) (config : Config)
    (greeting onError : H) : (e.dial config greeting onError).Timed := by
  have unset : e.conn.timer = none := timed.timer_eq_none (by simp [closed])
  have released : e.releaseTransport = e := by
    unfold releaseTransport
    rw [transport?_of_closed closed]
  unfold Endpoint.dial
  rw [released]
  refine remark ?_ .opening
  exact of_unset timed.heard unset (by simp [Connection.state, Phase.state])

/-! ### The end of a graceful close -/

namespace Ends

theorem not_dial (ends : e.Ends w) : w.isDial = false := by
  cases ends <;> rfl

/-- The end of a graceful close finds the handler for errors that is in charge, and calls nobody
else. -/
theorem calls (sound : e.Sound) (quitting : e.conn.state = .shuttingDown) (ends : e.Ends w) :
    (e.resume w).1.conn.state.isTerminal = true ∧ ∀ handler notice,
      .call handler notice ∈ (e.resume w).2 → e.conn.errorHandler = some (.app handler) := by
  have inFlight : e.conn.state.isInFlight = true := by
    rw [quitting]
    rfl
  have ended (d : Endpoint H) : d.finishQuit.conn.state.isTerminal = true := by
    rw [state_finishQuit]
    split <;> rfl
  -- a fault breaks the connection first, and then calls who was in charge when it came
  have broken {found : Endpoint H} {err : Error} (meets : e.Meets w found err)
      (flight : found.conn.state.isInFlight = true)
      (same : found.conn.errorHandler = e.conn.errorHandler) :
      (e.resume w).1.conn.state.isTerminal = true ∧ ∀ handler notice,
        .call handler notice ∈ (e.resume w).2 → e.conn.errorHandler = some (.app handler) := by
    have delivers := meets.delivers sound flight
    obtain ⟨rest, inner, left⟩ := delivers.calls
    refine ⟨by rw [delivers.state]; rfl, fun handler notice hv => ?_⟩
    rw [left, same, List.mem_append] at hv
    rcases hv with hv | hv
    · unfold errorCalls at hv
      split at hv
      · next h =>
        obtain ⟨rfl, -⟩ := Work.call.inj (List.mem_singleton.mp hv)
        exact h
      · exact absurd hv (by simp)
    · exact absurd (inner _ hv) (by simp [Work.isInner])
  cases ends with
  | @reply batch waits come =>
    obtain ⟨first, others, rfl⟩ := List.exists_cons_of_ne_nil (Assembler.batch_ne_nil come)
    rw [resume, dispatch]
    dsimp only
    rw [come]
    dsimp only
    rw [deliverReplies]
    dsimp only
    rw [waits]
    exact ⟨ended _, by simp [done]⟩
  | malformed come => exact broken (.malformed come) inFlight rfl
  | fault err => exact broken (.fault err) inFlight rfl
  | closed => exact broken .closed inFlight rfl
  | timeout due late =>
    rw [resume, perform, Endpoint.timeout, due]
    dsimp only
    rw [if_pos late]
    exact ⟨ended _, by simp [done]⟩

/-- **Whatever ends a graceful close releases the socket.** -/
theorem released (sound : e.Sound) (owns : e.Owns) (timed : e.Timed)
    (quitting : e.conn.state = .shuttingDown) (ends : e.Ends w) (holds : e.Holds id) :
    Released id (e.resume w).1 := by
  have terminal := (ends.calls sound quitting).1
  have kept : (e.resume w).1.Sound ∧ (e.resume w).1.Owns ∧ (e.resume w).1.Timed :=
    (e.effects_resume w ends.not_dial).invariant
      (P := fun d => d.Sound ∧ d.Owns ∧ d.Timed)
      (fun h effect => ⟨effect.sound h.1, effect.owns h.1 h.2.1, effect.timed h.2.2⟩)
      ⟨sound, owns, timed⟩
  obtain ⟨-, owns', timed'⟩ := kept
  refine ⟨terminal, timed'.timer_eq_none (ne_live_of_terminal terminal _), ?_⟩
  · have gone := Phase.transport?_of_terminal terminal
    have length : (e.resume w).1.transports.length = e.transports.length :=
      (e.within_resume w).touches.transports (by cases ends <;> rfl)
    have handed : id < (e.resume w).1.transports.length := by
      rw [length]
      exact sound.held id holds.held
    exact (owns'.fate id handed).resolve_left fun still =>
      absurd (gone.symm.trans still.held) (by simp)

end Ends

/-! ### Who is in charge of errors -/

/-- Only the QUIT step sets a deadline. -/
theorem timer_resume (e : Endpoint H) (w : Work H) :
    (e.resume w).1.conn.timer = e.conn.timer ∨ (e.resume w).1.conn.timer = none ∨
      w = .runTasks ∧ e.beginsQuit = true := by
  have keeps := (e.within_resume w).touches.timer
  cases w with
  | perform operation =>
    have unset : (operationScope operation).timer = false := by
      cases operation <;> rfl
    exact (keeps unset).imp_right .inl
  | runTasks =>
    cases hq : e.beginsQuit with
    | true => exact .inr (.inr ⟨rfl, rfl⟩)
    | false =>
      rw [scope, hq] at keeps
      exact (keeps rfl).imp_right .inl
  | _ => exact (keeps rfl).imp_right .inl

/-- Nobody but the application puts a handler of the application in charge of errors. -/
theorem errorHandler_resume (e : Endpoint H) (hd : w.isDial = false) :
    (e.resume w).1.conn.errorHandler = e.conn.errorHandler ∨
    (e.resume w).1.conn.errorHandler = none ∨
    (e.resume w).1.conn.errorHandler = some .quit ∨
    ∃ operation, w = .perform operation ∧
      (Label.operate operation).setsErrorHandler = true := by
  have after := errorHandler_after (e := e) hd
  cases hands : e.handover? w with
  | none =>
    rw [hands] at after
    exact .inl after
  | some handover =>
    rw [hands] at after
    unfold handover? at hands
    split at hands
    · exact .inr (.inr (.inr ⟨_, rfl, rfl⟩))
    · exact .inr (.inr (.inr ⟨_, rfl, rfl⟩))
    · split at hands
      · exact absurd hands (by simp)
      · cases hands
        exact .inr (.inl after)
    · split at hands
      · cases hands
        exact .inr (.inr (.inl after))
      · exact absurd hands (by simp)
    · exact absurd hands (by simp)

/-- An application that is in charge of errors while QUIT is in progress was so before, or takes
charge now. -/
theorem inCharge_before (timed : e.Timed) (timed' : (e.resume w).1.Timed) (hd : w.isDial = false)
    (quitting : (e.resume w).1.conn.state = .shuttingDown) {handler : H}
    (inCharge : (e.resume w).1.conn.errorHandler = some (.app handler)) :
    e.conn.state = .shuttingDown ∧ (e.conn.errorHandler = some (.app handler) ∨
      ∃ operation, w = .perform operation ∧
        (Label.operate operation).setsErrorHandler = true) := by
  have set : (e.resume w).1.conn.timer.isSome = true := timed'.now.mpr quitting
  refine ⟨?_, ?_⟩
  · -- the deadline was set before, since the QUIT step would have taken charge itself
    rcases e.timer_resume w with same | none | ⟨rfl, begins⟩
    · rw [same] at set
      exact timed.now.mp set
    · rw [none] at set
      exact absurd set (by simp)
    · rw [resume, (handsOver_runTasks begins).handler] at inCharge
      exact absurd inCharge (by simp [Handover.successor])
  · rcases e.errorHandler_resume hd with same | none | quit | sets
    · exact .inl (same.symm.trans inCharge)
    · exact absurd (none.symm.trans inCharge) (by simp)
    · exact absurd (quit.symm.trans inCharge) (by simp)
    · exact .inr sets

end Endpoint

/-! ### Runs -/

namespace Machine

variable {m n : Machine H} {label : Label H} {labels : List (Label H)} {steps : List (Step H)}

/-- Code put a handler of its choice in charge of errors while QUIT was in progress. -/
def Step.Steers (step : Step H) : Prop :=
  step.before.endpoint.conn.state = .shuttingDown ∧ step.label.setsErrorHandler = true

/-- The deadline is in step with QUIT in every run that opens the connection at most once. -/
theorem timed_of_run (run : Run Operation.Any initial labels m)
    (atMost : labels.countP Label.isDial ≤ 1) : m.endpoint.Timed := by
  have start : (initial : Machine H).endpoint.Timed :=
    .of_unset (by simp [Endpoint.views, initial]) rfl
      (by simp [initial, Connection.state, Phase.state])
  exact (Run.nil initial).keep_once (P := Endpoint.Timed) run atMost
    (fun _ timed effect => effect.timed timed)
    (fun config greeting onError closed timed => timed.dial closed config greeting onError) start

/-- The work that a step of a run does is an operation only if its label says so. -/
theorem eq_operate_of_due (tidy : m.Tidy) {operation : Operation H} {frames : List (Frame H)}
    (due : Due m label (.perform operation) frames) : label = .operate operation := by
  cases due with
  | work noCall =>
    have never := tidy.no_perform _ List.mem_cons_self
    exact absurd never (by simp [Work.isPerform])
  | operate => rfl

/-- **Errors of a graceful close reach the application only if it asked for them** after the
close had begun. -/
theorem steered_of_trail (trail : Trail initial steps m) (atMost : steps.countP Step.isDial ≤ 1)
    (quitting : m.endpoint.conn.state = .shuttingDown) {handler : H}
    (inCharge : m.endpoint.conn.errorHandler = some (.app handler)) :
    ∃ step ∈ steps, step.Steers := by
  refine trail.invariant (P := fun steps m => steps.countP Step.isDial ≤ 1 →
    m.endpoint.conn.state = .shuttingDown → m.endpoint.conn.errorHandler = some (.app handler) →
    ∃ step ∈ steps, step.Steers) ?_ ?_ atMost quitting inCharge
  · intro before a b l trail ih move atMost quitting inCharge
    have timed' : b.endpoint.Timed :=
      timed_of_run (trail.snoc move).run (by rw [countP_map_label]; exact atMost)
    rw [List.countP_append] at atMost
    have fewer : before.countP Step.isDial ≤ 1 := by omega
    have timed : a.endpoint.Timed :=
      timed_of_run trail.run (by rw [countP_map_label]; exact fewer)
    have earlier (hs : a.endpoint.conn.state = .shuttingDown)
        (hh : a.endpoint.conn.errorHandler = some (.app handler)) :
        ∃ step ∈ before ++ [⟨a, l⟩], step.Steers := by
      obtain ⟨step, mem, steers⟩ := ih fewer hs hh
      exact ⟨step, List.mem_append_left _ mem, steers⟩
    cases move.turn with
    | @work _ _ w frames due =>
      cases hd : w.isDial with
      | true =>
        obtain ⟨config, greeting, onError, rfl⟩ := Work.exists_of_isDial hd
        exact absurd quitting (by simp [after, Endpoint.resume, Endpoint.perform, Endpoint.dial,
          Endpoint.done, Connection.state, Phase.state])
      | false =>
        obtain ⟨hs, hh | ⟨operation, rfl, sets⟩⟩ :=
          Endpoint.inCharge_before timed timed' hd quitting inCharge
        · exact earlier hs hh
        · obtain rfl := eq_operate_of_due (tidy_of_run trail.run) due
          exact ⟨_, List.mem_append_right _ List.mem_cons_self, hs, sets⟩
    | call => exact earlier quitting inCharge
    | leave => exact earlier quitting inCharge
    | outside outside => exact earlier (outside.conn_eq ▸ quitting) (outside.conn_eq ▸ inCharge)
  · intro _ quitting
    exact absurd quitting (by simp [initial, Connection.state, Phase.state])

/-- **Whatever ends a graceful close releases the socket**, in every run that opens the connection
at most once: a deadline is set exactly while QUIT is in progress, also whenever the listener is
called, and the reply, a fault, the peer's closing and the deadline all end the close with the
transport closed exactly once.  No handler is called, unless code put one in charge of errors
after the close had begun. -/
theorem quit_ends_with_release (trail : Trail initial steps m)
    (atMost : steps.countP Step.isDial ≤ 1) :
    m.endpoint.Timed ∧
    (∀ err, ∃ heard : Endpoint H, heard.Timed ∧ m.endpoint.connectFailed err =
      (heard.emit .connectFailed).deliverError err) ∧
    (m.endpoint.conn.state = .shuttingDown → ∃ id deadline, m.endpoint.Holds id ∧
      m.endpoint.conn.timer = some deadline ∧
      ∀ w, m.endpoint.Ends w → Endpoint.Released id (m.endpoint.resume w).1 ∧
        ∀ handler notice, .call handler notice ∈ (m.endpoint.resume w).2 →
          ∃ step ∈ steps, step.Steers) := by
  have atMost' : (steps.map Step.label).countP Label.isDial ≤ 1 := by
    rw [countP_map_label]
    exact atMost
  have timed := timed_of_run trail.run atMost'
  have sound : m.endpoint.Sound := sound_of_run trail.run
  have owns := owns_of_run trail.run atMost'
  refine ⟨timed, timed.connectFailed, fun quitting => ?_⟩
  have live : m.endpoint.conn.isLive = true := by
    rw [Connection.isLive, quitting]
    rfl
  obtain ⟨id, held⟩ := Endpoint.isLive_iff.mp live
  obtain ⟨deadline, set⟩ := Option.isSome_iff_exists.mp (timed.now.mpr quitting)
  have holds : m.endpoint.Holds id :=
    (owns.fate id (sound.held id held)).resolve_right fun letGo => letGo.free held
  refine ⟨id, deadline, holds, set, fun w ends =>
    ⟨ends.released sound owns timed quitting holds, fun handler notice called => ?_⟩⟩
  have inCharge := (ends.calls sound quitting).2 handler notice called
  exact steered_of_trail trail atMost quitting inCharge

/-- The connection is closed while it is in use, and the handler for errors of the application is
the one that it was opened with. -/
def quitSent : List (Choice Nat) :=
  [.operate (.dial (Config.build "mail" []) 0 1), .operate (.connected (.manual {})),
    .operate .close, .operate .runScheduled, .proceed, .proceed]

/-- The socket fails while QUIT waits for its reply: the socket is released and nobody is
called. -/
theorem quit_sent_fault : ∃ id, Endpoint.Released id
      ((initial.play quitSent).2.endpoint.resume (.perform (.fault .closedByServer))).1 ∧
    ∀ handler notice, .call handler notice ∉
      ((initial.play quitSent).2.endpoint.resume (.perform (.fault .closedByServer))).2 := by
  have trail : Trail initial (initial.track quitSent) (initial.play quitSent).2 :=
    trail_play quitSent .nil
  have quitting : (initial.play quitSent).2.endpoint.conn.state = .shuttingDown := by decide
  obtain ⟨-, -, ends⟩ := quit_ends_with_release trail (by decide)
  obtain ⟨id, deadline, -, -, released⟩ := ends quitting
  obtain ⟨release, silent⟩ := released _ (.fault .closedByServer)
  refine ⟨id, release, fun handler notice called => ?_⟩
  obtain ⟨step, mem, -, sets⟩ := silent handler notice called
  have never : ∀ step ∈ initial.track quitSent, step.label.setsErrorHandler = false := by decide
  exact absurd sets (by simp [never step mem])

end Machine

end SmtpLink
