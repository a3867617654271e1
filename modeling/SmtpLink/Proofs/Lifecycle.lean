import SmtpLink.Proofs.Effect

/-!
# The life of a connection

What holds of a connection between any two effects, and so whenever one of its operations
returns and whenever a handler is called.

## Main definitions

* `Endpoint.Sound` — the transport that is held was handed over, and the peer has not closed a
  socket that is held.

## Main results

* `Endpoint.Effect.sound`, `Machine.sound_of_run` — **connections are sound in every run.**
* `Endpoint.Effect.state_of_terminal` — **a connection that can no longer be used stays as it
  is**, unless it is opened anew.
* `Machine.closed_of_run` — a connection that was not opened is closed.
* `Machine.Run.keep_once` — what effects keep holds along every run that opens the connection at
  most once.
-/

namespace SmtpLink

variable {H : Type}

namespace Phase

@[simp] theorem state_setSlot (phase : Phase H) (slot : Option (ReplyHandler H)) :
    (phase.setSlot slot).state = phase.state := by
  cases phase <;> rfl

@[simp] theorem transport?_relabel (phase : Phase H) (usage : Usage) :
    (phase.relabel usage).transport? = phase.transport? := by
  cases phase <;> rfl

theorem isLive_state (phase : Phase H) : phase.state.isLive = phase.transport?.isSome := by
  cases phase <;> rfl

theorem transport?_of_terminal {phase : Phase H} (h : phase.state.isTerminal = true) :
    phase.transport? = none := by
  cases phase with
  | live usage id slot => exact absurd h (by simp [state, ConnectionState.isTerminal])
  | _ => rfl

end Phase

namespace Endpoint

variable {loud : Bool} {e e' : Endpoint H}

/-! ### The single effects -/

@[simp] theorem phase_setSlot (e : Endpoint H) (slot : Option (ReplyHandler H)) :
    (e.setSlot slot).conn.phase = e.conn.phase.setSlot slot := rfl

theorem length_transports_sendBytes (e : Endpoint H) (id : TransportId) (data : Bytes) :
    (e.sendBytes id data).1.transports.length = e.transports.length := by
  unfold sendBytes
  split
  · rfl
  · split
    · exact List.length_set
    · rfl

theorem length_transports_askFull (e : Endpoint H) (id : TransportId) :
    (e.askFull id).2.transports.length = e.transports.length := by
  unfold askFull
  split
  · rfl
  · exact List.length_set

theorem length_transports_askUpgrade (e : Endpoint H) (id : TransportId) :
    (e.askUpgrade id).1.transports.length = e.transports.length := by
  unfold askUpgrade
  split
  · rfl
  · split
    · exact List.length_set
    · rfl

theorem phase_shutdown (e : Endpoint H) :
    e.shutdown.conn.phase = if e.conn.state = .broken then .broken else .closed := by
  rw [shutdown, phase_release]

theorem state_shutdown (e : Endpoint H) :
    e.shutdown.conn.state = if e.conn.state = .broken then .broken else .closed := by
  rw [Connection.state, phase_shutdown]
  split <;> rfl

theorem state_finishQuit (e : Endpoint H) :
    e.finishQuit.conn.state = if e.conn.state = .broken then .broken else .closed :=
  state_shutdown _

theorem setBroken_of_terminal (h : e.conn.state.isTerminal = true) :
    e.setBroken = e.remark .alreadyBroken := by
  rw [setBroken, if_pos h]

theorem setBroken_of_not_terminal (h : e.conn.state.isTerminal = false) :
    e.setBroken = ((e.remark .breaking).release .broken).operationEnded := by
  rw [setBroken, if_neg (by simp [h])]

theorem state_setBroken (e : Endpoint H) :
    e.setBroken.conn.state = if e.conn.state.isTerminal then e.conn.state else .broken := by
  cases h : e.conn.state.isTerminal with
  | true => rw [setBroken_of_terminal h]; rfl
  | false => rw [setBroken_of_not_terminal h]; rfl

theorem state_setBroken_of_inFlight (h : e.conn.state.isInFlight = true) :
    e.setBroken.conn.state = .broken := by
  rw [state_setBroken]
  cases hs : e.conn.state <;>
    simp_all [ConnectionState.isInFlight, ConnectionState.isTerminal]

theorem transport?_setBroken (e : Endpoint H) : e.setBroken.conn.phase.transport? = none := by
  apply Phase.transport?_of_terminal
  show e.setBroken.conn.state.isTerminal = true
  rw [state_setBroken]
  cases h : e.conn.state.isTerminal with
  | true => exact h
  | false => rfl

theorem transport?_shutdown (e : Endpoint H) : e.shutdown.conn.phase.transport? = none := by
  rw [phase_shutdown]
  split <;> rfl

theorem transport?_changeUsage (e : Endpoint H) (origin usage : Usage) :
    (e.changeUsage origin usage).conn.phase.transport? = e.conn.phase.transport? := by
  unfold changeUsage
  split
  · exact Phase.transport?_relabel _ _
  · rfl

theorem changeUsage_of_not_live {origin : Usage} (h : e.conn.state.isTerminal = true)
    (usage : Usage) : e.changeUsage origin usage = e.remark (.useUnchanged (.live origin)) := by
  unfold changeUsage
  rw [if_neg]
  intro hs
  rw [hs] at h
  exact absurd h (by simp [ConnectionState.isTerminal])

theorem connected_of_connecting {greeting : H} (t : Transport)
    (h : e.conn.phase = .connecting greeting) :
    e.connected t = remark { e with
      transports := e.transports ++ [t]
      conn := { e.conn with
        context := e.task
        peerClosed := false
        assembler := e.conn.assembler.reset.expect 1
        phase := .live .active e.transports.length (some (.greeting greeting)) } } .connected := by
  unfold connected
  dsimp only
  rw [h]

theorem conn_connected_of_not_connecting (t : Transport) (h : e.conn.state ≠ .connecting) :
    (e.connected t).conn = e.conn := by
  have closed : ∀ (d : Endpoint H) (id : TransportId), (d.closeTransport id).conn = d.conn := by
    intro d id
    unfold closeTransport
    split <;> rfl
  unfold connected
  dsimp only
  split
  · next greeting hp => exact absurd (by rw [Connection.state, hp]; rfl) h
  · exact closed _ _

/-! ### Soundness -/

/-- The transport that is held was handed over, and the peer has not closed a socket that is
held. -/
structure Sound (e : Endpoint H) : Prop where
  /-- The transport that is held was handed over. -/
  held : ∀ id, e.conn.phase.transport? = some id → id < e.transports.length
  /-- The peer has not closed a socket that is held. -/
  peer : e.conn.isLive = true → e.conn.peerClosed = false

theorem isLive_iff : e.conn.isLive = true ↔ ∃ id, e.conn.phase.transport? = some id := by
  rw [← Option.isSome_iff_exists, ← Phase.isLive_state]
  rfl

theorem isLive_of_held {id : TransportId} (h : e.conn.phase.transport? = some id) :
    e.conn.isLive = true :=
  isLive_iff.mpr ⟨id, h⟩

/-- An endpoint that holds no transport is sound. -/
theorem sound_of_gone (h : e.conn.phase.transport? = none) : e.Sound where
  held id hid := by rw [h] at hid; exact absurd hid (by simp)
  peer hl := by
    obtain ⟨id, hid⟩ := isLive_iff.mp hl
    rw [h] at hid
    exact absurd hid (by simp)

theorem Sound.of_same (sound : e.Sound)
    (transport : e'.conn.phase.transport? = e.conn.phase.transport?)
    (peer : e'.conn.peerClosed = e.conn.peerClosed)
    (length : e'.transports.length = e.transports.length) : e'.Sound where
  held id hid := by
    rw [length]
    exact sound.held id (transport ▸ hid)
  peer hl := by
    rw [peer]
    obtain ⟨id, hid⟩ := isLive_iff.mp hl
    exact sound.peer (isLive_of_held (transport ▸ hid))

theorem sound_connected (sound : e.Sound) (t : Transport) : (e.connected t).Sound := by
  cases hp : e.conn.phase with
  | connecting greeting =>
    rw [connected_of_connecting t hp]
    refine ⟨fun id hid => ?_, fun _ => rfl⟩
    simp only [conn_remark, Phase.transport?, Option.some.injEq] at hid
    simp [← hid]
  | _ =>
    have conn : (e.connected t).conn = e.conn :=
      conn_connected_of_not_connecting t (by simp [Connection.state, hp, Phase.state])
    refine ⟨fun id hid => ?_, fun hl => ?_⟩
    · rw [conn] at hid
      have length : (e.connected t).transports.length = e.transports.length + 1 := by
        simp [connected, hp, closeTransport, setTransport, emit, remark]
      rw [length]
      exact Nat.lt_succ_of_lt (sound.held id hid)
    · rw [conn] at hl ⊢
      exact sound.peer hl

theorem sound_dial (e : Endpoint H) (config : Config) (greeting onError : H) :
    (e.dial config greeting onError).Sound :=
  sound_of_gone rfl

/-- **Every effect keeps a connection sound.** -/
theorem Effect.sound (sound : e.Sound) (effect : Effect loud e e') : e'.Sound := by
  cases effect with
  | outside outside =>
    exact sound.of_same (by rw [outside.conn_eq]) (by rw [outside.conn_eq])
      outside.length_transports
  | fillSlot handler held peer => exact sound.of_same (transport?_setSlot _ _) rfl rfl
  | emptySlot => exact sound.of_same (transport?_setSlot _ _) rfl rfl
  | send data held peer =>
    exact sound.of_same (by rw [conn_sendBytes]) (by rw [conn_sendBytes])
      (length_transports_sendBytes _ _ _)
  | askFull held =>
    exact sound.of_same (by rw [conn_askFull]) (by rw [conn_askFull])
      (length_transports_askFull _ _)
  | askUpgrade held =>
    exact sound.of_same (by rw [conn_askUpgrade]) (by rw [conn_askUpgrade])
      (length_transports_askUpgrade _ _)
  | park =>
    refine sound.of_same (transport?_changeUsage _ _ _) ?_ ?_ <;> unfold changeUsage <;>
      split <;> rfl
  | use =>
    refine sound.of_same (transport?_changeUsage _ _ _) ?_ ?_ <;> unfold changeUsage <;>
      split <;> rfl
  | connected t => exact sound_connected sound t
  | refused waiting => exact sound_of_gone rfl
  | setBroken => exact sound_of_gone (transport?_setBroken _)
  | fault peer inFlight => exact sound_of_gone (transport?_setBroken _)
  | hangUp inFlight => exact sound_of_gone (transport?_setBroken _)
  | retire idle => exact sound_of_gone (transport?_setBroken _)
  | closeExpected gone =>
    refine sound_of_gone ?_
    rw [← Option.isSome_eq_false_iff.trans Option.isNone_iff_eq_none, ← Phase.isLive_state]
    exact gone
  | giveBack notIdle notRequested => exact sound.of_same (transport?_setSlot _ _) rfl rfl
  | beginQuit peer live => exact sound.of_same (Phase.transport?_relabel _ _) rfl rfl
  | finishQuit waits => exact sound_of_gone (transport?_shutdown _)
  | shutdown gone notYet => exact sound_of_gone (transport?_shutdown _)
  | _ => exact sound.of_same rfl rfl rfl

/-! ### The end -/

theorem not_live_of_terminal {c : Connection H} (h : c.state.isTerminal = true) :
    c.isLive = false := by
  unfold Connection.isLive
  cases hs : c.state <;> simp_all [ConnectionState.isTerminal, ConnectionState.isLive]

/-- A connection that can no longer be used is in no state that holds a socket. -/
theorem ne_live_of_terminal {s : ConnectionState} (h : s.isTerminal = true) (usage : Usage) :
    s ≠ .live usage := by
  intro hs
  rw [hs] at h
  exact absurd h (by simp [ConnectionState.isTerminal])

theorem not_terminal_of_live {c : Connection H} (h : c.isLive = true) :
    c.state.isTerminal = false := by
  cases terminal : c.state.isTerminal with
  | false => rfl
  | true =>
    rw [not_live_of_terminal terminal] at h
    exact absurd h (by simp)

theorem not_inFlight_of_terminal {s : ConnectionState} (h : s.isTerminal = true) :
    s.isInFlight = false := by
  cases s <;> simp_all [ConnectionState.isTerminal, ConnectionState.isInFlight]

/-- **A connection that can no longer be used stays as it is**, unless it is opened anew. -/
theorem Effect.state_of_terminal (effect : Effect loud e e') (h : e.conn.state.isTerminal = true) :
    e'.conn.state = e.conn.state := by
  have ended : (if e.conn.state = .broken then .broken else .closed) = e.conn.state := by
    cases hs : e.conn.state <;> simp_all [ConnectionState.isTerminal]
  cases effect with
  | outside outside => rw [outside.conn_eq]
  | fillSlot handler held peer => exact Phase.state_setSlot _ _
  | emptySlot => exact Phase.state_setSlot _ _
  | send data held peer => rw [conn_sendBytes]
  | askFull held => rw [conn_askFull]
  | askUpgrade held => rw [conn_askUpgrade]
  | park => rw [changeUsage_of_not_live h, conn_remark]
  | use => rw [changeUsage_of_not_live h, conn_remark]
  | connected t =>
    rw [conn_connected_of_not_connecting]
    intro hs
    rw [hs] at h
    exact absurd h (by simp [ConnectionState.isTerminal])
  | refused waiting =>
    rw [waiting] at h
    exact absurd h (by simp [ConnectionState.isTerminal])
  | setBroken => rw [state_setBroken, if_pos h]
  | fault peer inFlight => rw [conn_remark, state_setBroken, if_pos h]
  | hangUp inFlight =>
    rw [not_inFlight_of_terminal h] at inFlight
    exact absurd inFlight (by simp)
  | retire idle =>
    rw [state_setBroken]
    exact if_pos h
  | giveBack notIdle notRequested => exact Phase.state_setSlot _ _
  | beginQuit peer live =>
    rw [not_live_of_terminal h] at live
    exact absurd live (by simp)
  | finishQuit waits => rw [state_finishQuit, ended]
  | shutdown gone notYet =>
    rw [h] at notYet
    exact absurd notYet (by simp)
  | _ => rfl

/-- Whatever is done to a connection that can no longer be used, it stays as it is. -/
theorem Effects.state_of_terminal (effects : Effects loud e e')
    (h : e.conn.state.isTerminal = true) : e'.conn.state = e.conn.state := by
  refine effects.invariant (P := fun d => d.conn.state = e.conn.state) ?_ rfl
  intro a b ha effect
  rw [effect.state_of_terminal (by rw [ha, h]), ha]

end Endpoint

/-! ### Runs -/

namespace Machine

variable {admitted : Operation H → Prop} {m n : Machine H} {label : Label H}
  {labels labels' : List (Label H)}

theorem sound_move (sound : m.endpoint.Sound) (move : Move admitted m label n) :
    n.endpoint.Sound := by
  cases move.turn with
  | @work _ _ w frames due =>
    cases hd : w.isDial with
    | true =>
      obtain ⟨config, greeting, onError, rfl⟩ := Work.exists_of_isDial hd
      exact Endpoint.sound_dial _ config greeting onError
    | false => exact (m.endpoint.effects_resume w hd).invariant Endpoint.Effect.sound sound
  | call => exact sound
  | leave => exact sound
  | outside outside =>
    have effect : Endpoint.Effect false _ _ := .outside outside
    exact effect.sound sound

/-- **Connections are sound in every run.** -/
theorem sound_of_run (run : Run admitted initial labels m) : m.endpoint.Sound :=
  run.invariant (P := fun k => k.endpoint.Sound) sound_move (Endpoint.sound_of_gone rfl)

/-- A move that does not open the connection is made of effects. -/
theorem effects_move (tidy : m.Tidy) (move : Move admitted m label n)
    (h : label.isDial = false) : Endpoint.Effects true m.endpoint n.endpoint := by
  cases move.turn with
  | @work _ _ w frames due => exact m.endpoint.effects_resume w (due.not_dial tidy h)
  | call => exact .refl _
  | leave => exact .refl _
  | outside outside => exact (Endpoint.Effect.outside outside).single

/-- A run that does not open the connection is made of effects. -/
theorem effects_run (tidy : m.Tidy) (run : Run admitted m labels n)
    (h : ∀ l ∈ labels, l.isDial = false) :
    Endpoint.Effects true m.endpoint n.endpoint ∧ n.Tidy := by
  induction run with
  | nil => exact ⟨.refl _, tidy⟩
  | snoc run move ih =>
    obtain ⟨effects, tidy⟩ := ih fun l hl => h l (List.mem_append_left _ hl)
    exact ⟨effects.append (effects_move tidy move (h _ (by simp))), tidy_move tidy move⟩

/-- A connection that was not opened is closed. -/
theorem closed_of_run (run : Run admitted initial labels m)
    (h : ∀ l ∈ labels, l.isDial = false) : m.endpoint.conn.state = .closed :=
  (effects_run tidy_initial run h).1.state_of_terminal rfl

/-- A move that opens the connection does only that. -/
theorem Move.of_isDial (move : Move admitted m label n) (hd : label.isDial = true) :
    ∃ config greeting onError, n.endpoint = m.endpoint.dial config greeting onError := by
  cases move with
  | @operate e operation frames isAdmitted =>
    cases operation with
    | dial config greeting onError => exact ⟨config, greeting, onError, rfl⟩
    | _ => exact absurd hd (by simp [Label.isDial])
  | _ => exact absurd hd (by simp [Label.isDial])

/-- What is opened once was not opened before. -/
theorem unopened_of_isDial (atMost : (labels ++ [label]).countP Label.isDial ≤ 1)
    (hd : label.isDial = true) : ∀ l ∈ labels, l.isDial = false := by
  rw [List.countP_append, List.countP_singleton, hd, if_pos rfl] at atMost
  have none : labels.countP Label.isDial = 0 := by omega
  intro l mem
  exact Bool.eq_false_iff.mpr (List.countP_eq_zero.mp none l mem)

/-- What every effect keeps, and the opening of a connection that was never opened before, holds
along a run that opens the connection at most once. -/
theorem Run.keep_once {P : Endpoint H → Prop} (run : Run admitted initial labels m)
    (run' : Run admitted m labels' n) (atMost : (labels ++ labels').countP Label.isDial ≤ 1)
    (effect : ∀ {a b : Endpoint H}, a.Sound → P a → Endpoint.Effect true a b → P b)
    (dial : ∀ {e : Endpoint H} (config : Config) (greeting onError : H), e.conn.state = .closed →
      P e → P (e.dial config greeting onError))
    (hm : P m.endpoint) : P n.endpoint := by
  induction run' with
  | nil => exact hm
  | @snoc k n ls label run' move ih =>
    have before := Run.append run run'
    rw [← List.append_assoc] at atMost
    have hk : P k.endpoint := by
      apply ih
      rw [List.countP_append] at atMost
      omega
    cases hd : label.isDial with
    | false =>
      have effects := effects_move (tidy_of_run before) move hd
      exact (effects.invariant (P := fun d => d.Sound ∧ P d)
        (fun h e => ⟨e.sound h.1, effect h.1 h.2 e⟩) ⟨sound_of_run before, hk⟩).2
    | true =>
      have closed := closed_of_run before (unopened_of_isDial atMost hd)
      obtain ⟨config, greeting, onError, opened⟩ := move.of_isDial hd
      rw [opened]
      exact dial config greeting onError closed hk

end Machine

end SmtpLink
