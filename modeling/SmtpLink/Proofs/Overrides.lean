import SmtpLink.Proofs.Hearing

/-!
# Only the first override is remembered

An application that takes charge of errors may hand the charge back without having kept the handler
that it took it from, because the connection remembers that one.  It remembers one handler only,
the one that the first override displaced, and that is the handler given when the connection was
opened if nobody else had been in charge by then.  Where the latest handover leaves the charge
follows from the handovers alone, however many there are and whoever makes them: an application,
one of its handlers in the middle of a call, or the QUIT step.

## Main definitions

* `Machine.Step.handover?` — what a step does to who is in charge of errors.
* `Machine.FirstOverride` — the first override displaces the handler given to open.
* `Machine.inCharge` — who is in charge of errors, told from the handovers since.
* `Machine.Obeys` — a step tells whoever is in charge of its error, and a reset brings back the
  handler given to open.

## Main results

* `Machine.called_in_charge` — a handler that is to be called with an error is in charge.
* `Machine.first_override_remembered` — **every reset behind the first override brings back the
  handler given to open, and errors go to whom the latest handover leaves in charge.**
-/

namespace SmtpLink

variable {H : Type}

namespace Machine

variable {admitted : Operation H → Prop} {k m n : Machine H} {label : Label H}
  {labels : List (Label H)} {before after steps : List (Step H)} {first step : Step H} {onError : H}

/-- What a step does to who is in charge of errors, if anything. -/
def Step.handover? (step : Step H) : Option (Handover H) :=
  step.work?.bind step.before.endpoint.handover?

/-- A handler takes over in this step. -/
def Step.overrides (step : Step H) : Bool := step.handover?.any Handover.isOverride

theorem handover?_of_due {w : Work H} {frames : List (Frame H)} (due : Due m label w frames) :
    Step.handover? ⟨m, label⟩ = m.endpoint.handover? w := by
  rw [Step.handover?, due.work?_eq]
  rfl

/-- A handler takes over for the first time in this step, which comes behind the others, and takes
over from the handler that was given when the connection was opened. -/
structure FirstOverride (onError : H) (before : List (Step H)) (first : Step H) : Prop where
  /-- The connection was opened with this handler. -/
  opened : ∃ step ∈ before, ∃ config greeting,
    step.label = .operate (.dial config greeting onError)
  /-- No handler has taken over from another before. -/
  unprecedented : ∀ step ∈ before, step.overrides = false
  /-- One takes over now. -/
  overrides : first.overrides = true
  /-- The handler given to open is still in charge of errors. -/
  active : first.before.endpoint.conn.errorHandler = some (.app onError)

/-- Who is in charge of errors behind these steps, if this handler was in charge before and is
remembered: the latest handover tells. -/
def inCharge (onError : H) (steps : List (Step H)) : Option (ErrorHandler H) :=
  (steps.filterMap Step.handover?).getLast?.elim (some (.app onError))
    (·.successor (some (.app onError)))

theorem inCharge_snoc (onError : H) (steps : List (Step H)) (step : Step H) :
    inCharge onError (steps ++ [step]) =
      step.handover?.elim (inCharge onError steps) (·.successor (some (.app onError))) := by
  unfold inCharge
  rw [List.filterMap_append]
  cases h : step.handover? with
  | none => simp [h]
  | some handover => simp [h]

/-- A step tells whoever is in charge of its error, where these steps have come between the first
override and it. -/
structure Obeys (onError : H) (since : List (Step H)) (step : Step H) : Prop where
  /-- A reset puts the handler given to open in charge again. -/
  resets : step.label = .operate .resetErrorHandler →
    step.before.endpoint.resetErrorHandler.conn.errorHandler = some (.app onError)
  /-- An error that the step raises goes to whom the latest handover leaves in charge, this step's
  own included, and to nobody else. -/
  tells : ∀ w, step.work? = some w →
    (step.before.endpoint).Hears (inCharge onError (since ++ [step]))
      (step.before.endpoint.raised? w) (step.before.endpoint.resume w)
  /-- A handler that is called with an error is in charge. -/
  calls : ∀ handler err, step.label = .call handler (.error err) →
    inCharge onError since = some (.app handler)

/-! ### One step -/

theorem errorHandler_move (tidy : m.Tidy) (move : Move admitted m label n)
    (notDial : label.isDial = false) : n.endpoint.conn.errorHandler =
      (Step.handover? ⟨m, label⟩).elim m.endpoint.conn.errorHandler
        (·.successor m.endpoint.conn.baseErrorHandler) := by
  cases move.turn with
  | @work _ _ w frames due =>
    rw [handover?_of_due due]
    exact Endpoint.errorHandler_after (due.not_dial tidy notDial)
  | call => rfl
  | leave => rfl
  | outside outside =>
    show (Endpoint.conn _).errorHandler = _
    rw [outside.conn_eq]
    rfl

theorem baseErrorHandler_move (move : Move admitted m label n) :
    n.endpoint.conn.baseErrorHandler = if Step.overrides ⟨m, label⟩
      then m.endpoint.conn.baseErrorHandler <|> m.endpoint.conn.errorHandler
      else m.endpoint.conn.baseErrorHandler := by
  cases move.turn with
  | @work _ _ w frames due =>
    rw [Step.overrides, handover?_of_due due]
    exact Endpoint.baseErrorHandler_after _ w
  | call => rfl
  | leave => rfl
  | outside outside =>
    show (Endpoint.conn _).baseErrorHandler = _
    rw [outside.conn_eq]
    rfl

/-! ### Runs -/

/-- **A handler that is to be called with an error is in charge of errors.**  It cannot have been
displaced, since the call comes before anything else that the connection does. -/
theorem called_in_charge (run : Run admitted initial labels m) {handler : H} {err : Error}
    (due : .work (.call handler (.error err)) ∈ m.frames) :
    m.endpoint.conn.errorHandler = some (.app handler) := by
  induction run with
  | nil => exact absurd due (by simp [initial])
  | @snoc a b labels label run move ih =>
    have tidy := tidy_of_run run
    cases move.turn with
    | @work _ _ w frames due' =>
      rcases List.mem_append.mp due with left | below
      · obtain ⟨v, mem, same⟩ := List.mem_map.mp left
        obtain rfl := Frame.work.inj same
        exact (Endpoint.hears_resume a.endpoint w).eq_of_mem mem
      · have noCall := (due'.frames_of_mem below).2 tidy
        exact absurd noCall (by simp [Work.isCall])
    | call =>
      have below := List.mem_of_ne_of_mem (by simp) due
      exact ih (List.mem_cons_of_mem _ below)
    | leave => exact ih (List.mem_cons_of_mem _ due)
    | outside outside =>
      show (Endpoint.conn _).errorHandler = _
      rw [outside.conn_eq]
      exact ih due

/-- Nothing is remembered before the first override. -/
theorem unremembered_of_trail (trail : Trail initial steps m)
    (unprecedented : ∀ step ∈ steps, step.overrides = false) :
    m.endpoint.conn.baseErrorHandler = none := by
  induction trail with
  | nil => rfl
  | snoc trail move ih =>
    have same := unprecedented _ (List.mem_append_right _ List.mem_cons_self)
    rw [baseErrorHandler_move move, same, if_neg Bool.false_ne_true]
    exact ih fun step mem => unprecedented step (List.mem_append_left _ mem)

/-- Nothing opens the connection again behind the first override. -/
theorem not_isDial_since (overridden : FirstOverride onError before first)
    (atMost : (before ++ first :: after).countP Step.isDial ≤ 1) :
    ∀ step ∈ first :: after, step.isDial = false := by
  obtain ⟨opening, mem, config, greeting, shows⟩ := overridden.opened
  have opens : opening.isDial = true := by
    rw [Step.isDial, shows]
    rfl
  have some : 0 < before.countP Step.isDial := List.countP_pos_iff.mpr ⟨opening, mem, opens⟩
  rw [List.countP_append] at atMost
  have none : (first :: after).countP Step.isDial = 0 := by omega
  intro step mem
  exact Bool.eq_false_iff.mpr (List.countP_eq_zero.mp none step mem)

/-- The first override displaces the handler given to open, which is remembered from then on. -/
theorem remembered_of_first (trail : Trail initial before first.before)
    (move : Move Operation.Any first.before first.label n) (notDial : first.isDial = false)
    (overridden : FirstOverride onError before first) :
    n.endpoint.conn.baseErrorHandler = some (.app onError) ∧
      n.endpoint.conn.errorHandler = inCharge onError [first] := by
  have fresh := unremembered_of_trail trail overridden.unprecedented
  constructor
  · rw [baseErrorHandler_move move, if_pos overridden.overrides, fresh, overridden.active]
    rfl
  · obtain ⟨handover, hands, overrides⟩ := (Option.any_eq_true _ _).mp overridden.overrides
    cases handover with
    | override handler =>
      have since : inCharge onError [first] = some handler := by
        rw [← List.nil_append [first], inCharge_snoc, hands]
        rfl
      rw [errorHandler_move (tidy_of_run trail.run) move notDial, hands, since]
      rfl
    | _ => exact absurd overrides Bool.false_ne_true

/-- From the first override on, the handler given to open is remembered, and the latest handover
tells who is in charge. -/
theorem remembered_of_trail (trail : Trail initial (before ++ first :: after) m)
    (atMost : (before ++ first :: after).countP Step.isDial ≤ 1)
    (overridden : FirstOverride onError before first) :
    m.endpoint.conn.baseErrorHandler = some (.app onError) ∧
      m.endpoint.conn.errorHandler = inCharge onError (first :: after) := by
  obtain ⟨k, earlier, later⟩ := trail.exists_append
  obtain ⟨rfl, n, move, rest⟩ := later.exists_cons
  have opened := not_isDial_since overridden atMost
  have begins := remembered_of_first earlier move (opened _ List.mem_cons_self) overridden
  refine rest.invariant (P := fun steps m => (∀ step ∈ first :: steps, step.isDial = false) →
    m.endpoint.conn.baseErrorHandler = some (.app onError) ∧
      m.endpoint.conn.errorHandler = inCharge onError (first :: steps)) ?_ (fun _ => begins) opened
  intro steps a b label since ih move' opened
  rw [← List.cons_append] at opened ⊢
  obtain ⟨base, handler⟩ := ih fun step mem => opened step (List.mem_append_left _ mem)
  have tidy := tidy_of_run (earlier.append (.cons move since)).run
  have notDial := opened _ (List.mem_append_right _ List.mem_cons_self)
  constructor
  · rw [baseErrorHandler_move move', base]
    exact ite_self _
  · rw [errorHandler_move tidy move' notDial, inCharge_snoc, base, handler]

/-- A step obeys if the charge and the memory behind it are what the handovers tell. -/
theorem obeys_of_move {since : List (Step H)} (run : Run admitted initial labels step.before)
    (move : Move admitted step.before step.label n)
    (base : n.endpoint.conn.baseErrorHandler = some (.app onError))
    (handler : n.endpoint.conn.errorHandler = inCharge onError (since ++ [step])) :
    Obeys onError since step where
  resets reset := by
    obtain ⟨m, label⟩ := step
    obtain rfl : label = .operate .resetErrorHandler := reset
    cases move with
    | operate => exact base
  tells w does := by
    obtain ⟨frames, due, rfl⟩ := Due.of_work? does move
    rw [← handler]
    exact Endpoint.hears_resume _ w
  calls h err called := by
    obtain ⟨m, label⟩ := step
    obtain rfl : label = .call h (.error err) := called
    rw [inCharge_snoc] at handler
    cases move with
    | call => exact handler.symm.trans (called_in_charge run List.mem_cons_self)

/-- **Only the first override is remembered.**  In every run that opens the connection once, and in
which the first handler that takes over displaces the one given to open, every later reset brings
back exactly the handler given to open.  An error goes to whom the latest handover leaves in
charge, and to nobody else: to the handler that took charge last, to the one given to open after a
reset, and to none after the connection was given back. -/
theorem first_override_remembered (trail : Trail initial (before ++ first :: after) m)
    (once : (before ++ first :: after).countP Step.isDial ≤ 1)
    (overridden : FirstOverride onError before first) :
    m.endpoint.conn.errorHandler = inCharge onError (first :: after) ∧
    ∀ since step later, first :: after = since ++ step :: later → Obeys onError since step := by
  refine ⟨(remembered_of_trail trail once overridden).2, ?_⟩
  intro since step later cut
  have whole := trail
  rw [cut, ← List.append_assoc] at whole
  obtain ⟨k, earlier, rest⟩ := whole.exists_append
  obtain ⟨rfl, n, move, -⟩ := rest.exists_cons
  -- the run that ends with this step is a run of the same kind
  have ends : ∃ after', since ++ [step] = first :: after' := by
    cases since with
    | nil => exact ⟨[], by rw [List.nil_append, (List.cons.inj cut).1]⟩
    | cons step' since =>
      exact ⟨since ++ [step], by rw [List.cons_append, (List.cons.inj cut).1]⟩
  obtain ⟨after', ends⟩ := ends
  have upTo : Trail initial (before ++ first :: after') n := by
    rw [← ends, ← List.append_assoc]
    exact .snoc earlier move
  have fewer : (before ++ first :: after').countP Step.isDial ≤ 1 := by
    rw [cut, List.append_cons since step later, ends] at once
    rw [← List.append_assoc, List.countP_append] at once
    omega
  obtain ⟨base, handler⟩ := remembered_of_trail upTo fewer overridden
  rw [← ends] at handler
  exact obeys_of_move earlier.run move base handler

/-- A graceful close has its turn. -/
def closeDue : List (Choice Nat) :=
  [.operate (.dial (Config.build "mail" []) 0 1), .operate (.connected (.manual {})),
    .operate .close, .operate .runScheduled]

/-- QUIT is sent, a handler takes charge and hands it back, and the socket fails. -/
def resetWhileClosing : List (Choice Nat) :=
  [.proceed, .operate (.setErrorHandler 2), .operate .resetErrorHandler,
    .operate (.fault .closedByServer), .proceed]

/-- The QUIT step comes first, so the reset brings back the handler given to open. -/
theorem reset_while_closing : ∃ steps m, Trail (initial (H := Nat)) steps m ∧
    steps.map Step.label = [.operate (.dial (Config.build "mail" []) 0 1),
      .operate (.connected (.manual {})), .operate .close, .operate .runScheduled, .work, .work,
      .operate (.setErrorHandler 2), .operate .resetErrorHandler,
      .operate (.fault .closedByServer), .call 1 (.error .closedByServer)] ∧
    m.endpoint.conn.errorHandler = some (.app 1) := by
  have due : Trail initial (initial.track closeDue) (initial.play closeDue).2 :=
    trail_play closeDue .nil
  have trail := trail_play (.proceed :: resetWhileClosing) due
  have overridden : FirstOverride 1 (initial.track closeDue)
      ⟨(initial.play closeDue).2, .work⟩ := by
    refine ⟨⟨_, List.mem_cons_self, _, 0, rfl⟩, by decide, by decide, rfl⟩
  obtain ⟨charge, -⟩ := first_override_remembered trail (by decide) overridden
  exact ⟨_, _, trail, rfl, charge.trans rfl⟩

/-- A connection is in use, and is to be closed when it is given back. -/
def closingOnReturn : List (Choice Nat) :=
  [.operate (.dial (Config.build "mail" []) 0 1), .operate (.connected (.manual {})),
    .operate .requestShutdown]

/-- A connection is idle already. -/
def idleAlready : List (Choice Nat) :=
  [.operate (.dial (Config.build "mail" []) 0 1), .operate (.connected (.manual {})),
    .operate .setIdle]

/-- **A handler that took charge keeps it over a return that does not give the connection back**:
when a shutdown was requested, and when the connection is idle.  It hears of the error of an empty
group of commands. -/
theorem charge_kept_on_return :
    (∃ before first after m, Trail (initial (H := Nat)) (before ++ first :: after) m ∧
      (before ++ first :: after).countP Step.isDial = 1 ∧ FirstOverride 1 before first ∧
      first.label = .operate (.setErrorHandler 2) ∧
      after.map Step.label = [.operate .returnToPool, .operate (.writeCommands [] 3),
        .call 2 (.error (.invalidState .noCommands))]) ∧
    (∃ before first after m, Trail (initial (H := Nat)) (before ++ first :: after) m ∧
      (before ++ first :: after).countP Step.isDial = 1 ∧ FirstOverride 1 before first ∧
      first.label = .operate (.setErrorHandler 2) ∧
      after.map Step.label = [.operate .returnToPool,
        .call 2 (.error (.invalidState .idleReturned)), .leave, .operate (.writeCommands [] 3),
        .call 2 (.error (.invalidState .noCommands))]) := by
  constructor
  · have busy : Trail initial (initial.track closingOnReturn) (initial.play closingOnReturn).2 :=
      trail_play closingOnReturn .nil
    have trail := trail_play [.operate (.setErrorHandler 2), .operate .returnToPool,
      .operate (.writeCommands [] 3), .proceed] busy
    exact ⟨_, ⟨_, .operate (.setErrorHandler 2)⟩, _, _, trail, by decide,
      ⟨⟨_, List.mem_cons_self, _, 0, rfl⟩, by decide, by decide, rfl⟩, rfl, rfl⟩
  · have idle : Trail initial (initial.track idleAlready) (initial.play idleAlready).2 :=
      trail_play idleAlready .nil
    have trail := trail_play [.operate (.setErrorHandler 2), .operate .returnToPool, .proceed,
      .leave, .operate (.writeCommands [] 3), .proceed] idle
    exact ⟨_, ⟨_, .operate (.setErrorHandler 2)⟩, _, _, trail, by decide,
      ⟨⟨_, List.mem_cons_self, _, 0, rfl⟩, by decide, by decide, rfl⟩, rfl, rfl⟩

end Machine

end SmtpLink
