import Mathlib.Data.List.Induction
import SmtpLink.Proofs.Reading
import SmtpLink.Proofs.Reports

/-!
# The size of what is handed out

A batch is handed out as soon as enough replies are complete, and then it takes all of them.  So
it has the size that is waited for, unless that size was lowered while more replies than that were
complete already: then a poll hands out all of these at once.

A group of commands waits for as many replies as it has commands.  Its handler is called with so
many, as long as no group with fewer commands is written while more replies lie there, and no group
that was refused sets the size back under the feet of another one.

## Main definitions

* `AssemblerStep.Undercuts` — a step that asks for fewer replies than are complete.
* `Endpoint.Apportioned` — a group that waits gets as many replies as it has commands.
* `Endpoint.Skews` — a piece of work after which it does not.
* `Machine.Latest` — the request that a run has made last.
* `Machine.Allotted` — what makes every group get its share.

## Main results

* `Assembler.length_of_poll` — **how many replies a poll hands out.**
* `Endpoint.apportioned_resume_iff` — work leaves a group its share exactly if it does not skew it.
* `Machine.batches_as_asked` — **batches have the size that is asked for** exactly if nothing is
  undercut, and handlers of groups are called with a reply for each command if nothing is skewed.
-/

namespace SmtpLink

/-! ### Batches -/

namespace Assembler

/-- A poll hands out the replies that are complete, if they are enough, and else as many as are
waited for. -/
theorem length_of_pollLines (a : Assembler) (block : List String) (completed : List Reply)
    (lines : List Bytes) {batch : List Reply}
    (h : (a.pollLines block completed lines).2 = some (.ok batch)) :
    batch.length = max a.expected completed.length := by
  fun_induction pollLines a block completed lines with
  | case1 block completed whole =>
    obtain rfl : completed = batch := by simpa using h
    omega
  | case2 => exact absurd h (by simp)
  | case3 => exact absurd h (by simp)
  | case4 block completed raw rest whole =>
    obtain rfl : completed = batch := by simpa using h
    omega
  | case5 => exact absurd h (by simp)
  | case6 block completed raw rest notWhole block' completed' taken ih =>
    -- a line completes one reply at most, so it cannot pass over the size of a batch
    have grown := length_completed_of_taken taken
    have length := ih h
    omega

/-- **How many replies a poll hands out.** -/
theorem length_of_poll {a : Assembler} {batch : List Reply} (h : a.poll.2 = some (.ok batch)) :
    batch.length = max a.expected a.completed.length :=
  length_of_pollLines a a.block a.completed a.ready h

/-- What a poll leaves is not enough for a batch. -/
theorem length_completed_poll (a : Assembler) : a.poll.1.completed.length < a.expected :=
  length_completed_pollLines a a.block a.completed a.ready

theorem length_completed_pollFor {a : Assembler} (fits : a.completed.length ≤ a.expected)
    (times : Nat) : (pollFor times a).1.completed.length ≤ a.expected := by
  induction times generalizing a with
  | zero => exact fits
  | succ times ih =>
    have few := length_completed_poll a
    have expected := expected_poll a
    rw [pollFor]
    cases hp : a.poll with
    | mk a' polled =>
      rw [hp] at few expected
      cases polled with
      | none => exact Nat.le_of_lt few
      | some result =>
        rw [← expected] at few ⊢
        exact ih (Nat.le_of_lt few)

end Assembler

/-- A step that asks for fewer replies than are complete. -/
def AssemblerStep.Undercuts (a : Assembler) : AssemblerStep → Prop
  | .expect n => max n 1 < a.completed.length
  | _ => False

instance (a : Assembler) (s : AssemblerStep) : Decidable (s.Undercuts a) :=
  match s with
  | .expect n => inferInstanceAs (Decidable (max n 1 < a.completed.length))
  | .feed _ | .poll | .pollAll | .reset => .isFalse id

namespace AssemblerScript

/-- Some step of a script asks for fewer replies than are complete when it is taken. -/
def Undercuts (a : Assembler) : List AssemblerStep → Prop
  | [] => False
  | s :: rest => s.Undercuts a ∨ Undercuts (step a s).1 rest

instance decidableUndercuts (a : Assembler) (steps : List AssemblerStep) :
    Decidable (Undercuts a steps) :=
  match steps with
  | [] => .isFalse id
  | s :: rest =>
    have : Decidable (Undercuts (step a s).1 rest) := decidableUndercuts (step a s).1 rest
    inferInstanceAs (Decidable (s.Undercuts a ∨ Undercuts (step a s).1 rest))

/-- No more replies are complete than are waited for, until a step undercuts them. -/
theorem fits_step_iff {a : Assembler} (fits : a.completed.length ≤ a.expected) (s : AssemblerStep) :
    (step a s).1.completed.length ≤ (step a s).1.expected ↔ ¬ s.Undercuts a := by
  cases s with
  | feed data => exact iff_of_true fits id
  | poll =>
    have few := Assembler.length_completed_poll a
    have expected := Assembler.expected_poll a
    refine iff_of_true ?_ id
    rw [step]
    cases hp : a.poll with
    | mk a' polled =>
      rw [hp] at few expected
      cases polled with
      | none => exact Nat.le_of_lt (expected.symm ▸ few)
      | some result => exact Nat.le_of_lt (expected.symm ▸ few)
  | pollAll =>
    have few := Assembler.length_completed_pollFor fits (a.completed.length + a.ready.length + 2)
    refine iff_of_true ?_ id
    rw [← Assembler.expected_pollFor (a.completed.length + a.ready.length + 2) a] at few
    exact few
  | expect n => exact Nat.not_lt.symm
  | reset => exact iff_of_true (Nat.zero_le _) id

/-- As long as no step undercuts the replies that are complete, they are not more than are waited
for. -/
theorem fits_after {steps : List AssemblerStep} {a : Assembler}
    (fits : a.completed.length ≤ a.expected) (fair : ¬ Undercuts a steps) :
    (after a steps).completed.length ≤ (after a steps).expected := by
  induction steps generalizing a with
  | nil => exact fits
  | cons s rest ih =>
    obtain ⟨first, later⟩ := not_or.mp fair
    exact ih ((fits_step_iff fits s).mpr first) later

/-- A batch has the size that is asked for exactly if no more replies are complete than that. -/
theorem length_of_poll_iff {a : Assembler} {batch : List Reply}
    (h : a.poll.2 = some (.ok batch)) :
    batch.length = a.expected ↔ a.completed.length ≤ a.expected := by
  have length := Assembler.length_of_poll h
  omega

end AssemblerScript

variable {H : Type}

/-- Who waits for the answers to what a piece of work asks of the server. -/
def Work.request? : Work H → Option (ReplyHandler H)
  | .perform operation => operation.request?
  | _ => none

/-! ### The share of a group -/

namespace Endpoint

variable {e e' : Endpoint H} {asked : Option (ReplyHandler H)} {w : Work H}

/-- A group that waits gets as many replies as it has commands: so many make a batch, and no more
are complete. -/
def Apportioned (e : Endpoint H) : Prop :=
  ∀ handler count, e.conn.phase.slot? = some (.replies handler count) →
    e.conn.assembler.expected = count ∧ e.conn.assembler.completed.length ≤ count

/-- A piece of work after which a group that waits does not get a reply for each command. -/
inductive Skews (e : Endpoint H) : Work H → Prop
  /-- A group is written, or kept back by an idle connection, while more replies are complete than
  it has commands. -/
  | writeCommands {commands : List String} {handler : H} (ne : commands.isEmpty = false)
      (live : e.conn.isLive = true)
      (stays : e.conn.isIdle = true ∨ e.accepts ("\r\n".intercalate commands) = true)
      (more : commands.length < e.conn.assembler.completed.length) :
      Skews e (.perform (.writeCommands commands handler))
  /-- A group that was refused sets the size of a batch back while a group waits. -/
  | expectOne {handler : H} {count : Nat}
      (waits : e.conn.phase.slot? = some (.replies handler count)) (several : count ≠ 1) :
      Skews e .expectOne

/-- A group that waits after a piece of work was asked for with it, or has waited before; then as
many replies make a batch as before, and no more are complete than could be handed out. -/
def Regroups (asked : Option (ReplyHandler H)) (e e' : Endpoint H) : Prop :=
  ∀ handler count, e'.conn.phase.slot? = some (.replies handler count) →
    asked = some (.replies handler count) ∨ asked = none ∧
      e.conn.phase.slot? = some (.replies handler count) ∧
      e'.conn.assembler.expected = e.conn.assembler.expected ∧
      e'.conn.assembler.completed.length ≤
        max e.conn.assembler.expected e.conn.assembler.completed.length

theorem isLive_of_slot? {handler : ReplyHandler H} (h : e.conn.phase.slot? = some handler) :
    e.conn.isLive = true := by
  rw [Connection.isLive, Connection.state, Phase.isLive_state]
  cases hp : e.conn.phase with
  | live usage id slot => rfl
  | _ => exact absurd h (by simp [hp, Phase.slot?])

theorem slot?_of_gone (gone : e.conn.isLive = false) : e.conn.phase.slot? = none := by
  cases waits : e.conn.phase.slot? with
  | none => rfl
  | some handler =>
    rw [isLive_of_slot? waits] at gone
    exact absurd gone (by simp)

namespace Regroups

/-- Nobody waits any more, or it is no group that waits. -/
theorem of_slot? {slot : Option (ReplyHandler H)} (h : e'.conn.phase.slot? = slot)
    (single : ∀ handler count, slot ≠ some (.replies handler count)) : Regroups asked e e' :=
  fun handler count waits => absurd (h.symm.trans waits) (single handler count)

theorem of_gone (gone : e'.conn.isLive = false) : Regroups asked e e' :=
  of_slot? (slot?_of_gone gone) (by simp)

theorem of_keeps (keeps : Keeps e e') : Regroups none e e' := by
  intro handler count waits
  obtain ⟨-, assembler, slot⟩ := keeps (isLive_of_slot? waits)
  rw [assembler]
  exact .inr ⟨rfl, slot.symm.trans waits, rfl, Nat.le_max_right _ _⟩

end Regroups

/-! ### What work does to a group -/

/-- Only a group that is written is in the slot as a group. -/
theorem slot?_writeWith (sound : e.Sound) (text : String) (mask : Option Nat)
    (handler : ReplyHandler H) :
    (e.writeWith text mask handler).1.1.conn.phase.slot? = some handler ∨
      (e.writeWith text mask handler).1.1.conn.isLive = false := by
  by_cases stays : e.conn.isLive = true ∧ (e.conn.isIdle = true ∨ e.accepts text = true)
  · left
    rw [conn_writeWith sound stays.1 stays.2, slot?_setSlot_of_live stays.1]
  · right
    rw [not_and] at stays
    refine isLive_writeWith sound (fun live => ?_) mask handler
    simpa using stays live

/-- A single command leaves no group waiting. -/
theorem regroups_writeWith {d : Endpoint H} (sound : d.Sound) (text : String) (mask : Option Nat)
    {handler : ReplyHandler H} (single : ∀ h count, handler ≠ .replies h count) :
    Regroups asked e (d.writeWith text mask handler).1.1 := by
  rcases slot?_writeWith sound text mask handler with waits | gone
  · exact .of_slot? waits fun h count same => single h count (Option.some.inj same)
  · exact .of_gone gone

theorem regroups_writeCommands (sound : e.Sound) (commands : List String) (handler : H) :
    Regroups (Operation.writeCommands commands handler).request? e
      (e.writeCommands commands handler).1 := by
  rw [Operation.request?]
  cases ne : commands.isEmpty with
  | true =>
    unfold writeCommands
    rw [if_pos ne, if_pos rfl]
    exact .of_keeps (effects_deliverError e _).keeps_of_quiet
  | false =>
    have expecting : (e.expect commands.length).Sound := sound.of_same rfl rfl rfl
    rw [fst_writeCommands ne, if_neg (by simp)]
    intro h count waits
    rcases slot?_writeWith expecting ("\r\n".intercalate commands) none
      (.replies handler commands.length) with own | gone
    · exact .inl (own.symm.trans waits)
    · exact Regroups.of_gone gone h count waits

theorem slot?_setSlot_none (e : Endpoint H) : (e.setSlot none).conn.phase.slot? = none :=
  Phase.slot?_setSlot_none e.conn.phase

/-- Once a batch is handed over nobody waits. -/
theorem slot?_deliverReplies (e : Endpoint H) (batch : List Reply) :
    (e.deliverReplies batch).1.conn.phase.slot? = none := by
  have emptied := slot?_setSlot_none e
  unfold deliverReplies
  dsimp only
  split
  · next nobody => exact nobody
  · exact emptied
  · split <;> exact emptied
  · split <;> exact emptied
  · split
    · exact emptied
    · exact slot?_of_gone (isLive_shutdown _)

theorem regroups_dispatch (e : Endpoint H) : Regroups none e e.dispatch.1 := by
  have few := Assembler.length_completed_poll e.conn.assembler
  have expected := Assembler.expected_poll e.conn.assembler
  -- polling makes no difference to who waits
  have polled : Regroups none e
      { e with conn := { e.conn with assembler := e.conn.assembler.poll.1 } } :=
    fun handler count waits => .inr ⟨rfl, waits, expected, by dsimp only; omega⟩
  unfold dispatch
  dsimp only
  split
  · exact polled
  · next err _ =>
    intro handler count waits
    obtain ⟨-, assembler, slot⟩ := keeps_fault _ err (isLive_of_slot? waits)
    rw [assembler]
    exact polled handler count (slot.symm.trans waits)
  · exact .of_slot? (slot?_deliverReplies _ _) (by simp)

theorem regroups_upgraded (e : Endpoint H) (result : Outcome) :
    Regroups none e (e.upgraded result).1 := by
  have dropped : Regroups none e (if result.isOk then e.dropInput else e) := by
    split
    · exact fun handler count waits => .inr ⟨rfl, waits, rfl, Nat.zero_le _⟩
    · exact .of_keeps (.refl e)
  unfold upgraded
  dsimp only
  split
  · exact fun handler count waits => dropped handler count waits
  · exact fun handler count waits => dropped handler count waits

theorem regroups_connected (e : Endpoint H) (t : Transport) :
    Regroups none e (e.connected t) := by
  cases hp : e.conn.phase with
  | connecting greeting =>
    have waits : (e.connected t).conn.phase.slot? = some (.greeting greeting) := by
      rw [connected_of_connecting t hp]
      rfl
    exact .of_slot? waits (by simp)
  | _ =>
    have conn := conn_connected_of_not_connecting (e := e) t
      (by simp [Connection.state, hp, Phase.state])
    exact .of_keeps (.of_conn conn)

theorem regroups_returnToPool (e : Endpoint H) : Regroups none e e.returnToPool.1 := by
  rcases e.returnToPool_cases with ⟨-, effects, -⟩ | ⟨-, -, given⟩
  · exact .of_keeps effects.keeps_of_quiet
  · rw [given]
    exact .of_slot? (slot?_setSlot_none e) (by simp)

theorem regroups_runTasks (sound : e.Sound) : Regroups none e e.runTasks.1 := by
  unfold runTasks
  split
  · exact .of_keeps (.refl e)
  · next task rest oldest =>
    have taken : Effect false e { e with conn := { e.conn with scheduled := rest } } :=
      .unschedule oldest
    have keeps := taken.keeps_of_quiet
    dsimp only
    split
    · exact .of_keeps keeps
    · -- the graceful close waits for a single reply, or there is no socket
      unfold runClose
      dsimp only
      split
      · exact .of_keeps (keeps.trans (.of_conn rfl))
      · split
        · exact .of_gone (isLive_shutdown _)
        · next open' =>
          simp only [Bool.or_eq_true, Bool.not_eq_true', not_or, Bool.not_eq_true,
            Bool.not_eq_false] at open'
          have began : Effect false _ (({ e with conn := { e.conn with scheduled := rest } } :
            Endpoint H).remark .shuttingDown).beginQuit := .beginQuit open'.1 open'.2
          refine regroups_writeWith (began.sound ?_) "QUIT" none (by simp)
          exact (taken.sound sound).of_same rfl rfl rfl

theorem regroups_perform (sound : e.Sound) (operation : Operation H) :
    Regroups operation.request? e (e.perform operation).1 := by
  cases operation with
  | dial config greeting onError => exact .of_gone rfl
  | connected t => exact regroups_connected e t
  | input data =>
    show Regroups none e (e.input data).1
    unfold input
    split
    · exact fun handler count waits => .inr ⟨rfl, waits, rfl, Nat.le_max_right _ _⟩
    · exact .of_keeps (.of_conn rfl)
  | upgraded result => exact regroups_upgraded e result
  | fault err => exact .of_keeps (keeps_fault e err)
  | closed => exact .of_keeps (keeps_closed e)
  | write text mask handler => exact regroups_writeWith sound text mask (by simp)
  | writeCommands commands handler => exact regroups_writeCommands sound commands handler
  | returnToPool => exact regroups_returnToPool e
  | _ => exact .of_keeps (effects_perform_of_quiet e rfl).keeps_of_quiet

/-- The late reset of the size of a batch leaves a group its share exactly if the group is of
one command. -/
theorem apportioned_expectOne_iff (apportioned : e.Apportioned) :
    (e.expect 1).Apportioned ↔ ¬ e.Skews .expectOne := by
  constructor
  · intro after skews
    cases skews with
    | expectOne waits several => exact several (after _ _ waits).1.symm
  · intro fits handler count waits
    by_cases one : count = 1
    · subst one
      exact ⟨rfl, (apportioned handler 1 waits).2⟩
    · exact absurd (.expectOne waits one) fits

/-- A group that is written gets its share exactly if no more replies are complete than it has
commands. -/
theorem apportioned_writeCommands_iff (sound : e.Sound) (apportioned : e.Apportioned)
    (commands : List String) (handler : H) : (e.writeCommands commands handler).1.Apportioned ↔
      ¬ e.Skews (.perform (.writeCommands commands handler)) := by
  cases ne : commands.isEmpty with
  | true =>
    unfold writeCommands
    rw [if_pos ne]
    refine iff_of_true ?_ ?_
    · intro h count waits
      obtain ⟨-, assembler, slot⟩ :=
        (effects_deliverError e _).keeps_of_quiet (isLive_of_slot? waits)
      rw [assembler]
      exact apportioned h count (slot.symm.trans waits)
    · intro skews
      cases skews with
      | writeCommands ne' => exact absurd (ne.symm.trans ne') (by simp)
  | false =>
    have positive : 1 ≤ commands.length := by
      rw [← Bool.not_eq_true, List.isEmpty_iff, ← List.length_eq_zero_iff] at ne
      omega
    have expecting : (e.expect commands.length).Sound := sound.of_same rfl rfl rfl
    have accepts : (e.expect commands.length).accepts ("\r\n".intercalate commands) =
        e.accepts ("\r\n".intercalate commands) := accepts_of_same rfl rfl _
    rw [fst_writeCommands ne]
    by_cases stays : e.conn.isLive = true ∧
        (e.conn.isIdle = true ∨ e.accepts ("\r\n".intercalate commands) = true)
    · obtain ⟨live, stays⟩ := stays
      have conn := conn_writeWith expecting live (accepts ▸ stays) none
        (.replies handler commands.length)
      have slot : ((e.expect commands.length).writeWith ("\r\n".intercalate commands) none
          (.replies handler commands.length)).1.1.conn.phase.slot? =
          some (.replies handler commands.length) := by
        rw [conn]
        exact slot?_setSlot_of_live (e := e.expect commands.length) live _
      constructor
      · intro after skews
        cases skews with
        | writeCommands _ _ _ more =>
          have share := (after _ _ slot).2
          rw [conn] at share
          exact absurd share (Nat.not_le.mpr more)
      · intro fits h count waits
        obtain ⟨rfl, rfl⟩ := ReplyHandler.replies.inj (Option.some.inj (slot.symm.trans waits))
        rw [conn]
        refine ⟨Nat.max_eq_left positive, Nat.le_of_not_lt fun more => fits ?_⟩
        exact .writeCommands ne live stays more
    · have gone : ((e.expect commands.length).writeWith ("\r\n".intercalate commands) none
          (.replies handler commands.length)).1.1.conn.isLive = false := by
        refine isLive_writeWith expecting (fun live => ?_) none _
        rw [accepts]
        have refused := not_and.mp stays live
        rwa [not_or, Bool.not_eq_true, Bool.not_eq_true] at refused
      refine iff_of_true ?_ ?_
      · intro h count waits
        exact absurd ((slot?_of_gone gone).symm.trans waits) (by simp)
      · intro skews
        cases skews with
        | writeCommands _ live stays' => exact stays ⟨live, stays'⟩

/-- Work that asks for no group leaves a group that waits its share. -/
theorem Regroups.apportioned (regroups : Regroups asked e e') (apportioned : e.Apportioned)
    (single : ∀ handler count, asked ≠ some (.replies handler count)) : e'.Apportioned := by
  intro handler count waits
  rcases regroups handler count waits with asks | ⟨-, before, expected, completed⟩
  · exact absurd asks (single handler count)
  · obtain ⟨size, few⟩ := apportioned handler count before
    omega

/-- **Work leaves a group that waits its share exactly if it does not skew it.** -/
theorem apportioned_resume_iff (sound : e.Sound) (apportioned : e.Apportioned) (w : Work H) :
    (e.resume w).1.Apportioned ↔ ¬ e.Skews w := by
  cases w with
  | call handler notice => exact iff_of_true apportioned fun skews => by cases skews
  | perform operation =>
    have regroups := regroups_perform sound operation
    cases operation with
    | writeCommands commands handler =>
      exact apportioned_writeCommands_iff sound apportioned commands handler
    | _ =>
      refine iff_of_true ?_ fun skews => by cases skews
      exact regroups.apportioned apportioned (by simp [Operation.request?])
  | dispatch =>
    refine iff_of_true ?_ fun skews => by cases skews
    exact (regroups_dispatch e).apportioned apportioned (by simp)
  | sendDeferred deferred =>
    have keeps := (effects_writeLine e deferred.line).keeps_of_quiet
    refine iff_of_true ?_ fun skews => by cases skews
    exact (Regroups.of_keeps keeps).apportioned apportioned (by simp)
  | expectOne => exact apportioned_expectOne_iff apportioned
  | runTasks =>
    refine iff_of_true ?_ fun skews => by cases skews
    exact (regroups_runTasks sound).apportioned apportioned (by simp)

/-- Who is in the slot as a group after a piece of work was there before, or asks with it. -/
theorem slot?_resume (sound : e.Sound) (w : Work H) {handler : H} {count : Nat}
    (waits : (e.resume w).1.conn.phase.slot? = some (.replies handler count)) :
    w.request? = some (.replies handler count) ∨
      w.request? = none ∧ e.conn.phase.slot? = some (.replies handler count) := by
  have of_regroups {asked : Option (ReplyHandler H)} (h : Regroups asked e (e.resume w).1) :
      asked = some (.replies handler count) ∨
        asked = none ∧ e.conn.phase.slot? = some (.replies handler count) :=
    (h handler count waits).imp_right fun before => ⟨before.1, before.2.1⟩
  cases w with
  | call handler notice => exact .inr ⟨rfl, waits⟩
  | perform operation => exact of_regroups (regroups_perform sound operation)
  | dispatch => exact of_regroups (regroups_dispatch e)
  | sendDeferred deferred =>
    exact of_regroups (.of_keeps (effects_writeLine e deferred.line).keeps_of_quiet)
  | expectOne => exact .inr ⟨rfl, waits⟩
  | runTasks => exact of_regroups (regroups_runTasks sound)

/-- A handler is called with a list of replies if it waits as a group, and they were just handed
out as a batch. -/
theorem group_of_mem_resume {w : Work H} {handler : H} {batch : List Reply}
    (mem : .call handler (.replies batch) ∈ (e.resume w).2) : w.request? = none ∧
      (∃ count, e.conn.phase.slot? = some (.replies handler count)) ∧
      e.conn.assembler.poll.2 = some (.ok batch) := by
  cases w with
  | call handler notice => exact absurd mem (by simp [resume, done])
  | perform operation =>
    exact absurd ((leaves_perform e operation).replies_of_isReplyCall mem rfl) (by simp)
  | dispatch =>
    refine ⟨rfl, ?_⟩
    replace mem : .call handler (.replies batch) ∈ e.dispatch.2 := mem
    unfold dispatch at mem
    dsimp only at mem
    split at mem
    · exact absurd mem (by simp [done])
    · exact absurd ((leaves_fault _ _).replies_of_isReplyCall mem rfl) (by simp)
    · next polled =>
      rw [polled]
      unfold deliverReplies at mem
      dsimp only at mem
      split at mem
      · exact absurd mem (by simp [done])
      · next slot =>
        obtain ⟨rfl, rfl⟩ : handler = _ ∧ batch = _ := by simpa using mem
        exact ⟨⟨_, slot⟩, rfl⟩
      · split at mem <;> exact absurd mem (by simp [done])
      · split at mem <;> exact absurd mem (by simp [done])
      · split at mem <;> exact absurd mem (by simp [done])
  | sendDeferred deferred => exact absurd mem (by simp [resume, sendDeferred])
  | expectOne => exact absurd mem (by simp [resume, done])
  | runTasks => exact absurd ((leaves_runTasks e).replies_of_isReplyCall mem rfl) (by simp)

end Endpoint

/-! ### Runs -/

namespace Machine

variable {admitted : Operation H → Prop} {m n : Machine H} {label : Label H}
  {labels : List (Label H)}

/-- The work of the move with this label skews the share of a group. -/
def Skews (m : Machine H) (label : Label H) : Prop :=
  ∃ w frames, Due m label w frames ∧ m.endpoint.Skews w

/-- The request that a run has made last. -/
def Latest (labels : List (Label H)) (request : ReplyHandler H) : Prop :=
  ∃ before label after, labels = before ++ label :: after ∧ label.request? = some request ∧
    ∀ later ∈ after, later.request? = none

theorem Latest.snoc {request : ReplyHandler H} (latest : Latest labels request)
    (silent : label.request? = none) : Latest (labels ++ [label]) request := by
  obtain ⟨before, asks, after, rfl, asked, none⟩ := latest
  refine ⟨before, asks, after ++ [label], by simp, asked, ?_⟩
  exact List.forall_mem_append.mpr ⟨none, List.forall_mem_singleton.mpr silent⟩

theorem latest_snoc {request : ReplyHandler H} (asks : label.request? = some request) :
    Latest (labels ++ [label]) request := ⟨labels, label, [], rfl, asks, by simp⟩

/-- The request of a group tells how many commands it has. -/
theorem Latest.exists_group {handler : H} {count : Nat}
    (latest : Latest labels (.replies handler count)) : ∃ before commands after,
      labels = before ++ .operate (.writeCommands commands handler) :: after ∧
      commands.length = count ∧ ∀ later ∈ after, later.request? = none := by
  obtain ⟨before, asks, after, rfl, asked, none⟩ := latest
  cases asks with
  | operate operation =>
    cases operation with
    | writeCommands commands own =>
      rw [Label.request?, Operation.request?] at asked
      split at asked
      · exact absurd asked (by simp)
      · obtain ⟨rfl, length⟩ := ReplyHandler.replies.inj (Option.some.inj asked)
        exact ⟨before, commands, after, rfl, length, none⟩
    | _ => exact absurd asked (by simp [Label.request?, Operation.request?])
  | _ => exact absurd asked (by simp [Label.request?])

/-- Groups that wait get their share: the group in the slot is the request made last, and who is
about to be called with replies has asked for so many. -/
structure Allotted (labels : List (Label H)) (m : Machine H) : Prop where
  /-- A group that waits gets as many replies as it has commands. -/
  apportioned : m.endpoint.Apportioned
  /-- The group that waits is the request made last. -/
  slot : ∀ handler count, m.endpoint.conn.phase.slot? = some (.replies handler count) →
    Latest labels (.replies handler count)
  /-- Who is about to be called has made the last request, for as many replies. -/
  due : ∀ handler batch, .work (.call handler (.replies batch)) ∈ m.frames →
    Latest labels (.replies handler batch.length)

/-- A move leaves a group that waits its share exactly if it does not skew it. -/
theorem apportioned_move_iff (sound : m.endpoint.Sound) (apportioned : m.endpoint.Apportioned)
    (move : Move admitted m label n) : n.endpoint.Apportioned ↔ ¬ m.Skews label :=
  move.keeps_iff (Endpoint.apportioned_resume_iff sound apportioned)
    (fun conn handler count waits => by
      rw [conn] at waits ⊢
      exact apportioned handler count waits)

/-- Of the moves only operations ask for replies. -/
theorem Due.request?_eq {w : Work H} {frames : List (Frame H)} (due : Due m label w frames)
    (tidy : m.Tidy) : label.request? = w.request? := by
  cases due with
  | @work e w frames noCall =>
    have inner : w.isPerform = false := tidy.no_perform w List.mem_cons_self
    cases w with
    | perform operation => exact absurd inner (by simp [Work.isPerform])
    | _ => rfl
  | operate => rfl

/-- What a move leaves for a group: the group in the slot has made the last request. -/
theorem latest_of_slot? (run : Run Operation.Any initial labels m) (allotted : Allotted labels m)
    (move : Move Operation.Any m label n) {handler : H} {count : Nat}
    (waits : n.endpoint.conn.phase.slot? = some (.replies handler count)) :
    Latest (labels ++ [label]) (.replies handler count) := by
  cases move.turn with
  | @work _ _ w frames due =>
    have same := due.request?_eq (tidy_of_run run)
    rcases Endpoint.slot?_resume (sound_of_run run) w waits with asks | ⟨silent, before⟩
    · exact latest_snoc (same.trans asks)
    · exact (allotted.slot handler count before).snoc (same.trans silent)
  | call => exact (allotted.slot handler count waits).snoc rfl
  | leave => exact (allotted.slot handler count waits).snoc rfl
  | outside outside =>
    rw [outside.conn_eq] at waits
    exact (allotted.slot handler count waits).snoc rfl

/-- Who is about to be called after a move has made the last request. -/
theorem latest_of_due (run : Run Operation.Any initial labels m) (allotted : Allotted labels m)
    (move : Move Operation.Any m label n) {handler : H} {batch : List Reply}
    (due : .work (.call handler (.replies batch)) ∈ n.frames) :
    Latest (labels ++ [label]) (.replies handler batch.length) := by
  have tidy := tidy_of_run run
  cases move.turn with
  | @work _ _ w frames does =>
    simp only [after, List.mem_append, List.mem_map, Frame.work.injEq, exists_eq_right] at due
    rcases due with left | below
    · -- the batch has just been handed out, to the group in the slot
      obtain ⟨silent, ⟨count, waits⟩, polled⟩ := Endpoint.group_of_mem_resume left
      obtain ⟨size, few⟩ := allotted.apportioned handler count waits
      have length := Assembler.length_of_poll polled
      have share : batch.length = count := by omega
      rw [share]
      exact (allotted.slot handler count waits).snoc ((does.request?_eq tidy).trans silent)
    · exact absurd ((does.frames_of_mem below).2 tidy) (by simp [Work.isCall])
  | call => exact (allotted.due _ _ (List.mem_cons_of_mem _ (by simpa using due))).snoc rfl
  | leave => exact (allotted.due _ _ (List.mem_cons_of_mem _ due)).snoc rfl
  | outside => exact (allotted.due _ _ due).snoc rfl

/-- In a run that skews no share, groups that wait get theirs all the time. -/
theorem allotted_of_runBy (run : RunBy (fun _ k label => ¬ k.Skews label) initial labels m) :
    Allotted labels m := by
  induction run with
  | nil =>
    refine ⟨fun handler count waits => ?_, fun handler count waits => ?_, by simp [initial]⟩
    · exact absurd waits (by simp [initial, Phase.slot?])
    · exact absurd waits (by simp [initial, Phase.slot?])
  | snoc run move fits ih =>
    have share := apportioned_move_iff (sound_of_run run.run) ih.apportioned move
    exact ⟨share.mpr fits, fun handler count => latest_of_slot? run.run ih move,
      fun handler batch => latest_of_due run.run ih move⟩

/-- In a run that skews no share, a handler that is called with a list of replies has made the
last request, and gets a reply for each command. -/
theorem latest_of_call (run : RunBy (fun _ k label => ¬ k.Skews label) initial labels m)
    {past rest : List (Label H)} {handler : H} {batch : List Reply}
    (calls : labels = past ++ .call handler (.replies batch) :: rest) :
    Latest past (.replies handler batch.length) := by
  induction run generalizing rest with
  | nil => exact absurd calls (by simp)
  | @snoc k n labels label run move fits ih =>
    cases rest using List.reverseRecOn with
    | nil =>
      -- the call is the last move, so it was due before
      obtain ⟨rfl, last⟩ := List.append_inj' calls rfl
      obtain rfl := (List.cons.inj last).1
      cases move with
      | call => exact (allotted_of_runBy run).due handler batch List.mem_cons_self
    | append_singleton rest last =>
      rw [← List.cons_append, ← List.append_assoc] at calls
      exact ih (List.append_inj' calls rfl).1

/-- The size of a batch is set back next. -/
def setsBack (m : Machine H) : Bool :=
  match m.frames with
  | .work .expectOne :: _ => true
  | _ => false

/-- Skewing takes replies that lie there complete, or the late reset of the size of a batch. -/
theorem Skews.cause (skews : m.Skews label) :
    m.endpoint.conn.assembler.completed.isEmpty = false ∨ m.setsBack = true := by
  obtain ⟨w, frames, due, skews⟩ := skews
  cases skews with
  | writeCommands ne live stays more =>
    left
    rw [List.isEmpty_eq_false_iff]
    exact List.ne_nil_of_length_pos (Nat.zero_lt_of_lt more)
  | expectOne waits several =>
    right
    cases due
    rfl

/-- **Batches have the size that is asked for** exactly if no more replies are complete at the
poll, so in every script that does not undercut the replies that are complete.  In every run that
skews no share the handlers of groups are called with one reply for each command, and the first
move that skews it takes the share away. -/
theorem batches_as_asked :
    (∀ (steps : List AssemblerStep) (batch : List Reply),
      (AssemblerScript.after {} steps).poll.2 = some (.ok batch) →
      (batch.length = (AssemblerScript.after {} steps).expected ↔
        (AssemblerScript.after {} steps).completed.length ≤
          (AssemblerScript.after {} steps).expected) ∧
      (¬ AssemblerScript.Undercuts {} steps →
        batch.length = (AssemblerScript.after {} steps).expected)) ∧
    (∀ (labels : List (Label H)) (m : Machine H),
      RunBy (fun _ k label => ¬ k.Skews label) initial labels m →
      (∀ past handler batch rest, labels = past ++ .call handler (.replies batch) :: rest →
        ∃ before commands after,
          past = before ++ .operate (.writeCommands commands handler) :: after ∧
          commands.length = batch.length ∧ ∀ later ∈ after, later.request? = none) ∧
      ∀ label n, Move Operation.Any m label n → (n.endpoint.Apportioned ↔ ¬ m.Skews label)) := by
  constructor
  · intro steps batch polled
    have iff := AssemblerScript.length_of_poll_iff polled
    refine ⟨iff, fun fair => iff.mpr ?_⟩
    exact AssemblerScript.fits_after (Nat.zero_le _) fair
  · intro labels m run
    constructor
    · intro past handler batch rest calls
      exact (latest_of_call run calls).exists_group
    · intro label n move
      exact apportioned_move_iff (sound_of_run run.run) (allotted_of_runBy run).apportioned move

/-- Two replies are complete while three are waited for, and then two are enough. -/
def twoComplete : List AssemblerStep :=
  [.expect 3, .feed [50, 53, 48, 10, 50, 53, 48, 10], .poll, .expect 2]

/-- A group of two commands is written, and both are answered. -/
def groupAnswered : List (Choice Nat) :=
  [.operate (.dial (Config.build "mail" []) 0 1), .operate (.connected (.manual {})),
    .operate (.writeCommands ["RSET", "NOOP"] 2),
    .operate (.input [50, 53, 48, 32, 97, 10, 50, 53, 48, 32, 98, 10]), .proceed, .proceed]

/-- Two replies are complete when two are waited for, and come in one batch; and a group of two is
told two replies. -/
theorem group_told_each :
    (∃ batch, (AssemblerScript.after {} twoComplete).poll.2 = some (.ok batch) ∧
      batch.length = 2) ∧
    ∃ before commands after, (initial.play (groupAnswered.take 5)).1 =
        before ++ .operate (.writeCommands commands 2) :: after ∧
      commands.length = 2 ∧ ∀ later ∈ after, later.request? = none := by
  constructor
  · refine ⟨_, rfl, ?_⟩
    exact ((batches_as_asked (H := Nat)).1 twoComplete _ rfl).2 (by decide)
  · have keeps : PlaysBy (fun _ k label => ¬ k.Skews label) [] initial groupAnswered := by
      refine ⟨?_, ?_, ?_, ?_, ?_, ?_, trivial⟩
      all_goals
        intro skews
        rcases skews.cause with some | back
        · exact absurd some (by decide)
        · exact absurd back (by decide)
    have run := runBy_play groupAnswered .nil keeps
    exact ((batches_as_asked (H := Nat)).2 _ _ run).1 (initial.play (groupAnswered.take 5)).1 2
      [⟨⟨250⟩, ["a"]⟩, ⟨⟨250⟩, ["b"]⟩] [] rfl

/-- A group of three commands has two replies when a group of one takes its place. -/
def groupReplaced : List (Choice Nat) :=
  [.operate (.dial (Config.build "mail" []) 0 1), .operate (.connected (.manual {})),
    .operate (.writeCommands ["RSET", "NOOP", "HELP"] 2),
    .operate (.input [50, 53, 48, 32, 97, 10, 50, 53, 48, 32, 98, 10]), .proceed,
    .operate (.writeCommands ["HELP"] 3), .operate (.input []), .proceed, .proceed]

/-- **Not every batch has the size that is asked for**: two replies are handed out where one is
waited for, and a group of one command is told both. -/
theorem batch_oversized :
    (∃ batch, (AssemblerScript.after {} (twoComplete ++ [.expect 1])).poll.2 = some (.ok batch) ∧
      (AssemblerScript.after {} (twoComplete ++ [.expect 1])).expected = 1 ∧ batch.length = 2) ∧
    ∃ (labels : List (Label Nat)) (m : Machine Nat) (before after : List (Label Nat))
      (batch : List Reply), Run Operation.Any initial labels m ∧
      labels = before ++ .operate (.writeCommands ["HELP"] 3) ::
        (after ++ [.call 3 (.replies batch)]) ∧ batch.length = 2 :=
  ⟨⟨_, rfl, rfl, rfl⟩, _, _, (initial.play (groupReplaced.take 5)).1,
    [.operate (.input []), .work],
    [⟨⟨250⟩, ["a"]⟩, ⟨⟨250⟩, ["b"]⟩], run_play initial groupReplaced, rfl, rfl⟩

end Machine

end SmtpLink
