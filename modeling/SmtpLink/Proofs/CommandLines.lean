import SmtpLink.Proofs.Correlation
import SmtpLink.Proofs.Refusals

/-!
# Commands on the wire

In a serial exchange the answers of the server are counted by the commands that were issued.  The
server counts lines.  Both come to the same: a command goes over the wire as a line, and a group as
a line for each of its commands, all in the order in which they were issued.  So as many answers are
asked for as lines are sent, and one for the greeting, which nobody asks for.

## Main definitions

* `Operation.commands`, `Machine.commands` — the commands that an operation, and a run, issues.
* `Label.parcel?` — what a move with commands hands over to the transport.

## Main results

* `Endpoint.lineBytes_intercalate` — a group goes over the wire as its commands, a line for each.
* `Machine.total_requests` — as many answers are asked for as commands are issued, and a greeting.
* `Machine.written_of_serial` — a move sends its commands, or a line that no reply answers.
* `Machine.commands_on_wire` — **the server gets a line for each answer that it is asked for.**
-/

namespace SmtpLink

variable {H : Type}

namespace Endpoint

variable {e : Endpoint H}

theorem lineBytes_append_break (line rest : String) :
    lineBytes (line ++ "\r\n" ++ rest) = lineBytes line ++ lineBytes rest := by
  have ends : String.utf8EncodeChar '\r' ++ String.utf8EncodeChar '\n' = [13, 10] := by decide
  simp [lineBytes, Utf8.encode, String.toList_append, ← ends]

/-- A group goes over the wire as its commands, a line for each. -/
theorem lineBytes_intercalate {commands : List String} (ne : commands ≠ []) :
    lineBytes ("\r\n".intercalate commands) = commands.flatMap lineBytes := by
  obtain ⟨first, commands, rfl⟩ := List.exists_cons_of_ne_nil ne
  clear ne
  induction commands generalizing first with
  | nil => simp
  | cons second commands ih =>
    rw [String.intercalate_cons_cons, lineBytes_append_break, ih]
    rfl

/-- What the transport takes is not refused. -/
theorem refusal?_of_accepts {text : String} (peer : e.conn.peerClosed = false)
    (taken : e.accepts text = true) : e.refusal? text = none := by
  unfold accepts at taken
  rw [refusal?, if_neg (by simp [peer])]
  split at taken
  · next t found =>
    rw [found]
    dsimp only
    cases wrote : t.write (lineBytes text) with
    | ok t' => rfl
    | error err => simp [wrote, Except.isOk, Except.toBool] at taken
  · exact absurd taken Bool.false_ne_true

end Endpoint

/-- The commands that an operation issues. -/
def Operation.commands : Operation H → List String
  | .write text _ _ => [text]
  | .writeCommands commands _ => commands
  | _ => []

/-- What an operation writes are its commands, one after the other. -/
theorem Operation.command?_of_commands {operation : Operation H} (ne : operation.commands ≠ []) :
    operation.command? = some ("\r\n".intercalate operation.commands) := by
  cases operation with
  | write text mask handler => simp [command?, commands]
  | writeCommands commands handler => simpa [command?, Operation.commands] using ne
  | _ => exact absurd rfl ne

namespace Label

/-- The commands that a move issues. -/
def commands : Label H → List String
  | .operate operation => operation.commands
  | _ => []

/-- What a move that issues commands hands over to the transport: a line for each of them. -/
def parcel? (label : Label H) : Option Bytes :=
  if label.commands.isEmpty then none else some (label.commands.flatMap Endpoint.lineBytes)

/-- A move asks for as many answers as it issues commands, and to open asks for the greeting. -/
theorem count_request? (label : Label H) : (label.request?.map ReplyHandler.count).getD 0 =
    label.isDial.toNat + label.commands.length := by
  cases label with
  | operate operation =>
    cases operation with
    | writeCommands commands handler =>
      cases commands with
      | nil => rfl
      | cons first commands => exact (Nat.zero_add _).symm
    | _ => rfl
  | _ => rfl

end Label

namespace Machine

variable {answers : Nat → Block} {labels : List (Label H)} {label : Label H} {m n : Machine H}

/-- The commands that a run issues, oldest first. -/
def commands (labels : List (Label H)) : List String := labels.flatMap Label.commands

/-- As many answers are asked for as commands are issued, and one for the greeting. -/
theorem total_requests (labels : List (Label H)) :
    total (requests labels) = labels.countP Label.isDial + (commands labels).length := by
  induction labels with
  | nil => rfl
  | cons label labels ih =>
    have first : total (requests (label :: labels)) =
        (label.request?.map ReplyHandler.count).getD 0 + total (requests labels) := by
      cases asks : label.request? <;> simp [requests, total, asks]
    have issued : (commands (label :: labels)).length =
        label.commands.length + (commands labels).length := by
      simp [commands]
    rw [first, issued, ih, label.count_request?, List.countP_cons]
    cases label.isDial <;> simp <;> omega

theorem commands_snoc (labels : List (Label H)) (label : Label H) :
    commands (labels ++ [label]) = commands labels ++ label.commands := by
  simp [commands]

/-- What the running code is permitted to issue, the transport takes. -/
theorem accepts_of_permits {e : Endpoint H} {operation : Operation H}
    (permitted : permits answers labels e operation = true) (ne : operation.commands ≠ []) :
    e.accepts ("\r\n".intercalate operation.commands) = true := by
  unfold permits at permitted
  split at permitted <;> simp_all [Operation.commands]

/-- What the running code is permitted to ask for sends its commands, or a line that no reply
answers. -/
theorem written_of_permitted {e : Endpoint H} (sound : e.Sound) {operation : Operation H}
    (permitted : permits answers labels e operation = true) :
    (e.perform operation).1.written = e.written ++ (Label.operate operation).parcel?.toList ∨
    ∃ line, operation = .writeLine line ∧
      (e.perform operation).1.written = e.written ++ [Endpoint.lineBytes line] := by
  by_cases none : operation.commands = []
  · have within := (e.within_resume (.perform operation)).touches
    have silent (same : (e.perform operation).1.written = e.written) :
        (e.perform operation).1.written =
          e.written ++ (Label.operate operation).parcel?.toList := by
      rw [same, Label.parcel?, Label.commands, none]
      exact (List.append_nil _).symm
    cases operation with
    | write text mask handler => exact absurd none (by simp [Operation.commands])
    | writeCommands commands handler =>
      -- a group of no commands is an error
      obtain rfl : commands = [] := none
      exact .inl (silent ((Endpoint.within_deliverError (s := {}) e _).touches.written_eq rfl))
    | writeLine line =>
      rcases within.written with same | ⟨data, own, wrote⟩
      · exact .inl (silent same)
      · obtain rfl : Endpoint.lineBytes line = data := Option.some.inj own
        exact .inr ⟨line, rfl, wrote⟩
    | writeLineWithRoom line handler =>
      unfold permits at permitted
      split at permitted <;> simp_all
    | _ => exact .inl (silent (within.written_eq rfl))
  · have taken := accepts_of_permits permitted none
    obtain ⟨id, held⟩ := Endpoint.held_of_accepts taken
    have peer := sound.peer (Endpoint.isLive_of_held held)
    have wrote := Endpoint.written_perform (Operation.command?_of_commands none)
      (Endpoint.refusal?_of_accepts peer taken)
    rw [Endpoint.lineBytes_intercalate none] at wrote
    left
    rw [wrote, Label.parcel?, Label.commands, if_neg (by simpa using none)]
    rfl

/-- A move of a serial exchange sends its commands, or a line that no reply answers. -/
theorem written_of_serial (run : RunBy (Serial answers) initial labels m)
    (move : Move Operation.Any m label n) (serial : Serial answers labels m label) :
    n.endpoint.written = m.endpoint.written ++ label.parcel?.toList ∨
    ∃ line, label = .operate (.writeLine line) ∧
      n.endpoint.written = m.endpoint.written ++ [Endpoint.lineBytes line] := by
  have sound := sound_of_run run.run
  have course := course_of_run run
  cases move.turn with
  | work due =>
    cases due with
    | @work e w frames noCall =>
      -- the only work that is ever due, calls apart, is to hand out replies
      have serving := course.serving_of_frames (by simp)
      cases serving.stack with
      | tower tower =>
        cases tower with
        | dispatch below =>
          have same := (e.within_resume .dispatch).touches.written_eq rfl
          exact .inl (same.trans (List.append_nil _).symm)
      | call => exact absurd noCall (by simp [Work.isCall])
    | operate =>
      refine (written_of_permitted sound serial).imp_right ?_
      rintro ⟨line, rfl, wrote⟩
      exact ⟨line, rfl, wrote⟩
  | call => exact .inl (List.append_nil _).symm
  | leave => exact .inl (List.append_nil _).symm
  | outside outside =>
    refine .inl ?_
    rw [Endpoint.written, outside.trace_eq]
    exact (List.append_nil _).symm

/-- **The server gets a line for each answer that it is asked for**, the greeting apart, and each
command in the order of issue, as long as no line is written that no reply answers. -/
theorem commands_on_wire (run : RunBy (Serial answers) initial labels m)
    (answered : ∀ line, .operate (.writeLine line) ∉ labels) :
    m.endpoint.written.flatten = (commands labels).flatMap Endpoint.lineBytes ∧
    total (requests labels) = labels.countP Label.isDial + (commands labels).length := by
  refine ⟨?_, total_requests labels⟩
  induction run with
  | nil => rfl
  | @snoc m n labels label run move serial ih =>
    have before : ∀ line, .operate (.writeLine line) ∉ labels := by
      intro line mem
      exact answered line (List.mem_append_left _ mem)
    rcases written_of_serial run move serial with wrote | ⟨line, rfl, -⟩
    · rw [wrote, List.flatten_append, ih before, commands_snoc, List.flatMap_append, Label.parcel?]
      split
      · next none => simp [List.isEmpty_iff.mp none]
      · simp
    · exact absurd (List.mem_append_right labels List.mem_cons_self) (answered line)

end Machine

end SmtpLink
