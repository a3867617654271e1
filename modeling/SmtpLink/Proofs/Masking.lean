import SmtpLink.Connection.Operation
import SmtpLink.Proofs.BytePositions

/-!
# Masked commands

A command is logged with its secrets masked and at a bounded length.  Both are counted in
characters, although a text is cut at a position in bytes: masking may change how many bytes stand
before a character, and the position is that of the masked text.  What is masked makes no
difference to the log.

## Main definitions

* `shownAt` — what the log shows of a character at a place.
* `redactByBytes` — the loggable form of a command, cut at a position in bytes.
* `Endpoint.log` — what stands in the log.

## Main results

* `toList_redact` — **the log shows the first thousand characters, masked from a place on**, and
  three dots if there are more.
* `redactByBytes_eq` — the cut is possible, and behind a thousand characters.
* `masked_text_not_logged` — **what is masked never reaches the log.**
-/

namespace SmtpLink

variable {H : Type} {text : List Char} {n : Nat}

/-! ### What is shown -/

/-- What the log shows of a character at a place, if all are masked from `start` on. -/
def shownAt (start : Option Nat) (i : Nat) (c : Char) : Char :=
  if start.any (· ≤ i) then '*' else c

/-- Masking replaces each character from a place on. -/
theorem maskFrom_eq (n : Nat) (text : List Char) :
    maskFrom n text = text.mapIdx (shownAt (some n)) := by
  apply List.ext_getElem?
  intro i
  rw [maskFrom, List.getElem?_append, List.length_take, List.getElem?_mapIdx]
  by_cases before : i < n
  · have plain : shownAt (some n) i = id := by
      funext c
      simp [shownAt, Nat.not_le.mpr before]
    by_cases inside : i < text.length
    · rw [if_pos (by omega), List.getElem?_take, if_pos before, plain, Option.map_id, id]
    · rw [if_neg (by omega), List.getElem?_replicate, if_neg (by omega),
        List.getElem?_eq_none (by omega)]
      rfl
  · have hidden (c : Char) : shownAt (some n) i c = '*' := by
      simp [shownAt, Nat.le_of_not_lt before]
    by_cases inside : i < text.length
    · rw [if_neg (by omega), List.getElem?_replicate, if_pos (by omega),
        List.getElem?_eq_getElem inside, Option.map_some, hidden]
    · rw [if_neg (by omega), List.getElem?_replicate, if_neg (by omega),
        List.getElem?_eq_none (by omega)]
      rfl

/-- Without a mask all is shown. -/
theorem mapIdx_shownAt_none (text : List Char) : text.mapIdx (shownAt none) = text := by
  apply List.ext_getElem?
  intro i
  rw [List.getElem?_mapIdx]
  cases text[i]? <;> rfl

/-- A text is cut behind a thousand characters, and dots stand for the others. -/
theorem shorten_eq (text : List Char) : shorten text =
    text.take 1000 ++ if 1000 < text.length then "...".toList else [] := by
  rw [shorten]
  by_cases long : maxLoggedLength < text.length
  · rw [if_pos long, if_pos (by exact long)]
    rfl
  · rw [if_neg long, if_neg (by exact long), List.append_nil]
    exact (List.take_of_length_le (Nat.not_lt.mp long)).symm

theorem take_mapIdx (f : Nat → Char → Char) (n : Nat) (text : List Char) :
    (text.mapIdx f).take n = (text.take n).mapIdx f := by
  apply List.ext_getElem?
  intro i
  rw [List.getElem?_take, List.getElem?_mapIdx, List.getElem?_mapIdx, List.getElem?_take]
  split <;> rfl

theorem redact_eq (text : String) (start : Option Nat) :
    redact text start = String.ofList (shorten (text.toList.mapIdx (shownAt start))) := by
  cases start with
  | none =>
    rw [mapIdx_shownAt_none]
    rfl
  | some n =>
    rw [← maskFrom_eq]
    rfl

/-- **The log shows the first thousand characters of a command, masked from a place on**, and three
dots exactly if there are more. -/
theorem toList_redact (text : String) (start : Option Nat) :
    (redact text start).toList = (text.toList.take 1000).mapIdx (shownAt start) ++
      if 1000 < text.toList.length then "...".toList else [] := by
  rw [redact_eq, String.toList_ofList, shorten_eq, take_mapIdx, List.length_mapIdx]

/-- Texts of one length that agree before the mask are shown alike. -/
theorem redact_eq_of_agree {s t : String} (length : s.toList.length = t.toList.length)
    (agree : s.toList.take n = t.toList.take n) : redact s (some n) = redact t (some n) := by
  have masked : maskFrom n s.toList = maskFrom n t.toList := by
    rw [maskFrom, maskFrom, agree, length]
  rw [redact_eq, redact_eq, ← maskFrom_eq, ← maskFrom_eq, masked]

/-! ### The cut in bytes -/

/-- The loggable form of a command, cut at the position in bytes at which the first character begins
that is too much.  There is none if the text cannot be cut there. -/
def redactByBytes (text : String) (start : Option Nat) : Option String :=
  let masked := text.toList.mapIdx (shownAt start)
  match (Text.charIndices 0 masked)[maxLoggedLength]? with
  | none => some (String.ofList masked)
  | some (position, _) => (Text.cutAtByte? position masked).map fun (front, _) =>
      String.ofList (front ++ "...".toList)

/-- **The cut is possible**, and behind a thousand characters. -/
theorem redactByBytes_eq (text : String) (start : Option Nat) :
    redactByBytes text start = some (redact text start) := by
  rw [redactByBytes, redact_eq]
  dsimp only
  generalize text.toList.mapIdx (shownAt start) = masked
  cases found : (Text.charIndices 0 masked)[maxLoggedLength]? with
  | none =>
    rw [Text.getElem?_charIndices, Option.map_eq_none_iff, List.getElem?_eq_none_iff] at found
    rw [shorten, if_neg (Nat.not_lt.mpr found)]
  | some entry =>
    obtain ⟨position, c⟩ := entry
    have long : maxLoggedLength < masked.length := by
      rw [Text.getElem?_charIndices, Option.map_eq_some_iff] at found
      obtain ⟨d, there, -⟩ := found
      exact (List.getElem?_eq_some_iff.mp there).1
    dsimp only
    rw [Text.cutAtByte?_of_charIndices found, shorten, if_pos long]
    rfl

/-! ### The log -/

namespace Endpoint

variable {e : Endpoint H} {s t : String} {mask : Option Nat}

/-- What stands in the log. -/
def log (e : Endpoint H) : List Remark :=
  e.trace.filterMap fun
    | .remark r => some r
    | _ => none

/-- Whether a transport takes bytes does not depend on them, nor does its refusal. -/
theorem write_cases (t : Transport) (data data' : Bytes) :
    (∃ u u', t.write data = .ok u ∧ t.write data' = .ok u') ∨
      ∃ err, t.write data = .error err ∧ t.write data' = .error err := by
  cases t with
  | manual switches =>
    rw [Transport.write, Transport.write]
    cases switches.failWrites with
    | none => exact .inl ⟨_, _, rfl, rfl⟩
    | some err => exact .inr ⟨err, rfl, rfl⟩
  | channel c =>
    rw [Transport.write, Transport.write, Channel.write, Channel.write]
    cases c.closed || c.receiverGone with
    | true => exact .inr ⟨_, rfl, rfl⟩
    | false => exact .inl ⟨_, _, rfl, rfl⟩

/-- Other bytes meet the same refusal, or are taken and leave the same log. -/
theorem sendBytes_cases (e : Endpoint H) (id : TransportId) (data data' : Bytes) :
    e.sendBytes id data = e.sendBytes id data' ∨
      ∃ a b : Endpoint H, e.sendBytes id data = (a, .ok ()) ∧ e.sendBytes id data' = (b, .ok ()) ∧
        a.log = b.log := by
  rw [sendBytes, sendBytes]
  cases e.transports[id]? with
  | none => exact .inl rfl
  | some t =>
    dsimp only
    rcases write_cases t data data' with ⟨u, u', taken, taken'⟩ | ⟨err, refused, refused'⟩
    · rw [taken, taken']
      refine .inr ⟨_, _, rfl, rfl, ?_⟩
      simp only [log, trace_emit, List.filterMap_append]
      rfl
    · rw [refused, refused']
      exact .inl rfl

/-- Commands with the same loggable form leave the same log. -/
theorem log_write (same : redact s mask = redact t mask) (handler : H) :
    (e.write s mask handler).1.log = (e.write t mask handler).1.log := by
  rw [write, write, writeWith, writeWith]
  cases e.conn.peerClosed with
  | true => rfl
  | false =>
    rw [if_neg (by simp), if_neg (by simp)]
    cases e.conn.phase.transport? with
    | none => rfl
    | some id =>
      -- the command is remarked in the same form, and only then is the text handed over
      dsimp only
      rw [same]
      rcases sendBytes_cases ((e.setSlot (some (.reply handler))).remark (.command (redact t mask)))
        id (lineBytes s) (lineBytes t) with equal | ⟨a, b, taken, taken', logs⟩
      · rw [equal]
      · rw [taken, taken']
        exact logs

end Endpoint

/-- **What is masked never reaches the log**: texts of one length that agree before the mask have
the same loggable form, and leave the same log when they are written as commands.  The loggable
form is the beginning of the text, masked from a place on, at whichever positions in bytes its
characters stand. -/
theorem masked_text_not_logged :
    (∀ (text : String) (start : Option Nat), (redact text start).toList =
      (text.toList.take 1000).mapIdx (shownAt start) ++
        if 1000 < text.toList.length then "...".toList else []) ∧
    (∀ (m : Nat) (s t : String), s.toList.length = t.toList.length →
      s.toList.take m = t.toList.take m →
      redact s (some m) = redact t (some m) ∧
      ∀ (e : Endpoint H) (handler : H),
        (e.write s (some m) handler).1.log = (e.write t (some m) handler).1.log) ∧
    (∀ (text : String) (start : Option Nat),
      redactByBytes text start = some (redact text start)) := by
  refine ⟨toList_redact, ?_, redactByBytes_eq⟩
  intro m s t length agree
  have same := redact_eq_of_agree length agree
  exact ⟨same, fun e handler => Endpoint.log_write same handler⟩

/-- Two secrets of one length, with letters of one and of two bytes, are logged alike. -/
theorem secrets_logged_alike :
    redact "AUTH PLAIN geheim" (some 11) = redact "AUTH PLAIN öffnen" (some 11) ∧
    redact "AUTH PLAIN geheim" (some 11) = "AUTH PLAIN ******" := by
  have logged := masked_text_not_logged (H := Unit)
  have alike := logged.2.1 11 "AUTH PLAIN geheim" "AUTH PLAIN öffnen" (by decide) (by decide)
  refine ⟨alike.1, String.toList_inj.mp ?_⟩
  rw [logged.1]
  decide

end SmtpLink
