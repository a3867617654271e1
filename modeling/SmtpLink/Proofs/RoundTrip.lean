import SmtpLink.Proofs.Encoding
import SmtpLink.Proofs.Reading
import SmtpLink.Proofs.Rendering

/-!
# Replies are read as they were sent

A server prints its replies, ends every line with a carriage return and a line feed, and sends
the bytes.  An assembler that gets them, in whatever chunks, hands out these replies, in batches
of the size it waits for.  A batch that is not complete is withheld.

## Main definitions

* `Reply.wireBytes` — the bytes that are sent for a reply.
* `Reply.Sendable` — a reply that can be sent as lines.

## Main results

* `Reading.replies_wireLines` — the lines of replies are read as the replies.
* `Reading.exists_batches` — replies without an error among them come in whole batches.
* `AssemblerScript.read_as_sent` — **replies are read as they were sent**, in whole batches.
-/

namespace SmtpLink

/-! ### Short lines -/

/-- A run of bytes without a line feed lies on one side of a line feed. -/
theorem infix_of_clean {run line more : Bytes} (clean : lineFeed ∉ run)
    (inside : run <:+: line ++ lineFeed :: more) : run <:+: line ∨ run <:+: more := by
  induction line with
  | nil =>
    rcases List.infix_cons_iff.mp inside with first | rest
    · cases run with
      | nil => exact .inl List.nil_infix
      | cons b run =>
        obtain ⟨rfl, -⟩ := List.cons_prefix_cons.mp first
        exact absurd List.mem_cons_self clean
    · exact .inr rest
  | cons b line ih =>
    rcases List.infix_cons_iff.mp inside with first | rest
    · left
      have whole : b :: line <+: b :: line ++ lineFeed :: more := List.prefix_append _ _
      rcases List.prefix_or_prefix_of_prefix first whole with shorter | ⟨rest, rfl⟩
      · exact shorter.isInfix
      · -- the run is as long as the line; if it went on, it would hold the line feed
        have behind : rest <+: lineFeed :: more := (List.prefix_append_right_inj _).mp first
        cases rest with
        | nil => exact ⟨[], [], by simp⟩
        | cons c rest =>
          obtain ⟨rfl, -⟩ := List.cons_prefix_cons.mp behind
          exact absurd (List.mem_append_right _ List.mem_cons_self) clean
    · exact (ih rest).imp (fun h => h.trans (List.suffix_cons b line).isInfix) id

/-- Lines that are short enough make a stream that is. -/
theorem short_ended {lines : List Bytes} (short : ∀ line ∈ lines, line.length ≤ maxLineLength) :
    Short (ended lines) := by
  induction lines with
  | nil => exact short_of_length (Nat.zero_le _)
  | cons line lines ih =>
    obtain ⟨shortLine, shortLines⟩ := List.forall_mem_cons.mp short
    intro run inside clean
    rw [ended_cons] at inside
    rcases infix_of_clean clean inside with first | rest
    · exact Nat.le_trans first.length_le shortLine
    · exact ih shortLines run rest clean

/-! ### Blocks and batches -/

namespace Reading

/-- Lines that were sent are read as they are. -/
theorem texts_sentLine {lines : List String}
    (kept : ∀ line ∈ lines, line ≠ "" ∧ ∀ c ∈ line.toList.getLast?, isLineEnd c = false) :
    texts (lines.map sentLine) = lines := by
  induction lines with
  | nil => rfl
  | cons line lines ih =>
    obtain ⟨⟨some, keptLine⟩, keptLines⟩ := List.forall_mem_cons.mp kept
    have notEmpty : ¬ line.isEmpty = true := fun h => some (String.isEmpty_iff.mp h)
    rw [List.map_cons, texts_cons, lineText_sentLine keptLine, if_neg notEmpty, ih keptLines]

/-- The lines behind a code make one block. -/
theorem replies_marked {code : ReplyCode} (three : code.HasThreeDigits) {message : List String}
    (some : message ≠ []) (block more : List String) :
    replies block (Reply.marked code.text message ++ more) =
      Reply.ofLines (block ++ Reply.marked code.text message) :: replies [] more := by
  have kinds (mark : Char) (text : String) {kind : LineKind} {line : String}
      (made : line.toList = code.text.toList ++ mark :: text.toList)
      (means : LineKind.ofMark? (Option.some mark) = Option.some kind) :
      classify line = .ok kind := by
    rw [classify, made, Reply.parseLine?_text three means]
  fun_induction Reply.marked code.text message generalizing block with
  | case1 => exact absurd rfl some
  | case2 last =>
    have final : classify (code.text ++ " " ++ last) = .ok .final := kinds ' ' last (by simp) rfl
    rw [List.singleton_append, replies, final]
  | case3 line next rest ih =>
    have continues : classify (code.text ++ "-" ++ line) = .ok .continuation :=
      kinds '-' line (by simp) rfl
    rw [List.cons_append, replies, continues]
    dsimp only
    rw [ih (List.cons_ne_nil next rest), List.append_assoc]
    rfl

/-- **The lines of replies are read as the replies.** -/
theorem replies_wireLines {all : List Reply}
    (sendable : ∀ r ∈ all, r.code.HasThreeDigits ∧ r.message ≠ []) :
    replies [] (all.flatMap Reply.wireLines) = all.map .ok := by
  induction all with
  | nil => rfl
  | cons r all ih =>
    obtain ⟨⟨three, some⟩, rest⟩ := List.forall_mem_cons.mp sendable
    have read := Reply.ofLines_wireLines three some
    rw [Reply.wireLines_eq some] at read
    rw [List.flatMap_cons, Reply.wireLines_eq some, replies_marked three some, List.nil_append,
      read, ih rest]
    rfl

/-- Replies without an error among them are handed out in whole batches. -/
theorem exists_batches {n : Nat} (completed all : List Reply) (few : completed.length < n) :
    ∃ (groups : List (List Reply)) (withheld : List Reply),
      batches n completed (all.map .ok) = groups.map .ok ∧
      groups.flatten ++ withheld = completed ++ all ∧
      (∀ group ∈ groups, group.length = n) ∧ withheld.length < n := by
  induction all generalizing completed with
  | nil => exact ⟨[], completed, rfl, (List.append_nil completed).symm, by simp, few⟩
  | cons r all ih =>
    rw [List.map_cons, batches]
    by_cases whole : n ≤ completed.length + 1
    · obtain ⟨groups, withheld, handed, all, sizes, rest⟩ := ih [] (Nat.zero_lt_of_lt few)
      refine ⟨(completed ++ [r]) :: groups, withheld, ?_, ?_, ?_, rest⟩
      · rw [if_pos whole, handed]
        rfl
      · rw [List.flatten_cons, List.append_assoc, all, List.append_assoc]
        rfl
      · refine List.forall_mem_cons.mpr ⟨?_, sizes⟩
        rw [List.length_append, List.length_singleton]
        omega
    · have longer : (completed ++ [r]).length < n := by
        rw [List.length_append, List.length_singleton]
        omega
      obtain ⟨groups, withheld, handed, all, sizes, rest⟩ := ih (completed ++ [r]) longer
      rw [if_neg whole]
      exact ⟨groups, withheld, handed, by rw [all, List.append_assoc]; rfl, sizes, rest⟩

end Reading

/-! ### Sending replies -/

namespace Reply

/-- The bytes that are sent for a reply: its printed lines, each with a carriage return and a line
feed behind it. -/
def wireBytes (r : Reply) : Bytes :=
  r.renderedLines.flatMap fun line => Utf8.encode line ++ [13, 10]

/-- The lines of a reply are neither empty, nor do they hold line ends where it matters. -/
theorem of_mem_wireLines {r : Reply} (some : r.message ≠ [])
    (clean : ∀ text ∈ r.message, '\n' ∉ text.toList ∧ text.toList.getLast? ≠ Option.some '\r')
    {line : String} (mem : line ∈ r.wireLines) :
    '\n' ∉ line.toList ∧ line ≠ "" ∧ ∀ c ∈ line.toList.getLast?, isLineEnd c = false := by
  rw [wireLines_eq some] at mem
  obtain ⟨mark, marks, text, among, made⟩ := of_mem_marked mem
  obtain ⟨noFeed, noReturn⟩ := clean text among
  have markPlain : mark ≠ '\n' ∧ isLineEnd mark = false := by
    rcases marks with rfl | rfl
    · decide
    · decide
  refine ⟨?_, ?_, fun c last => ?_⟩
  · rw [made, List.mem_append, List.mem_cons, not_or, not_or]
    exact ⟨lineFeed_not_mem_text r.code, Ne.symm markPlain.1, noFeed⟩
  · rintro rfl
    have length := congrArg List.length made
    rw [List.length_append, List.length_cons] at length
    exact absurd length (by simp)
  · rw [made, List.getLast?_append, List.getLast?_cons] at last
    cases behind : text.toList.getLast? with
    | none =>
      rw [behind] at last
      obtain rfl : mark = c := by simpa using last
      exact markPlain.2
    | some own =>
      rw [behind] at last
      obtain rfl : own = c := by simpa using last
      have inside : own ∈ text.toList := List.mem_of_getLast? behind
      rw [Bool.eq_false_iff]
      intro ends
      rw [isLineEnd, Bool.or_eq_true, beq_iff_eq, beq_iff_eq] at ends
      rcases ends with rfl | rfl
      · exact noReturn behind
      · exact noFeed inside

/-- A reply that can be sent as lines. -/
structure Sendable (r : Reply) : Prop where
  /-- The code has three digits. -/
  digits : r.code.HasThreeDigits
  /-- There is a line. -/
  some : r.message ≠ []
  /-- A text does not break its line, nor does it end like one. -/
  clean : ∀ text ∈ r.message, '\n' ∉ text.toList ∧ text.toList.getLast? ≠ Option.some '\r'
  /-- No printed line is longer than 65535 bytes. -/
  short : ∀ line ∈ r.renderedLines, (Utf8.encode line).length ≤ 65535

namespace Sendable

variable {r : Reply}

theorem renderedLines_eq (h : r.Sendable) : r.renderedLines = r.wireLines :=
  Reply.renderedLines_eq fun text mem => (h.clean text mem).1

/-- What is sent are lines. -/
theorem wireBytes_eq (h : r.Sendable) : r.wireBytes = ended (r.wireLines.map sentLine) := by
  have line (line : String) : Utf8.encode line ++ [13, 10] = sentLine line ++ [lineFeed] := by
    rw [sentLine, List.append_assoc]
    rfl
  rw [wireBytes, h.renderedLines_eq, ended, List.flatMap_map]
  exact congrArg (r.wireLines.flatMap ·) (funext line)

theorem length_sentLine (h : r.Sendable) {line : String} (mem : line ∈ r.wireLines) :
    (sentLine line).length ≤ maxLineLength := by
  have short := h.short line (h.renderedLines_eq ▸ mem)
  rw [sentLine, List.length_append, List.length_singleton, maxLineLength]
  omega

end Sendable

end Reply

open Reading

/-- The reading of replies that were sent: the replies, in whole batches. -/
theorem exists_reading_wireBytes {n : Nat} (positive : 1 ≤ n) {all : List Reply}
    (sendable : ∀ r ∈ all, r.Sendable) : Short (all.flatMap Reply.wireBytes) ∧
    ∃ (groups : List (List Reply)) (withheld : List Reply),
      reading n (all.flatMap Reply.wireBytes) = groups.map .ok ∧
      groups.flatten ++ withheld = all ∧
      (∀ group ∈ groups, group.length = n) ∧ withheld.length < n := by
  have stream : all.flatMap Reply.wireBytes =
      ended ((all.flatMap Reply.wireLines).map sentLine) := by
    clear positive
    induction all with
    | nil => rfl
    | cons r all ih =>
      obtain ⟨first, rest⟩ := List.forall_mem_cons.mp sendable
      rw [List.flatMap_cons, List.flatMap_cons, List.map_append, ended_append, first.wireBytes_eq,
        ih rest]
  have lines : ∀ line ∈ all.flatMap Reply.wireLines, ∃ r ∈ all, line ∈ r.wireLines :=
    fun line mem => List.mem_flatMap.mp mem
  have plain : ∀ line ∈ all.flatMap Reply.wireLines,
      '\n' ∉ line.toList ∧ line ≠ "" ∧ ∀ c ∈ line.toList.getLast?, isLineEnd c = false := by
    intro line mem
    obtain ⟨r, among, mem⟩ := lines line mem
    exact Reply.of_mem_wireLines (sendable r among).some (sendable r among).clean mem
  have clean : ∀ raw ∈ (all.flatMap Reply.wireLines).map sentLine, lineFeed ∉ raw :=
    List.forall_mem_map.mpr fun line mem => lineFeed_not_mem_sentLine (plain line mem).1
  have short : ∀ raw ∈ (all.flatMap Reply.wireLines).map sentLine,
      raw.length ≤ maxLineLength := by
    refine List.forall_mem_map.mpr fun line mem => ?_
    obtain ⟨r, among, mem⟩ := lines line mem
    exact (sendable r among).length_sentLine mem
  have whole : wholeLines (ended ((all.flatMap Reply.wireLines).map sentLine)) =
      (all.flatMap Reply.wireLines).map sentLine := by
    have cut := wholeLines_ended clean (List.not_mem_nil (a := lineFeed))
    rwa [List.append_nil] at cut
  have text : texts ((all.flatMap Reply.wireLines).map sentLine) = all.flatMap Reply.wireLines :=
    texts_sentLine fun line mem => (plain line mem).2
  have meant := replies_wireLines fun r mem => ⟨(sendable r mem).digits, (sendable r mem).some⟩
  rw [stream]
  refine ⟨short_ended short, ?_⟩
  rw [reading, whole, text, meant]
  exact exists_batches [] all positive

namespace AssemblerScript

/-- **Replies are read as they were sent**, whatever the chunks and wherever it is polled in
between: they are handed out in order, in batches of the size that is waited for, and without an
error.  Those behind the last whole batch are withheld. -/
theorem read_as_sent {n : Nat} (positive : 1 ≤ n) {all : List Reply}
    (sendable : ∀ r ∈ all, r.Sendable) {steps : List AssemblerStep}
    (reads : ∀ s ∈ steps, s.isReading = true)
    (sent : steps.flatMap AssemblerStep.fed = all.flatMap Reply.wireBytes) :
    ∃ (groups : List (List Reply)) (withheld : List Reply),
      polled (run (.expect n :: steps ++ [.pollAll])) = groups.map .ok ∧
      groups.flatten ++ withheld = all ∧
      (∀ group ∈ groups, group.length = n) ∧ withheld.length < n := by
  obtain ⟨short, read⟩ := exists_reading_wireBytes positive sendable
  rw [← sent] at short read
  have handed := results_runOn (.fresh n) reads short
  rw [List.nil_append, List.nil_append, Assembler.expected_expect, Nat.max_eq_left positive]
    at handed
  rw [← handed] at read
  exact read

/-- Three replies: texts that look like lines of a reply, an empty text, a carriage return inside
a text, and characters of two to four bytes. -/
def threeReplies : List Reply :=
  [⟨⟨250⟩, ["250 x", "", "a\rb"]⟩, ⟨⟨100⟩, ["é-€"]⟩, ⟨⟨999⟩, ["😀"]⟩]

/-- The bytes of the three replies.  The chunks end inside a code, inside a line end and inside a
character, and polls stand in between. -/
def threeRepliesCut : List AssemblerStep :=
  [.feed [50, 53], .poll, .feed [48, 45, 50, 53, 48, 32, 120, 13], .pollAll,
    .feed [10, 50, 53, 48, 45, 13, 10, 50, 53, 48, 32, 97, 13, 98, 13, 10, 49, 48, 48, 32, 195],
    .poll, .feed [169, 45, 226, 130], .feed [172, 13, 10, 57, 57, 57, 32, 240, 159], .poll,
    .feed [152, 128, 13, 10]]

/-- Two of the three replies are handed out as a batch, and the third is withheld. -/
theorem three_replies_read :
    polled (run (.expect 2 :: threeRepliesCut ++ [.pollAll])) = [.ok (threeReplies.take 2)] := by
  have sendable : ∀ r ∈ threeReplies, r.Sendable := by
    refine List.forall_mem_cons.mpr ⟨?_, List.forall_mem_cons.mpr ⟨?_,
      List.forall_mem_singleton.mpr ?_⟩⟩
    · exact ⟨⟨by decide, by decide⟩, by decide, by decide, by decide⟩
    · exact ⟨⟨by decide, by decide⟩, by decide, by decide, by decide⟩
    · exact ⟨⟨by decide, by decide⟩, by decide, by decide, by decide⟩
  have reads : ∀ s ∈ threeRepliesCut, s.isReading = true := by decide
  have sent : threeRepliesCut.flatMap AssemblerStep.fed = threeReplies.flatMap Reply.wireBytes := by
    decide
  obtain ⟨groups, withheld, handed, whole, sizes, few⟩ :=
    read_as_sent (n := 2) (by decide) sendable reads sent
  rw [handed]
  have total := congrArg List.length whole
  rw [List.length_append] at total
  -- three replies make one batch of two, neither none nor two
  match groups, sizes with
  | [], _ => exact absurd total (by simp [threeReplies]; omega)
  | [group], sizes =>
    have size := sizes group List.mem_cons_self
    rw [List.flatten_singleton] at whole
    rw [← whole, ← size, List.take_left]
    rfl
  | first :: second :: groups, sizes =>
    have sizeFirst := sizes first List.mem_cons_self
    have sizeSecond := sizes second (List.mem_cons_of_mem _ List.mem_cons_self)
    simp only [List.flatten_cons, List.length_append, threeReplies, List.length_cons,
      List.length_nil] at total
    omega

end AssemblerScript

end SmtpLink
