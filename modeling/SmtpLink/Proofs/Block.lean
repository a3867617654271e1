import SmtpLink.Proofs.Decoding
import SmtpLink.Proofs.Poll

/-!
# Well-formed answers

A server answers a command with a block of lines.  Here a block is written down as the server
means it: a code of three digits, and the texts of its lines in whatever bytes.  An assembler
that is fed what the server sends, however it is cut, hands out what the server means, and
nothing before the last byte has come.

## Main definitions

* `Block` — an answer: its code and the texts of its lines.
* `Block.lines`, `Block.reply` — the lines that are sent, and the reply that is meant.
* `wire` — what is sent for several answers.
* `Assembler.Holds` — an assembler that behaves as one that is fed certain bytes afresh.

## Main results

* `Assembler.poll_feed_wire` — **a whole batch is handed out as it was meant.**
* `Assembler.poll_feed_of_part` — **a part of a batch yields nothing.**
-/

namespace SmtpLink

/-! ### Digits -/

/-- A decimal digit as a byte. -/
def digitByte (d : Fin 10) : UInt8 := UInt8.ofNat (48 + d.val)

/-- A decimal digit as a character. -/
def digitChar (d : Fin 10) : Char := Char.ofNat (digitByte d).toNat

theorem digitByte_ascii (d : Fin 10) : digitByte d < 0x80 := by
  revert d
  decide

theorem digitByte_clean (d : Fin 10) : digitByte d ≠ 13 ∧ digitByte d ≠ 10 := by
  revert d
  decide

theorem isDigit_digitChar (d : Fin 10) : Text.isDigit (digitChar d) = true := by
  revert d
  decide

theorem digitValue_digitChar (d : Fin 10) : Text.digitValue (digitChar d) = d.val := by
  revert d
  decide

/-! ### Blocks -/

/-- An answer of a server.  The bytes of its texts may be anything but line ends. -/
structure Block where
  /-- The first digit of the code. -/
  hundreds : Fin 10
  /-- The second digit. -/
  tens : Fin 10
  /-- The third digit. -/
  units : Fin 10
  /-- The texts of all lines but the last. -/
  earlier : List Bytes := []
  /-- The text of the last line, which may end with the code. -/
  last : Option Bytes
  /-- No text holds a line end. -/
  clean : ∀ text ∈ earlier ++ last.toList, ∀ b ∈ text, b ≠ 13 ∧ b ≠ 10
  /-- With the code and the mark after it, no text makes a line of more than 65535 bytes. -/
  short : ∀ text ∈ earlier ++ last.toList, text.length + 4 ≤ 65535

namespace Block

/-- The code as it is sent. -/
def digits (b : Block) : Bytes := [digitByte b.hundreds, digitByte b.tens, digitByte b.units]

/-- The code as it is read. -/
def code (b : Block) : List Char := [digitChar b.hundreds, digitChar b.tens, digitChar b.units]

/-- A line with some mark after the code, without its line feed. -/
def line (b : Block) (mark text : Bytes) : Bytes := b.digits ++ mark ++ text ++ [13]

/-- The last line, without its line feed. -/
def lastLine (b : Block) : Bytes :=
  match b.last with
  | none => b.line [] []
  | some text => b.line [32] text

/-- The lines that are sent, without their line feeds: a hyphen follows the code on all but the
last. -/
def lines (b : Block) : List Bytes := b.earlier.map (b.line [45]) ++ [b.lastLine]

/-- The reply that is meant. -/
def reply (b : Block) : Reply where
  code := ⟨UInt16.ofNat (100 * b.hundreds.val + 10 * b.tens.val + b.units.val)⟩
  message := b.earlier.map Utf8.decode ++ [(b.last.map Utf8.decode).getD ""]

variable (b : Block)

/-! ### Reading one line -/

theorem digits_ascii : ∀ d ∈ b.digits, d < 0x80 := by
  simp [digits, digitByte_ascii]

theorem digits_clean : ∀ d ∈ b.digits, d ≠ 13 ∧ d ≠ 10 := by
  simp [digits, digitByte_clean]

theorem digitsValue_code : Text.digitsValue b.code =
    100 * b.hundreds.val + 10 * b.tens.val + b.units.val := by
  simp only [code, Text.digitsValue, List.foldl_cons, List.foldl_nil, digitValue_digitChar]
  omega

/-- A line as it is read: the code, and what follows it. -/
def readAs (b : Block) (rest : List Char) : String := String.ofList (b.code ++ rest)

theorem lineText_line {mark text : Bytes} (ascii : ∀ m ∈ mark, m < 0x80)
    (clean : ∀ m ∈ mark ++ text, m ≠ 13 ∧ m ≠ 10) : lineText (b.line mark text) =
      b.readAs (mark.map (fun m => Char.ofNat m.toNat) ++ Utf8.decodeChars text) := by
  have isAscii : ∀ m ∈ b.digits ++ mark, m < 0x80 :=
    List.forall_mem_append.mpr ⟨b.digits_ascii, ascii⟩
  have isClean : ∀ m ∈ b.digits ++ mark ++ text, m ≠ 13 ∧ m ≠ 10 := by
    rw [List.append_assoc]
    exact List.forall_mem_append.mpr ⟨b.digits_clean, clean⟩
  rw [line, lineText_append_return isAscii isClean, readAs, List.map_append, List.append_assoc]
  rfl

theorem parseLine?_readAs (rest : List Char) : parseLine? (b.readAs rest).toList =
    (LineKind.ofMark? rest.head?).map fun kind => (b.code, kind, rest.tail) := by
  have split : splitCode? (b.code ++ rest) = some (b.code, rest) := by
    simp [code, splitCode?, isDigit_digitChar]
  rw [readAs, String.toList_ofList, parseLine?, split]

theorem isEmpty_readAs (rest : List Char) : (b.readAs rest).isEmpty = false := by
  rw [Bool.eq_false_iff]
  intro h
  have nothing := congrArg String.toList (String.isEmpty_iff.mp h)
  rw [readAs, String.toList_ofList] at nothing
  exact absurd nothing (by simp [code])

/-- A line with a hyphen is kept for the block. -/
theorem readLine_continuation {raw : Bytes} {rest : List Char} (text : lineText raw = b.readAs rest)
    (mark : LineKind.ofMark? rest.head? = some .continuation) (block : List String)
    (completed : List Reply) :
    Assembler.readLine block completed raw = .taken (block ++ [b.readAs rest]) completed := by
  have kind : classify (b.readAs rest) = .ok .continuation := by
    rw [classify, parseLine?_readAs, mark]
    rfl
  unfold Assembler.readLine
  dsimp only
  rw [text, isEmpty_readAs, kind]
  rfl

/-- A line without a hyphen completes the block. -/
theorem readLine_final {raw : Bytes} {rest : List Char} (text : lineText raw = b.readAs rest)
    (mark : LineKind.ofMark? rest.head? = some .final) {block : List String} {reply : Reply}
    (meant : Reply.ofLines (block ++ [b.readAs rest]) = .ok reply) (completed : List Reply) :
    Assembler.readLine block completed raw = .taken [] (completed ++ [reply]) := by
  have kind : classify (b.readAs rest) = .ok .final := by
    rw [classify, parseLine?_readAs, mark]
    rfl
  unfold Assembler.readLine
  dsimp only
  rw [text, isEmpty_readAs, kind]
  simp [meant]

/-! ### Reading a block -/

/-- What follows the code on the last line. -/
def lastRest (b : Block) : List Char :=
  match b.last with
  | none => []
  | some text => ' ' :: Utf8.decodeChars text

/-- What follows the code on each line. -/
def rests (b : Block) : List (List Char) :=
  b.earlier.map (fun text => '-' :: Utf8.decodeChars text) ++ [b.lastRest]

theorem messageOf_readAs {rests : List (List Char)}
    (marked : ∀ rest ∈ rests, ∃ kind, LineKind.ofMark? rest.head? = some kind) :
    Reply.messageOf b.code (rests.map b.readAs) =
      .ok (rests.map fun rest => String.ofList rest.tail) := by
  induction rests with
  | nil => rfl
  | cons rest rests ih =>
    obtain ⟨⟨kind, mark⟩, marked⟩ := List.forall_mem_cons.mp marked
    rw [List.map_cons, Reply.messageOf, parseLine?_readAs, mark]
    simp only [Option.map_some, if_true, ih marked]
    rfl

theorem ofLines_rests : Reply.ofLines (b.rests.map b.readAs) = .ok b.reply := by
  have marked : ∀ rest ∈ b.rests, ∃ kind, LineKind.ofMark? rest.head? = some kind := by
    intro rest h
    rcases List.mem_append.mp h with h | h
    · obtain ⟨text, -, rfl⟩ := List.mem_map.mp h
      exact ⟨.continuation, rfl⟩
    · obtain rfl := List.mem_singleton.mp h
      refine ⟨.final, ?_⟩
      unfold lastRest
      split <;> rfl
  have last : String.ofList b.lastRest.tail = (b.last.map Utf8.decode).getD "" := by
    unfold lastRest
    cases b.last <;> rfl
  have message : b.rests.map (fun rest => String.ofList rest.tail) = b.reply.message := by
    rw [rests, List.map_append, List.map_map, List.map_singleton, last]
    rfl
  have read := b.messageOf_readAs marked
  obtain ⟨first, rest, cut⟩ : ∃ first rest, b.rests = first :: rest :=
    List.exists_cons_of_ne_nil (by simp [rests])
  obtain ⟨kind, mark⟩ := marked first (cut ▸ List.mem_cons_self)
  rw [cut, List.map_cons] at read
  rw [cut, List.map_cons, Reply.ofLines, parseLine?_readAs, mark]
  simp only [Option.map_some]
  rw [read, ← cut, message, digitsValue_code]
  rfl

theorem pollLines_earlier {a : Assembler} {completed : List Reply}
    (few : completed.length < a.expected) {texts : List Bytes}
    (clean : ∀ text ∈ texts, ∀ m ∈ text, m ≠ 13 ∧ m ≠ 10) (block : List String)
    (more : List Bytes) :
    a.pollLines block completed (texts.map (b.line [45]) ++ more) =
      a.pollLines (block ++ texts.map fun text => b.readAs ('-' :: Utf8.decodeChars text))
        completed more := by
  induction texts generalizing block with
  | nil => simp
  | cons text texts ih =>
    obtain ⟨cleanText, cleanTexts⟩ := List.forall_mem_cons.mp clean
    have isClean : ∀ m ∈ [45] ++ text, m ≠ 13 ∧ m ≠ 10 :=
      List.forall_mem_cons.mpr ⟨by decide, cleanText⟩
    have text := b.lineText_line (List.forall_mem_singleton.mpr (by decide)) isClean
    rw [List.map_cons, List.cons_append, Assembler.pollLines, if_neg (Nat.not_le.mpr few),
      b.readLine_continuation text rfl]
    dsimp only
    rw [ih cleanTexts, List.append_assoc]
    rfl

theorem lineText_lastLine : lineText b.lastLine = b.readAs b.lastRest := by
  unfold lastLine lastRest
  cases h : b.last with
  | none => exact b.lineText_line (by simp) (by simp)
  | some text =>
    have clean : ∀ m ∈ text, m ≠ 13 ∧ m ≠ 10 := b.clean text (by simp [h])
    exact b.lineText_line (List.forall_mem_singleton.mpr (by decide))
      (List.forall_mem_cons.mpr ⟨by decide, clean⟩)

/-- The lines of a block complete the reply that is meant. -/
theorem pollLines_lines {a : Assembler} {completed : List Reply}
    (few : completed.length < a.expected) (more : List Bytes) :
    a.pollLines [] completed (b.lines ++ more) = a.pollLines [] (completed ++ [b.reply]) more := by
  have clean : ∀ text ∈ b.earlier, ∀ m ∈ text, m ≠ 13 ∧ m ≠ 10 :=
    fun text h => b.clean text (List.mem_append_left _ h)
  have mark : LineKind.ofMark? b.lastRest.head? = some .final := by
    unfold lastRest
    split <;> rfl
  have meant : Reply.ofLines ((b.earlier.map fun text => b.readAs ('-' :: Utf8.decodeChars text)) ++
      [b.readAs b.lastRest]) = .ok b.reply := by
    have meant := b.ofLines_rests
    rwa [rests, List.map_append, List.map_map] at meant
  rw [lines, List.append_assoc, b.pollLines_earlier few clean, List.nil_append,
    List.singleton_append, Assembler.pollLines, if_neg (Nat.not_le.mpr few),
    b.readLine_final b.lineText_lastLine mark meant]

/-! ### The lines as bytes -/

theorem lineFeed_not_mem_line {mark text : Bytes} (clean : ∀ m ∈ mark ++ text, m ≠ 13 ∧ m ≠ 10) :
    lineFeed ∉ b.line mark text := by
  intro h
  rw [line, List.append_assoc b.digits, List.mem_append, List.mem_append] at h
  rcases h with (h | h) | h
  · exact (b.digits_clean _ h).2 rfl
  · exact (clean _ h).2 rfl
  · exact absurd h (by decide)

theorem length_line (mark text : Bytes) :
    (b.line mark text).length = text.length + mark.length + 4 := by
  simp only [line, digits, List.length_append, List.length_cons, List.length_nil]
  omega

theorem of_mem_lines {raw : Bytes} (h : raw ∈ b.lines) :
    lineFeed ∉ raw ∧ raw.length ≤ maxLineLength := by
  have marked (mark : UInt8) (cleanMark : mark ≠ 13 ∧ mark ≠ 10) (text : Bytes)
      (mem : text ∈ b.earlier ++ b.last.toList) :
      lineFeed ∉ b.line [mark] text ∧ (b.line [mark] text).length ≤ maxLineLength := by
    have short := b.short text mem
    refine ⟨b.lineFeed_not_mem_line (List.forall_mem_cons.mpr ⟨cleanMark, b.clean text mem⟩), ?_⟩
    rw [length_line, maxLineLength, List.length_singleton]
    omega
  rcases List.mem_append.mp h with h | h
  · obtain ⟨text, mem, rfl⟩ := List.mem_map.mp h
    exact marked 45 (by decide) text (List.mem_append_left _ mem)
  · obtain rfl := List.mem_singleton.mp h
    unfold lastLine
    cases hl : b.last with
    | none =>
      refine ⟨b.lineFeed_not_mem_line (by simp), ?_⟩
      rw [length_line]
      decide
    | some text => exact marked 32 (by decide) text (by simp [hl])

end Block

/-! ### Batches -/

/-- What is sent for several answers. -/
def wire (blocks : List Block) : Bytes := ended (blocks.flatMap Block.lines)

theorem wire_append (blocks more : List Block) :
    wire (blocks ++ more) = wire blocks ++ wire more := by
  rw [wire, List.flatMap_append, ended_append]
  rfl

theorem wire_ne_nil {blocks : List Block} (ne : blocks ≠ []) : wire blocks ≠ [] := by
  obtain ⟨b, rest, rfl⟩ := List.exists_cons_of_ne_nil ne
  simp [wire, ended, Block.lines]

namespace Assembler

/-- Nothing has come, and batches are of `n` replies. -/
def fresh (n : Nat) : Assembler := ({} : Assembler).expect n

theorem pollLines_batch {a : Assembler} {completed : List Reply} {blocks : List Block}
    (whole : completed.length + blocks.length = a.expected) :
    a.pollLines [] completed (blocks.flatMap Block.lines) =
      ({ a with ready := [], block := [], completed := [] },
        some (.ok (completed ++ blocks.map Block.reply))) := by
  induction blocks generalizing completed with
  | nil =>
    have enough : a.expected ≤ completed.length := Nat.le_of_eq whole.symm
    rw [List.flatMap_nil, pollLines, if_pos enough, List.map_nil, List.append_nil]
  | cons b blocks ih =>
    rw [List.length_cons] at whole
    have few : completed.length < a.expected := by omega
    rw [List.flatMap_cons, b.pollLines_lines few, ih, List.append_assoc]
    · rfl
    · rw [List.length_append, List.length_singleton]
      omega

theorem feed_fresh_ended {blocks : List Block} {lines more : List Bytes} (n : Nat)
    (cut : blocks.flatMap Block.lines = lines ++ more) :
    (fresh n).feed (ended lines) = { fresh n with ready := lines } := by
  refine feed_ended (fun line mem => ?_) rfl
  obtain ⟨b, -, mem⟩ := List.mem_flatMap.mp (cut ▸ List.mem_append_left more mem)
  exact (b.of_mem_lines mem).1

theorem expected_fresh {blocks : List Block} (ne : blocks ≠ []) :
    (fresh blocks.length).expected = blocks.length := by
  have positive : 1 ≤ blocks.length := List.length_pos_iff.mpr ne
  rw [fresh, expected_expect, Nat.max_eq_left positive]

/-- **A whole batch is handed out as it was meant**, and nothing is left of it. -/
theorem poll_feed_wire {blocks : List Block} (ne : blocks ≠ []) :
    ((fresh blocks.length).feed (wire blocks)).poll =
      (fresh blocks.length, some (.ok (blocks.map Block.reply))) := by
  have whole : ([] : List Reply).length + blocks.length = (fresh blocks.length).expected := by
    rw [expected_fresh ne, List.length_nil, Nat.zero_add]
  rw [wire, feed_fresh_ended _ (List.append_nil _).symm]
  exact pollLines_batch whole

/-- Some lines of a batch, but not all, yield nothing. -/
theorem poll_of_part {a : Assembler} {blocks : List Block} {more : List Bytes}
    (expected : a.expected = blocks.length) (block : a.block = []) (completed : a.completed = [])
    (cut : blocks.flatMap Block.lines = a.ready ++ more) (ne : more ≠ [])
    (short : a.unended.length ≤ maxLineLength) : a.poll.2 = none := by
  have whole : ([] : List Reply).length + blocks.length = a.expected := by
    rw [List.length_nil, Nat.zero_add, expected]
  by_cases h : a.poll.2 = none
  · exact h
  · -- had something been handed out already, the lines behind it would be left in the end
    have left := ready_pollLines_append short h more
    rw [block, completed, ← cut, pollLines_batch whole] at left
    have behind : more = [] := (List.append_eq_nil_iff.mp left.symm).2
    exact absurd behind ne

/-- **A part of a batch yields nothing.** -/
theorem poll_feed_of_part {blocks : List Block} {data : Bytes} (part : data <+: wire blocks)
    (notWhole : data ≠ wire blocks) : ((fresh blocks.length).feed data).poll.2 = none := by
  have ne : blocks ≠ [] := by
    rintro rfl
    exact notWhole (List.prefix_nil.mp part)
  obtain ⟨lines, line, more, inside, cut, rfl, insideLine⟩ :=
    (prefix_ended part).resolve_left notWhole
  obtain ⟨b, -, mem⟩ := List.mem_flatMap.mp (cut ▸ List.mem_append_right lines List.mem_cons_self)
  obtain ⟨clean, short⟩ := b.of_mem_lines mem
  have cleanInside : lineFeed ∉ inside := fun h => clean (insideLine.subset h)
  have shortInside : inside.length ≤ maxLineLength := Nat.le_trans insideLine.length_le short
  have fed : (fresh blocks.length).feed (ended lines ++ inside) =
      { fresh blocks.length with ready := lines, unended := inside } := by
    rw [feed_append, feed_fresh_ended _ cut, feed_of_clean _ cleanInside]
    rfl
  rw [fed]
  exact poll_of_part (expected_fresh ne) rfl rfl cut (List.cons_ne_nil line more) shortInside

theorem poll_fresh : (fresh 1).poll = (fresh 1, none) :=
  poll_of_drained rfl (by decide) (by decide)

/-! ### What an assembler holds -/

/-- The assembler behaves as one for batches of `n` replies that was fed `data` afresh. -/
def Holds (a : Assembler) (n : Nat) (data : Bytes) : Prop :=
  ∀ more, (a.feed more).poll = ((fresh n).feed (data ++ more)).poll

namespace Holds

variable {a : Assembler} {n : Nat} {data : Bytes}

theorem fresh (n : Nat) : (fresh n).Holds n [] := fun _ => rfl

theorem poll_eq (h : a.Holds n data) : a.poll = ((Assembler.fresh n).feed data).poll := by
  have now := h []
  rwa [feed_nil, List.append_nil] at now

theorem feed (h : a.Holds n data) (more : Bytes) : (a.feed more).Holds n (data ++ more) := by
  intro rest
  rw [← feed_append, h, List.append_assoc]

/-- Reading what does not make a batch yet changes nothing. -/
theorem poll (h : a.Holds n data) (nothing : a.poll.2 = none) : a.poll.1.Holds n data := by
  intro more
  rw [poll_feed_poll nothing, h]

end Holds

end Assembler

end SmtpLink
