import SmtpLink.Reply.Line
import SmtpLink.Text.Utf8

/-!
# The reply assembler

Bytes come from a socket in chunks of any size. The assembler cuts them into lines, gathers
lines into blocks, reads each block as a reply, and hands replies out in *batches*: a plain
command expects one reply, a pipelined group of `n` commands expects `n`.

## Main definitions

* `Assembler` — what has come and is not handed out yet, and the size of a batch.
* `Assembler.feed` — takes a chunk. Cutting is a fold over the bytes, so it does not matter how
  they were cut into chunks.
* `Assembler.poll` — the next batch or error, if there is one.
* `Assembler.expect`, `Assembler.reset` — the size of the batches to come; dropping all input.

## Main results

* `Assembler.feed_append` — how the input is cut into chunks makes no difference.
* `Assembler.expected_poll` — polling leaves the size of a batch alone.
-/

namespace SmtpLink

/-- The longest unended line, in bytes, that is waited for. -/
def maxLineLength : Nat := 65536

/-- The byte that ends a line. -/
def lineFeed : UInt8 := 10

/-- Takes one byte into the lines cut so far (last one first) and the unended line (last byte
first). -/
def cutByte (cut : List Bytes × Bytes) (b : UInt8) : List Bytes × Bytes :=
  if b = lineFeed then (cut.2.reverse :: cut.1, []) else (cut.1, b :: cut.2)

/-- The text of a raw line: decoded, and without carriage returns and line feeds at its end. -/
def lineText (raw : Bytes) : String :=
  String.ofList (Text.dropEndWhile (fun c => c == '\r' || c == '\n') (Utf8.decodeChars raw))

/-- What has come from the socket and is not handed out yet. -/
structure Assembler where
  /-- Raw lines that are complete and not read yet, without their line feeds, oldest first. -/
  ready : List Bytes := []
  /-- The bytes after the last line feed. -/
  unended : Bytes := []
  /-- The lines of the block in progress. -/
  block : List String := []
  /-- The replies that are complete and not handed out yet. -/
  completed : List Reply := []
  /-- How many replies make a batch. -/
  expected : Nat := 1
  /-- A batch is never empty. -/
  one_le_expected : 1 ≤ expected := by exact Nat.zero_lt_one

namespace Assembler

/-- Sets how many replies make a batch; nought counts as one. -/
def expect (a : Assembler) (n : Nat) : Assembler :=
  { a with expected := max n 1, one_le_expected := Nat.le_max_right n 1 }

/-- Takes a chunk of input. -/
def feed (a : Assembler) (data : Bytes) : Assembler :=
  let cut := data.foldl cutByte ([], a.unended.reverse)
  { a with ready := a.ready ++ cut.1.reverse, unended := cut.2.reverse }

/-- Drops all input, read or not. The size of a batch stays. -/
def reset (a : Assembler) : Assembler :=
  { a with ready := [], unended := [], block := [], completed := [] }

/-- Nothing has come that is not handed out. -/
def isEmpty (a : Assembler) : Bool :=
  a.ready.isEmpty && a.unended.isEmpty && a.block.isEmpty && a.completed.isEmpty

/-- What one raw line does to the block in progress and to the completed replies. -/
inductive LineResult
  /-- The line is empty, or is part of a block that goes on, or completes a reply. -/
  | taken (block : List String) (completed : List Reply)
  /-- The line, or the block that it completes, is malformed. -/
  | refused (error : Error)

/-- Reads one raw line. -/
def readLine (block : List String) (completed : List Reply) (raw : Bytes) : LineResult :=
  let line := lineText raw
  if line.isEmpty then .taken block completed
  else match classify line with
    | .error err => .refused err
    | .ok .continuation => .taken (block ++ [line]) completed
    | .ok .final =>
      match Reply.ofLines (block ++ [line]) with
      | .error err => .refused err
      | .ok reply => .taken [] (completed ++ [reply])

/-- What a poll yields. -/
abbrev Polled := Option (Except Error (List Reply))

/-- The poll of an assembler whose unread complete lines are `lines`. A batch is handed out as
soon as it is complete; lines are read one by one until it is. When none is left, an unended
line beyond the limit is an error, and drops all input. An error drops the block in progress
and the completed replies, and keeps the unread lines. -/
def pollLines (a : Assembler) (block : List String) (completed : List Reply) :
    List Bytes → Assembler × Polled
  | [] =>
    if a.expected ≤ completed.length then
      ({ a with ready := [], block := block, completed := [] }, some (.ok completed))
    else if maxLineLength < a.unended.length then
      (a.reset, some (.error (.protocol .lineTooLong)))
    else ({ a with ready := [], block := block, completed := completed }, none)
  | raw :: rest =>
    if a.expected ≤ completed.length then
      ({ a with ready := raw :: rest, block := block, completed := [] }, some (.ok completed))
    else match readLine block completed raw with
      | .refused err =>
        ({ a with ready := rest, block := [], completed := [] }, some (.error err))
      | .taken block completed => pollLines a block completed rest

/-- Hands out the next batch or the next error, if there is one. -/
def poll (a : Assembler) : Assembler × Polled :=
  pollLines a a.block a.completed a.ready

/-! ### The size of a batch

Only `expect` changes it. -/

@[simp] theorem expected_expect (a : Assembler) (n : Nat) : (a.expect n).expected = max n 1 := rfl

@[simp] theorem expected_feed (a : Assembler) (data : Bytes) :
    (a.feed data).expected = a.expected := rfl

@[simp] theorem expected_reset (a : Assembler) : a.reset.expected = a.expected := rfl

theorem expected_pollLines (a : Assembler) (block : List String) (completed : List Reply)
    (lines : List Bytes) : (a.pollLines block completed lines).1.expected = a.expected := by
  fun_induction pollLines a block completed lines <;> simp_all

@[simp] theorem expected_poll (a : Assembler) : a.poll.1.expected = a.expected :=
  expected_pollLines a a.block a.completed a.ready

/-! ### Cutting -/

theorem foldl_cutByte_append (data : Bytes) (lines : List Bytes) (unended : Bytes) :
    data.foldl cutByte (lines, unended) =
      ((data.foldl cutByte ([], unended)).1 ++ lines, (data.foldl cutByte ([], unended)).2) := by
  induction data generalizing lines unended with
  | nil => rfl
  | cons b rest ih =>
    simp only [List.foldl_cons, cutByte]
    split
    · rw [ih (unended.reverse :: lines), ih [unended.reverse]]
      simp
    · rw [ih lines]

/-- **Taking two chunks is taking them as one.** -/
theorem feed_append (a : Assembler) (x y : Bytes) : a.feed (x ++ y) = (a.feed x).feed y := by
  simp only [feed, List.foldl_append, List.reverse_reverse]
  rw [foldl_cutByte_append y]
  simp

end Assembler

end SmtpLink
