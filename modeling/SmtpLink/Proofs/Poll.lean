import SmtpLink.Reply.Assembler

/-!
# Feeding and polling

What the assembler does with a chunk does not depend on what was polled before it came: a poll
that yields nothing only reads lines that the next poll would read first.  So an assembler is
known by what its polls yield after further chunks, however far its reading has gone.

## Main definitions

* `ended` — lines with their line feeds.

## Main results

* `Assembler.feed_ended` — whole lines are cut into these lines.
* `Assembler.poll_feed_poll` — **a poll that yields nothing makes no difference to what comes.**
* `Assembler.poll_expect_iff` — what a change of the size of a batch makes due.
-/

namespace SmtpLink

/-- Lines with their line feeds. -/
def ended (lines : List Bytes) : Bytes := lines.flatMap (· ++ [lineFeed])

theorem ended_cons (line : Bytes) (lines : List Bytes) :
    ended (line :: lines) = line ++ lineFeed :: ended lines := by
  rw [ended, List.flatMap_cons, List.append_assoc]
  rfl

theorem ended_append (lines more : List Bytes) :
    ended (lines ++ more) = ended lines ++ ended more := List.flatMap_append

/-- A part of the stream that lines make ends with one of them, or inside one of them. -/
theorem prefix_ended {lines : List Bytes} {data : Bytes} (h : data <+: ended lines) :
    data = ended lines ∨ ∃ (whole : List Bytes) (line : Bytes) (more : List Bytes) (part : Bytes),
      lines = whole ++ line :: more ∧ data = ended whole ++ part ∧ part <+: line := by
  induction lines generalizing data with
  | nil => exact .inl (List.prefix_nil.mp h)
  | cons line lines ih =>
    rw [ended_cons] at h
    rcases List.prefix_or_prefix_of_prefix h (List.prefix_append line _) with inside | ⟨rest, rfl⟩
    · exact .inr ⟨[], line, lines, data, rfl, rfl, inside⟩
    · have tail := (List.prefix_append_right_inj line).mp h
      cases rest with
      | nil => exact .inr ⟨[], line, lines, line, rfl, List.append_nil line, List.prefix_refl line⟩
      | cons b rest =>
        obtain ⟨rfl, behind⟩ := List.cons_prefix_cons.mp tail
        rcases ih behind with rfl | ⟨whole, last, more, part, rfl, rfl, inside⟩
        · exact .inl (ended_cons line lines).symm
        · refine .inr ⟨line :: whole, last, more, part, rfl, ?_, inside⟩
          rw [ended_cons, List.append_assoc]
          rfl

namespace Assembler

/-! ### Feeding -/

@[simp] theorem feed_nil (a : Assembler) : a.feed [] = a := by
  simp [feed]

theorem foldl_cutByte_of_clean (data : Bytes) (clean : lineFeed ∉ data) (lines : List Bytes)
    (unended : Bytes) : data.foldl cutByte (lines, unended) = (lines, data.reverse ++ unended) := by
  induction data generalizing unended with
  | nil => rfl
  | cons b rest ih =>
    obtain ⟨notFeed, clean⟩ := not_or.mp (fun h => clean (List.mem_cons.mpr h))
    rw [List.foldl_cons, cutByte, if_neg (Ne.symm notFeed), ih clean, List.reverse_cons,
      List.append_assoc]
    rfl

/-- A chunk without a line feed lengthens the unended line. -/
theorem feed_of_clean (a : Assembler) {data : Bytes} (clean : lineFeed ∉ data) :
    a.feed data = { a with unended := a.unended ++ data } := by
  simp [feed, foldl_cutByte_of_clean data clean]

/-- A line feed ends the unended line. -/
theorem feed_lineFeed (a : Assembler) :
    a.feed [lineFeed] = { a with ready := a.ready ++ [a.unended], unended := [] } := by
  simp [feed, cutByte]

/-- Whole lines are cut into these lines. -/
theorem feed_ended {lines : List Bytes} (clean : ∀ line ∈ lines, lineFeed ∉ line) {a : Assembler}
    (unended : a.unended = []) : a.feed (ended lines) = { a with ready := a.ready ++ lines } := by
  induction lines generalizing a with
  | nil => simp [ended]
  | cons line lines ih =>
    obtain ⟨cleanLine, cleanLines⟩ := List.forall_mem_cons.mp clean
    have first : a.feed (line ++ [lineFeed]) = { a with ready := a.ready ++ [line] } := by
      rw [feed_append, feed_of_clean a cleanLine, feed_lineFeed]
      simp [unended]
    rw [ended_cons, ← List.singleton_append, ← List.append_assoc, feed_append, first]
    refine (ih cleanLines ?_).trans ?_
    · exact unended
    · simp

/-! ### Polling -/

theorem length_le_of_readLine {block block' : List String} {completed completed' : List Reply}
    {raw : Bytes} (h : readLine block completed raw = .taken block' completed') :
    completed.length ≤ completed'.length := by
  unfold readLine at h
  dsimp only at h
  split at h
  · injection h with _ h
    exact Nat.le_of_eq (congrArg _ h)
  · split at h
    · exact absurd h (by simp)
    · injection h with _ h
      exact Nat.le_of_eq (congrArg _ h)
    · split at h
      · exact absurd h (by simp)
      · injection h with _ h
        rw [← h, List.length_append]
        omega

/-- A poll that yields nothing has read every complete line, and found neither a whole batch nor
a line that is too long. -/
theorem pollLines_of_none (a : Assembler) (block : List String) (completed : List Reply)
    (lines : List Bytes) (h : (a.pollLines block completed lines).2 = none) :
    (a.pollLines block completed lines).1.ready = [] ∧
      completed.length ≤ (a.pollLines block completed lines).1.completed.length ∧
      (a.pollLines block completed lines).1.completed.length < a.expected ∧
      (a.pollLines block completed lines).1.unended.length ≤ maxLineLength := by
  fun_induction pollLines a block completed lines with
  | case1 => exact absurd h (by simp)
  | case2 => exact absurd h (by simp)
  | case3 block completed notWhole short =>
    exact ⟨rfl, Nat.le_refl _, Nat.not_le.mp notWhole, Nat.not_lt.mp short⟩
  | case4 => exact absurd h (by simp)
  | case5 => exact absurd h (by simp)
  | case6 block completed raw rest notWhole block' completed' taken ih =>
    obtain ⟨ready, grown, fewer, short⟩ := ih h
    exact ⟨ready, Nat.le_trans (length_le_of_readLine taken) grown, fewer, short⟩

/-- A batch has the replies that it was waited for with. -/
theorem expected_le_of_pollLines (a : Assembler) (block : List String) (completed : List Reply)
    (lines : List Bytes) {batch : List Reply}
    (h : (a.pollLines block completed lines).2 = some (.ok batch)) :
    a.expected ≤ batch.length := by
  fun_induction pollLines a block completed lines with
  | case1 block completed whole =>
    obtain rfl : completed = batch := by simpa using h
    exact whole
  | case2 => exact absurd h (by simp)
  | case3 => exact absurd h (by simp)
  | case4 block completed raw rest whole =>
    obtain rfl : completed = batch := by simpa using h
    exact whole
  | case5 => exact absurd h (by simp)
  | case6 block completed raw rest notWhole block' completed' taken ih => exact ih h

/-- A batch is never empty. -/
theorem batch_ne_nil {a : Assembler} {batch : List Reply} (h : a.poll.2 = some (.ok batch)) :
    batch ≠ [] := by
  have whole := expected_le_of_pollLines a a.block a.completed a.ready h
  have positive := a.one_le_expected
  exact List.ne_nil_of_length_pos (by omega)

theorem poll_of_drained {a : Assembler} (ready : a.ready = [])
    (fewer : a.completed.length < a.expected) (short : a.unended.length ≤ maxLineLength) :
    a.poll = (a, none) := by
  obtain ⟨lines, unended, block, completed, expected, positive⟩ := a
  subst ready
  rw [poll, pollLines, if_neg (Nat.not_le.mpr fewer), if_neg (Nat.not_lt.mpr short)]

/-- What a poll leaves when it yields nothing yields nothing. -/
theorem poll_poll_of_none {a : Assembler} (h : a.poll.2 = none) :
    a.poll.1.poll = (a.poll.1, none) := by
  obtain ⟨ready, -, fewer, short⟩ := pollLines_of_none a a.block a.completed a.ready h
  refine poll_of_drained ready ?_ short
  rw [expected_poll]
  exact fewer

theorem pollLines_expect_iff (a : Assembler) (n : Nat) (block : List String)
    (completed : List Reply) (lines : List Bytes)
    (h : (a.pollLines block completed lines).2 = none) :
    ((a.expect n).pollLines block completed lines).2 = none ↔
      (a.pollLines block completed lines).1.completed.length < max n 1 := by
  fun_induction pollLines a block completed lines with
  | case1 => exact absurd h (by simp)
  | case2 => exact absurd h (by simp)
  | case3 block completed notWhole short =>
    rw [pollLines]
    split
    · next whole => exact iff_of_false (by simp) (Nat.not_lt.mpr whole)
    · next few =>
      refine iff_of_true ?_ (Nat.not_le.mp few)
      rw [if_neg (by exact short)]
  | case4 => exact absurd h (by simp)
  | case5 => exact absurd h (by simp)
  | case6 block completed raw rest notWhole block' completed' taken ih =>
    have grown := Nat.le_trans (length_le_of_readLine taken) (pollLines_of_none a _ _ _ h).2.1
    rw [pollLines]
    split
    · next whole =>
      have whole : max n 1 ≤ completed.length := whole
      exact iff_of_false (by simp) (by omega)
    · rw [taken]
      exact ih h

/-- If nothing is due, a change of the size of a batch makes a batch due exactly if that many
replies lie there. -/
theorem poll_expect_iff {a : Assembler} (h : a.poll.2 = none) (n : Nat) :
    (a.expect n).poll.2 = none ↔ a.poll.1.completed.length < max n 1 :=
  pollLines_expect_iff a n a.block a.completed a.ready h

/-! ### Polling again -/

/-- A poll looks only at the unended line and at the size of a batch. -/
theorem pollLines_congr {a a' : Assembler} (unended : a'.unended = a.unended)
    (expected : a'.expected = a.expected) (block : List String) (completed : List Reply)
    (lines : List Bytes) :
    a'.pollLines block completed lines = a.pollLines block completed lines := by
  obtain ⟨ready, rest, old, held, n, positive⟩ := a
  obtain ⟨ready', rest', old', held', n', positive'⟩ := a'
  obtain rfl : rest' = rest := unended
  obtain rfl : n' = n := expected
  induction lines generalizing block completed with
  | nil => rfl
  | cons raw lines ih =>
    simp only [pollLines]
    split
    · rfl
    · split
      · rfl
      · exact ih _ _

/-- Lines that yield nothing are read, and nothing else is done with them. -/
theorem pollLines_append_of_none {a a' : Assembler} (expected : a'.expected = a.expected)
    {block : List String} {completed : List Reply} {lines : List Bytes}
    (h : (a.pollLines block completed lines).2 = none) (more : List Bytes) :
    a'.pollLines block completed (lines ++ more) =
      a'.pollLines (a.pollLines block completed lines).1.block
        (a.pollLines block completed lines).1.completed more := by
  fun_induction pollLines a block completed lines with
  | case1 => exact absurd h (by simp)
  | case2 => exact absurd h (by simp)
  | case3 => rfl
  | case4 => exact absurd h (by simp)
  | case5 => exact absurd h (by simp)
  | case6 block completed raw rest notWhole block' completed' taken ih =>
    rw [List.cons_append, pollLines, if_neg (by rw [expected]; exact notWhole), taken]
    exact ih h

/-- Lines behind those that yield something stay unread. -/
theorem ready_pollLines_append {a : Assembler} (short : a.unended.length ≤ maxLineLength)
    {block : List String} {completed : List Reply} {lines : List Bytes}
    (h : (a.pollLines block completed lines).2 ≠ none) (more : List Bytes) :
    (a.pollLines block completed (lines ++ more)).1.ready =
      (a.pollLines block completed lines).1.ready ++ more := by
  fun_induction pollLines a block completed lines with
  | case1 block completed whole => cases more <;> rw [List.nil_append, pollLines, if_pos whole]
  | case2 block completed notWhole long => exact absurd short (Nat.not_le.mpr long)
  | case3 => exact absurd rfl h
  | case4 block completed raw rest whole => rw [List.cons_append, pollLines, if_pos whole]
  | case5 block completed raw rest notWhole err refused =>
    rw [List.cons_append, pollLines, if_neg notWhole, refused]
  | case6 block completed raw rest notWhole block' completed' taken ih =>
    rw [List.cons_append, pollLines, if_neg notWhole, taken]
    exact ih h

theorem unended_pollLines_of_none (a : Assembler) (block : List String) (completed : List Reply)
    (lines : List Bytes) (h : (a.pollLines block completed lines).2 = none) :
    (a.pollLines block completed lines).1.unended = a.unended := by
  fun_induction pollLines a block completed lines with
  | case1 => rfl
  | case2 => exact absurd h (by simp)
  | case3 => rfl
  | case4 => rfl
  | case5 => rfl
  | case6 block completed raw rest notWhole block' completed' taken ih => exact ih h

/-- **A poll that yields nothing makes no difference to what comes.** -/
theorem poll_feed_poll {a : Assembler} (h : a.poll.2 = none) (data : Bytes) :
    (a.poll.1.feed data).poll = (a.feed data).poll := by
  have ready : a.poll.1.ready = [] := (pollLines_of_none a _ _ _ h).1
  have unended : a.poll.1.unended = a.unended := unended_pollLines_of_none a _ _ _ h
  have cut : (a.poll.1.feed data).ready =
      (data.foldl cutByte ([], a.unended.reverse)).1.reverse := by
    have fed : (a.poll.1.feed data).ready = a.poll.1.ready ++
        (data.foldl cutByte ([], a.poll.1.unended.reverse)).1.reverse := rfl
    rw [fed, ready, unended, List.nil_append]
  have rest : (a.poll.1.feed data).unended = (a.feed data).unended := by
    rw [feed, feed, unended]
  calc (a.poll.1.feed data).poll
    _ = (a.poll.1.feed data).pollLines a.poll.1.block a.poll.1.completed
          (data.foldl cutByte ([], a.unended.reverse)).1.reverse := by rw [← cut]; rfl
    _ = (a.feed data).pollLines a.poll.1.block a.poll.1.completed
          (data.foldl cutByte ([], a.unended.reverse)).1.reverse :=
        pollLines_congr rest (expected_poll a) _ _ _
    _ = (a.feed data).poll := (pollLines_append_of_none (expected_feed a data) h _).symm

end Assembler

end SmtpLink
