import Mathlib.Data.List.Induction
import Mathlib.Data.List.Infix
import SmtpLink.Proofs.RoundTrip
import SmtpLink.Proofs.Upgrade

/-!
# The limit on the length of a line

The limit is on lines whose end has not come: when a poll has handed out everything else, and more
than so many bytes lie there without a line feed, all input is dropped with an error.  A line that
comes with its line feed, or whose line feed comes before the next poll, is read like any other,
however long it is.  And what comes of a line behind the drop is read as a line of its own.

So the results depend on where it is polled, but on nothing else: they are those of an *intake*,
which knows the stream since the last drop and how much of its reading is handed out.

## Main definitions

* `Intake` — the stream since the last drop, and how many results of its reading are handed out.
* `Intake.poll`, `Intake.pollAll` — what polls yield.
* `Intake.Reaches` — a step whose polls get to the open line.

## Main results

* `Intake.Held.step` — an assembler does what the intake says.
* `AssemblerScript.results_eq_intake` — the results of a script are those of the intake.
* `AssemblerScript.too_long_told_iff` — **a line is called too long exactly if it is polled while
  more of it than the limit lies there open**; lines of any length are read if that is not so.
-/

namespace SmtpLink

/-- No character is encoded in less than a byte. -/
theorem Utf8.length_le_encode (text : String) : text.toList.length ≤ (encode text).length := by
  rw [encode]
  induction text.toList with
  | nil => exact Nat.le_refl _
  | cons c chars ih =>
    have some : 0 < (String.utf8EncodeChar c).length := by
      rw [String.length_utf8EncodeChar]
      exact c.utf8Size_pos
    rw [List.flatMap_cons, List.length_append, List.length_cons]
    omega

namespace Reading

/-! ### Open lines -/

theorem openLine_of_clean {data : Bytes} (clean : lineFeed ∉ data) : openLine data = data :=
  openLine_ended (show ∀ line ∈ ([] : List Bytes), lineFeed ∉ line by simp) clean

/-- Bytes without a line feed go on with the open line. -/
theorem openLine_append_of_clean (stream : Bytes) {data : Bytes} (clean : lineFeed ∉ data) :
    openLine (stream ++ data) = openLine stream ++ data := by
  rw [openLine_append, openLine_of_clean]
  rw [List.mem_append, not_or]
  exact ⟨lineFeed_not_mem_openLine stream, clean⟩

/-- Behind a line feed it does not matter what came before. -/
theorem openLine_append_of_mem (stream : Bytes) {data : Bytes} (ends : lineFeed ∈ data) :
    openLine (stream ++ data) = openLine data := by
  obtain ⟨first, rest, rfl⟩ := List.append_of_mem ends
  have behind (front : Bytes) : openLine (front ++ lineFeed :: rest) = openLine rest := by
    have ended : openLine (front ++ [lineFeed]) = [] := by
      obtain ⟨lines, last, rfl, clean, cleanLast⟩ := exists_cut front
      have whole : ended lines ++ last ++ [lineFeed] = ended (lines ++ [last]) ++ [] := by
        rw [ended_append, List.append_nil, List.append_assoc, ended_cons]
        rfl
      rw [whole]
      refine openLine_ended ?_ (by simp)
      exact List.forall_mem_append.mpr ⟨clean, List.forall_mem_singleton.mpr cleanLast⟩
    rw [← List.singleton_append, ← List.append_assoc, openLine_append, ended, List.nil_append]
  rw [← List.append_assoc, behind, behind]

/-- The open line of the end of a stream is the end of its open line. -/
theorem openLine_suffix {stream whole : Bytes} (h : stream <:+ whole) :
    openLine stream <:+ openLine whole := by
  obtain ⟨front, rfl⟩ := h
  by_cases ends : lineFeed ∈ stream
  · rw [openLine_append_of_mem front ends]
  · rw [openLine_append_of_clean front ends, openLine_of_clean ends]
    exact List.suffix_append _ _

/-- Bytes that end inside a line that begins behind `before` end inside it or before it begins. -/
theorem part_of_append {before part stream data : Bytes} (starts : openLine before = [])
    (clean : lineFeed ∉ data) (h : before ++ part = stream ++ data) :
    ∃ front, stream = before ++ front ∧ front <+: part := by
  rcases List.append_eq_append_iff.mp h with ⟨front, rfl, rfl⟩ | ⟨rest, rfl, rfl⟩
  · exact ⟨front, rfl, List.prefix_append front data⟩
  · -- the line feed before the line cannot be among the bytes behind the stream
    have none : lineFeed ∉ rest := fun mem => clean (List.mem_append_left part mem)
    rw [openLine_append_of_clean stream none, List.append_eq_nil_iff] at starts
    obtain ⟨-, rfl⟩ := starts
    exact ⟨[], by simp, List.nil_prefix⟩

/-! ### More of a stream -/

theorem texts_append (lines more : List Bytes) :
    texts (lines ++ more) = texts lines ++ texts more := by
  rw [texts, List.map_append, List.filter_append]
  rfl

/-- What becomes of lines does not depend on what comes behind them. -/
theorem replies_append (block : List String) (lines more : List String) :
    ∃ left, replies block (lines ++ more) = replies block lines ++ replies left more := by
  fun_induction replies block lines with
  | case1 block => exact ⟨block, rfl⟩
  | case2 block line rest err malformed ih =>
    obtain ⟨left, same⟩ := ih
    refine ⟨left, ?_⟩
    rw [List.cons_append, replies, malformed]
    exact congrArg _ same
  | case3 block line rest continues ih =>
    obtain ⟨left, same⟩ := ih
    refine ⟨left, ?_⟩
    rw [List.cons_append, replies, continues]
    exact same
  | case4 block line rest final ih =>
    obtain ⟨left, same⟩ := ih
    refine ⟨left, ?_⟩
    rw [List.cons_append, replies, final]
    exact congrArg _ same

theorem batches_append (n : Nat) (completed : List Reply) (all more : List (Except Error Reply)) :
    ∃ left, batches n completed (all ++ more) = batches n completed all ++ batches n left more := by
  fun_induction batches n completed all with
  | case1 completed => exact ⟨completed, rfl⟩
  | case2 completed err rest ih =>
    obtain ⟨left, same⟩ := ih
    exact ⟨left, congrArg _ same⟩
  | case3 completed reply rest whole ih =>
    obtain ⟨left, same⟩ := ih
    refine ⟨left, ?_⟩
    rw [List.cons_append, batches, if_pos whole]
    exact congrArg _ same
  | case4 completed reply rest notWhole ih =>
    obtain ⟨left, same⟩ := ih
    refine ⟨left, ?_⟩
    rw [List.cons_append, batches, if_neg notWhole]
    exact same

/-- No line that is read is called too long. -/
theorem lineTooLong_not_mem_replies (block lines : List String) :
    .error (.protocol .lineTooLong) ∉ replies block lines := by
  fun_induction replies block lines with
  | case1 => simp
  | case2 block line rest err malformed ih =>
    rw [List.mem_cons, not_or]
    refine ⟨?_, ih⟩
    intro same
    obtain rfl := Except.error.inj same
    exact Assembler.classify_ne_lineTooLong line malformed
  | case3 block line rest continues ih => exact ih
  | case4 block line rest final ih =>
    rw [List.mem_cons, not_or]
    exact ⟨fun same => Assembler.ofLines_ne_lineTooLong _ same.symm, ih⟩

theorem lineTooLong_not_mem_batches (n : Nat) (completed : List Reply)
    {all : List (Except Error Reply)} (none : .error (.protocol .lineTooLong) ∉ all) :
    .error (.protocol .lineTooLong) ∉ batches n completed all := by
  fun_induction batches n completed all with
  | case1 => simp
  | case2 completed err rest ih =>
    rw [List.mem_cons, not_or] at none ⊢
    refine ⟨?_, ih none.2⟩
    intro same
    exact none.1 (congrArg Except.error (Except.error.inj same))
  | case3 completed reply rest whole ih =>
    rw [List.mem_cons, not_or] at none ⊢
    exact ⟨by simp, ih none.2⟩
  | case4 completed reply rest notWhole ih =>
    rw [List.mem_cons, not_or] at none
    exact ih none.2

end Reading

open Reading

theorem lineTooLong_not_mem_reading (n : Nat) (stream : Bytes) :
    .error (.protocol .lineTooLong) ∉ reading n stream :=
  lineTooLong_not_mem_batches n [] (lineTooLong_not_mem_replies [] _)

/-- The reading of a stream goes on with what comes behind it. -/
theorem reading_goes_on (n : Nat) (stream data : Bytes) :
    reading n stream <+: reading n (stream ++ data) := by
  rw [reading, reading, wholeLines_append, texts_append]
  obtain ⟨block, lines⟩ := replies_append [] (texts (wholeLines stream))
    (texts (wholeLines (openLine stream ++ data)))
  obtain ⟨completed, all⟩ := batches_append n [] (replies [] (texts (wholeLines stream)))
    (replies block (texts (wholeLines (openLine stream ++ data))))
  rw [lines, all]
  exact List.prefix_append _ _

namespace Assembler

/-! ### The open line -/

/-- The assembler without its open line. -/
def closed (a : Assembler) : Assembler := { a with unended := [] }

/-- The assembler with another open line. -/
def withUnended (a : Assembler) (unended : Bytes) : Assembler := { a with unended }

/-- A poll that finds something looks at no open line. -/
theorem pollLines_of_some {a : Assembler} {block : List String} {completed : List Reply}
    {lines : List Bytes} {result : Except Error (List Reply)}
    (found : (a.closed.pollLines block completed lines).2 = some result) :
    a.pollLines block completed lines =
      ((a.closed.pollLines block completed lines).1.withUnended a.unended, some result) := by
  fun_induction pollLines a.closed block completed lines with
  | case1 block completed whole =>
    obtain rfl := Option.some.inj found
    rw [pollLines, if_pos (show a.expected ≤ completed.length from whole)]
    rfl
  | case2 block completed notWhole long => exact absurd long (by simp [closed])
  | case3 => exact absurd found (by simp)
  | case4 block completed raw rest whole =>
    obtain rfl := Option.some.inj found
    rw [pollLines, if_pos (show a.expected ≤ completed.length from whole)]
    rfl
  | case5 block completed raw rest notWhole err refused =>
    obtain rfl := Option.some.inj found
    rw [pollLines, if_neg (show ¬ a.expected ≤ completed.length from notWhole), refused]
    rfl
  | case6 block completed raw rest notWhole block' completed' taken ih =>
    rw [pollLines, if_neg (show ¬ a.expected ≤ completed.length from notWhole), taken]
    exact ih found

/-- A poll that finds nothing else looks at the open line. -/
theorem pollLines_of_nothing {a : Assembler} {block : List String} {completed : List Reply}
    {lines : List Bytes} (nothing : (a.closed.pollLines block completed lines).2 = none) :
    a.pollLines block completed lines =
      if maxLineLength < a.unended.length then
        (a.reset, some (.error (.protocol .lineTooLong)))
      else ((a.closed.pollLines block completed lines).1.withUnended a.unended, none) := by
  fun_induction pollLines a.closed block completed lines with
  | case1 => exact absurd nothing (by simp)
  | case2 => exact absurd nothing (by simp)
  | case3 block completed notWhole notLong =>
    rw [pollLines, if_neg (show ¬ a.expected ≤ completed.length from notWhole)]
    rfl
  | case4 => exact absurd nothing (by simp)
  | case5 => exact absurd nothing (by simp)
  | case6 block completed raw rest notWhole block' completed' taken ih =>
    rw [pollLines, if_neg (show ¬ a.expected ≤ completed.length from notWhole), taken]
    exact ih nothing

namespace Reads

variable {a : Assembler} {stream : Bytes} {results : List (Except Error (List Reply))}

/-- Whatever the open line is, a poll goes on with the reading until nothing else is left. -/
theorem poll_closed (h : a.Reads stream results) :
    (a.closed.poll.1.withUnended a.unended).Reads stream
      (results ++ a.closed.poll.2.toList) := by
  have expected : a.closed.poll.1.expected = a.expected := expected_poll a.closed
  refine ⟨h.unended, ?_, fun more => ?_⟩
  · exact length_completed_pollLines a.closed _ _ _ |>.trans_eq expected.symm
  · have rest := reading_poll (a := a.closed) (Nat.zero_le _) h.few more
    show batches a.closed.poll.1.expected [] _ = results ++ a.closed.poll.2.toList ++
      batches a.closed.poll.1.expected a.closed.poll.1.completed
        (replies a.closed.poll.1.block (texts (a.closed.poll.1.ready ++ more)))
    rw [expected, List.append_assoc]
    exact (h.read more).trans (congrArg (results ++ ·) rest)

/-- The reading is what was handed out and what lies there. -/
theorem reading_eq (h : a.Reads stream results) : reading a.expected stream =
    results ++ batches a.expected a.completed (replies a.block (texts a.ready)) := by
  have all := h.read []
  rwa [List.append_nil, List.append_nil] at all

end Reads

end Assembler

/-! ### Intakes -/

/-- What has come since all input was dropped last, and how many results of its reading are
handed out. -/
structure Intake where
  /-- The bytes that have come. -/
  stream : Bytes := []
  /-- How many results are handed out. -/
  taken : Nat := 0

namespace Intake

variable {n : Nat} {i : Intake} {a : Assembler} {s : AssemblerStep}

/-- The open line is longer than what is waited for. -/
def Overlong (i : Intake) : Prop := maxLineLength < (openLine i.stream).length

instance (i : Intake) : Decidable i.Overlong :=
  inferInstanceAs (Decidable (maxLineLength < (openLine i.stream).length))

/-- Takes a chunk. -/
def feed (i : Intake) (data : Bytes) : Intake := { i with stream := i.stream ++ data }

/-- What a poll yields: the next result of the reading, and when there is none an error if the open
line is too long.  Then all begins afresh. -/
def poll (n : Nat) (i : Intake) : Intake × Assembler.Polled :=
  match (reading n i.stream)[i.taken]? with
  | some result => ({ i with taken := i.taken + 1 }, some result)
  | none =>
    if i.Overlong then ({}, some (.error (.protocol .lineTooLong))) else (i, none)

/-- What polls yield until nothing is left: the rest of the reading, and an error if the open line
is too long. -/
def pollAll (n : Nat) (i : Intake) : Intake × List (Except Error (List Reply)) :=
  if i.Overlong then
    ({}, (reading n i.stream).drop i.taken ++ [.error (.protocol .lineTooLong)])
  else
    ({ i with taken := (reading n i.stream).length }, (reading n i.stream).drop i.taken)

/-- A step of a script that feeds or polls, and the results of its polls. -/
def step (n : Nat) (i : Intake) : AssemblerStep → Intake × List (Except Error (List Reply))
  | .feed data => (i.feed data, [])
  | .poll => ((i.poll n).1, (i.poll n).2.toList)
  | .pollAll => i.pollAll n
  | .expect _ | .reset => (i, [])

/-- The intake after the steps of a script. -/
def after (n : Nat) (i : Intake) (steps : List AssemblerStep) : Intake :=
  steps.foldl (fun i s => (i.step n s).1) i

/-- The results of all polls in a script. -/
def results (n : Nat) (i : Intake) : List AssemblerStep → List (Except Error (List Reply))
  | [] => []
  | s :: rest => (i.step n s).2 ++ results n (i.step n s).1 rest

/-- The polls of a step get to the open line: they go on until nothing is left, or nothing else was
left before. -/
def Reaches (n : Nat) (i : Intake) (s : AssemblerStep) : Prop :=
  s = .pollAll ∨ s = .poll ∧ (reading n i.stream).length ≤ i.taken

/-- An assembler that stands where an intake stands. -/
structure Held (n : Nat) (i : Intake) (a : Assembler) : Prop where
  /-- The batches have this size. -/
  expected : a.expected = n
  /-- So many results of the stream are handed out. -/
  reads : ∃ results, a.Reads i.stream results ∧ results.length = i.taken

/-! ### Assemblers and intakes -/

theorem held_reset (a : Assembler) : Held a.expected {} a.reset :=
  ⟨rfl, [], ⟨rfl, a.one_le_expected, fun _ => rfl⟩, rfl⟩

theorem held_expect (n : Nat) : Held (max n 1) {} (({} : Assembler).expect n) :=
  ⟨rfl, [], .fresh n, rfl⟩

theorem Held.taken_le (held : Held n i a) : i.taken ≤ (reading n i.stream).length := by
  obtain ⟨rfl, results, reads, length⟩ := held
  rw [reads.reading_eq, List.length_append, length]
  exact Nat.le_add_right _ _

theorem Held.feed (held : Held n i a) (data : Bytes) : Held n (i.feed data) (a.feed data) := by
  obtain ⟨rfl, results, reads, length⟩ := held
  exact ⟨rfl, results, reads.feed data, length⟩

/-- **A poll yields what the intake says.** -/
theorem Held.poll (held : Held n i a) :
    Held n (i.poll n).1 a.poll.1 ∧ a.poll.2 = (i.poll n).2 := by
  obtain ⟨rfl, results, reads, length⟩ := held
  have next := reads.poll_closed
  have expected : a.closed.poll.1.expected = a.expected := Assembler.expected_poll a.closed
  have whole : reading a.expected i.stream = results ++ a.closed.poll.2.toList ++
      batches a.expected a.closed.poll.1.completed
        (replies a.closed.poll.1.block (texts a.closed.poll.1.ready)) := by
    rw [← expected]
    exact next.reading_eq
  cases found : a.closed.poll.2 with
  | some result =>
    rw [found] at next whole
    have polled : a.poll = (a.closed.poll.1.withUnended a.unended, some result) :=
      Assembler.pollLines_of_some found
    have due : (reading a.expected i.stream)[i.taken]? = some result := by
      rw [whole, ← length]
      simp
    rw [Intake.poll, due, polled]
    refine ⟨⟨expected, _, next, ?_⟩, rfl⟩
    rw [List.length_append, length]
    rfl
  | none =>
    rw [found] at next whole
    have polled : a.poll = _ := Assembler.pollLines_of_nothing found
    have ready : a.closed.poll.1.ready = [] :=
      (Assembler.pollLines_of_none a.closed _ _ _ found).1
    have nothing : (reading a.expected i.stream)[i.taken]? = none := by
      rw [whole, ready, ← length]
      simp [texts, replies, batches]
    rw [Intake.poll, nothing, polled, reads.unended]
    dsimp only
    by_cases long : i.Overlong
    · rw [if_pos long, if_pos (show maxLineLength < (openLine i.stream).length from long)]
      exact ⟨held_reset a, rfl⟩
    · rw [if_neg long, if_neg (show ¬ maxLineLength < (openLine i.stream).length from long)]
      rw [Option.toList_none, List.append_nil] at next
      exact ⟨⟨expected, results, reads.unended ▸ next, length⟩, rfl⟩

/-- A poll hands out the next result, or finds the open line too long, or finds nothing. -/
theorem poll_cases (n : Nat) (i : Intake) :
    (∃ result, (reading n i.stream)[i.taken]? = some result ∧
      i.poll n = ({ i with taken := i.taken + 1 }, some result)) ∨
    (reading n i.stream).length ≤ i.taken ∧
      (i.Overlong ∧ i.poll n = ({}, some (.error (.protocol .lineTooLong))) ∨
        ¬ i.Overlong ∧ i.poll n = (i, none)) := by
  cases due : (reading n i.stream)[i.taken]? with
  | some result =>
    refine .inl ⟨result, rfl, ?_⟩
    rw [poll, due]
  | none =>
    refine .inr ⟨List.getElem?_eq_none_iff.mp due, ?_⟩
    by_cases long : i.Overlong
    · refine .inl ⟨long, ?_⟩
      rw [poll, due]
      exact if_pos long
    · refine .inr ⟨long, ?_⟩
      rw [poll, due]
      exact if_neg long

/-- Nothing is left of a fresh intake. -/
theorem pollAll_fresh (n : Nat) : ({} : Intake).pollAll n = ({}, []) := rfl

/-- Polls until nothing is left begin with a poll. -/
theorem pollAll_of_some {result : Except Error (List Reply)}
    (found : (i.poll n).2 = some result) : i.pollAll n =
      (((i.poll n).1.pollAll n).1, result :: ((i.poll n).1.pollAll n).2) := by
  rcases poll_cases n i with ⟨next, due, polled⟩ | ⟨all, ⟨long, polled⟩ | ⟨-, polled⟩⟩
  · rw [polled] at found ⊢
    obtain rfl := Option.some.inj found
    obtain ⟨below, due⟩ := List.getElem?_eq_some_iff.mp due
    have rest : (reading n i.stream).drop i.taken =
        next :: (reading n i.stream).drop (i.taken + 1) := by
      rw [List.drop_eq_getElem_cons below, due]
    by_cases long : i.Overlong
    · have again : ({ i with taken := i.taken + 1 } : Intake).Overlong := long
      rw [pollAll, if_pos long, rest, pollAll, if_pos again]
      rfl
    · have again : ¬ ({ i with taken := i.taken + 1 } : Intake).Overlong := long
      rw [pollAll, if_neg long, rest, pollAll, if_neg again]
  · rw [polled] at found ⊢
    obtain rfl := Option.some.inj found
    rw [pollAll_fresh, pollAll, if_pos long, List.drop_eq_nil_of_le all]
    rfl
  · rw [polled] at found
    exact absurd found (by simp)

/-- A poll that finds nothing leaves the intake as it is. -/
theorem poll_of_none (nothing : (i.poll n).2 = none) :
    i.poll n = (i, none) ∧ (reading n i.stream).length ≤ i.taken ∧ ¬ i.Overlong := by
  rcases poll_cases n i with ⟨next, -, polled⟩ | ⟨all, ⟨-, polled⟩ | ⟨short, polled⟩⟩
  · exact absurd (polled ▸ nothing) (by simp)
  · exact absurd (polled ▸ nothing) (by simp)
  · exact ⟨polled, all, short⟩

theorem pollAll_of_none (taken : i.taken ≤ (reading n i.stream).length)
    (nothing : (i.poll n).2 = none) : i.pollAll n = (i, []) := by
  obtain ⟨-, all, short⟩ := poll_of_none nothing
  have same : (reading n i.stream).length = i.taken := Nat.le_antisymm all taken
  rw [pollAll, if_neg short, List.drop_eq_nil_of_le all, same]

theorem Held.pollFor {times : Nat} (held : Held n i a) (enough : a.polls < times) :
    Held n (i.pollAll n).1 (Assembler.pollFor times a).1 ∧
      (Assembler.pollFor times a).2 = (i.pollAll n).2 := by
  induction times generalizing i a with
  | zero => exact absurd enough (Nat.not_lt_zero _)
  | succ times ih =>
    obtain ⟨next, same⟩ := held.poll
    rw [Assembler.pollFor]
    cases hp : a.poll with
    | mk a' polled =>
      have first : a.poll.1 = a' := by rw [hp]
      rw [hp] at next same
      cases polled with
      | none =>
        rw [(poll_of_none same.symm).1] at next
        rw [pollAll_of_none held.taken_le same.symm]
        exact ⟨next, rfl⟩
      | some result =>
        have something : a.poll.2 ≠ none := by rw [hp]; simp
        have fewer : a.poll.1.polls < a.polls := Assembler.polls_pollLines something
        rw [first] at fewer
        obtain ⟨rest, results⟩ := ih next (show a'.polls < times by omega)
        rw [pollAll_of_some same.symm]
        exact ⟨rest, congrArg (result :: ·) results⟩

/-- **A step of a script does what the intake says.** -/
theorem Held.step (held : Held n i a) (reads : s.isReading = true) :
    Held n (i.step n s).1 (AssemblerScript.step a s).1 ∧
      (AssemblerScript.step a s).2.results = (i.step n s).2 := by
  cases s with
  | feed data => exact ⟨held.feed data, rfl⟩
  | poll =>
    obtain ⟨next, same⟩ := held.poll
    rw [AssemblerScript.step, Intake.step, ← same]
    cases hp : a.poll with
    | mk a' polled =>
      rw [hp] at next
      cases polled with
      | none => exact ⟨next, rfl⟩
      | some result => exact ⟨next, rfl⟩
  | pollAll =>
    have enough : a.polls < a.completed.length + a.ready.length + 2 := by
      rw [Assembler.polls]
      split <;> omega
    exact held.pollFor enough
  | expect size => exact absurd reads (by simp [AssemblerStep.isReading])
  | reset => exact absurd reads (by simp [AssemblerStep.isReading])

theorem Held.after {steps : List AssemblerStep} (held : Held n i a)
    (reads : ∀ s ∈ steps, s.isReading = true) :
    Held n (i.after n steps) (AssemblerScript.after a steps) := by
  induction steps generalizing i a with
  | nil => exact held
  | cons s steps ih =>
    obtain ⟨first, rest⟩ := List.forall_mem_cons.mp reads
    exact ih (held.step first).1 rest

theorem Held.results {steps : List AssemblerStep} (held : Held n i a)
    (reads : ∀ s ∈ steps, s.isReading = true) :
    AssemblerScript.polled (AssemblerScript.runOn a steps) = i.results n steps := by
  induction steps generalizing i a with
  | nil => rfl
  | cons s steps ih =>
    obtain ⟨first, rest⟩ := List.forall_mem_cons.mp reads
    obtain ⟨next, same⟩ := held.step first
    rw [Intake.results, ← same, ← ih next rest]
    rfl

/-! ### Lines that are too long -/

/-- Polls call the open line too long exactly if they get to it and it is. -/
theorem lineTooLong_mem_step_iff (n : Nat) (i : Intake) (s : AssemblerStep) :
    .error (.protocol .lineTooLong) ∈ (i.step n s).2 ↔ i.Overlong ∧ i.Reaches n s := by
  have unread := lineTooLong_not_mem_reading n i.stream
  cases s with
  | poll =>
    rw [Intake.step]
    rcases poll_cases n i with ⟨next, due, polled⟩ | ⟨all, ⟨long, polled⟩ | ⟨short, polled⟩⟩
    · obtain ⟨below, due⟩ := List.getElem?_eq_some_iff.mp due
      rw [polled]
      refine iff_of_false ?_ ?_
      · intro mem
        obtain rfl := Option.some.inj (Option.mem_toList.mp mem)
        exact unread (due ▸ List.getElem_mem below)
      · rintro ⟨-, every | ⟨-, all⟩⟩
        · exact absurd every (by simp)
        · exact absurd below (Nat.not_lt.mpr all)
    · rw [polled]
      exact iff_of_true (by simp) ⟨long, .inr ⟨rfl, all⟩⟩
    · rw [polled]
      exact iff_of_false (by simp) fun h => short h.1
  | pollAll =>
    rw [Intake.step, pollAll]
    by_cases long : i.Overlong
    · rw [if_pos long]
      exact iff_of_true (List.mem_append_right _ List.mem_cons_self) ⟨long, .inl rfl⟩
    · rw [if_neg long]
      exact iff_of_false (fun mem => unread (List.mem_of_mem_drop mem)) fun h => long h.1
  | feed | expect | reset =>
    refine iff_of_false (by simp [Intake.step]) ?_
    rintro ⟨-, every | ⟨one, -⟩⟩
    · exact absurd every (by simp)
    · exact absurd one (by simp)

/-- A step goes on with the stream, unless it drops all input. -/
theorem step_cases (n : Nat) (i : Intake) (s : AssemblerStep) :
    (.error (.protocol .lineTooLong) ∈ (i.step n s).2 ∧ s.fed = [] ∧ (i.step n s).1 = {}) ∨
      (i.step n s).1.stream = i.stream ++ s.fed := by
  cases s with
  | feed data => exact .inr rfl
  | poll =>
    rw [Intake.step]
    rcases poll_cases n i with ⟨next, due, polled⟩ | ⟨all, ⟨long, polled⟩ | ⟨short, polled⟩⟩
    · rw [polled]
      exact .inr (List.append_nil _).symm
    · rw [polled]
      exact .inl ⟨by simp, rfl, rfl⟩
    · rw [polled]
      exact .inr (List.append_nil _).symm
  | pollAll =>
    rw [Intake.step, pollAll]
    by_cases long : i.Overlong
    · rw [if_pos long]
      exact .inl ⟨List.mem_append_right _ List.mem_cons_self, rfl, rfl⟩
    · rw [if_neg long]
      exact .inr (List.append_nil _).symm
  | expect | reset => exact .inr (List.append_nil _).symm

theorem after_snoc (n : Nat) (i : Intake) (steps : List AssemblerStep) (s : AssemblerStep) :
    i.after n (steps ++ [s]) = ((i.after n steps).step n s).1 := by
  rw [after, List.foldl_append]
  rfl

/-- What an intake knows is the end of what was fed. -/
theorem stream_after (n : Nat) (steps : List AssemblerStep) :
    (after n {} steps).stream <:+ steps.flatMap AssemblerStep.fed := by
  induction steps using List.reverseRecOn with
  | nil => exact List.suffix_refl _
  | append_singleton steps s ih =>
    rw [after_snoc, List.flatMap_append, List.flatMap_singleton]
    rcases step_cases n (after n {} steps) s with ⟨-, -, afresh⟩ | goes
    · rw [afresh]
      exact List.nil_suffix
    · obtain ⟨dropped, whole⟩ := ih
      rw [goes, ← whole]
      exact ⟨dropped, (List.append_assoc _ _ _).symm⟩

/-- The open line is that of all that was fed, unless a part of it was dropped. -/
theorem openLine_after (n : Nat) (steps : List AssemblerStep) :
    openLine (after n {} steps).stream = openLine (steps.flatMap AssemblerStep.fed) ∨
      ∃ past s later, steps = past ++ s :: later ∧
        .error (.protocol .lineTooLong) ∈ ((after n {} past).step n s).2 ∧
        lineFeed ∉ (s :: later).flatMap AssemblerStep.fed := by
  induction steps using List.reverseRecOn with
  | nil => exact .inl rfl
  | append_singleton steps s ih =>
    rw [after_snoc, List.flatMap_append, List.flatMap_singleton]
    rcases step_cases n (after n {} steps) s with ⟨told, nothing, -⟩ | goes
    · refine .inr ⟨steps, s, [], rfl, told, ?_⟩
      rw [List.flatMap_singleton, nothing]
      exact List.not_mem_nil
    · rw [goes]
      by_cases ends : lineFeed ∈ s.fed
      · left
        rw [openLine_append_of_mem _ ends, openLine_append_of_mem _ ends]
      · rcases ih with same | ⟨past, t, later, rfl, told, clean⟩
        · left
          rw [openLine_append, same, ← openLine_append]
        · refine .inr ⟨past, t, later ++ [s], by simp, told, ?_⟩
          rw [← List.cons_append, List.flatMap_append, List.flatMap_singleton, List.mem_append,
            not_or]
          exact ⟨clean, ends⟩

/-- A step whose polls do not find the open line too long goes on with the stream, and hands out
what is next in the reading, whatever comes. -/
theorem step_of_fits (taken : i.taken ≤ (reading n i.stream).length)
    (fits : s = .poll ∨ s = .pollAll → ¬ i.Overlong) :
    (i.step n s).1.stream = i.stream ++ s.fed ∧
      (i.step n s).1.taken ≤ (reading n (i.step n s).1.stream).length ∧
      ∀ data, (reading n (i.stream ++ s.fed ++ data)).drop i.taken =
        (i.step n s).2 ++
          (reading n (i.stream ++ s.fed ++ data)).drop (i.step n s).1.taken := by
  cases s with
  | feed data =>
    refine ⟨rfl, Nat.le_trans taken ?_, fun more => rfl⟩
    exact (reading_goes_on n i.stream data).length_le
  | poll =>
    have same : i.stream ++ AssemblerStep.poll.fed = i.stream := List.append_nil _
    rw [step]
    rcases poll_cases n i with ⟨next, due, polled⟩ | ⟨all, ⟨long, -⟩ | ⟨-, polled⟩⟩
    · obtain ⟨below, due⟩ := List.getElem?_eq_some_iff.mp due
      rw [polled, same]
      refine ⟨rfl, below, fun data => ?_⟩
      obtain ⟨more, longer⟩ := reading_goes_on n i.stream data
      have rest : i.taken < (reading n i.stream ++ more).length := by
        rw [List.length_append]
        exact Nat.lt_add_right _ below
      rw [← longer, List.drop_eq_getElem_cons rest, List.getElem_append_left below, due]
      rfl
    · exact absurd long (fits (.inl rfl))
    · rw [polled, same]
      exact ⟨rfl, taken, fun data => rfl⟩
  | pollAll =>
    have same : i.stream ++ AssemblerStep.pollAll.fed = i.stream := List.append_nil _
    rw [step, pollAll, if_neg (fits (.inr rfl)), same]
    refine ⟨rfl, Nat.le_refl _, fun data => ?_⟩
    obtain ⟨more, longer⟩ := reading_goes_on n i.stream data
    rw [← longer, List.drop_append_of_le_length taken, List.drop_left]
  | expect | reset => exact ⟨(List.append_nil _).symm, taken, fun data => rfl⟩

/-- As long as no poll finds the open line too long, polls to the end hand out what is left of the
reading of all that comes. -/
theorem results_of_fits {steps : List AssemblerStep}
    (taken : i.taken ≤ (reading n i.stream).length)
    (fits : ∀ past s later, steps ++ [.pollAll] = past ++ s :: later → s = .poll ∨ s = .pollAll →
      (openLine (i.stream ++ past.flatMap AssemblerStep.fed)).length ≤ maxLineLength) :
    i.results n (steps ++ [.pollAll]) =
      (reading n (i.stream ++ steps.flatMap AssemblerStep.fed)).drop i.taken := by
  induction steps generalizing i with
  | nil =>
    have short := fits [] .pollAll [] rfl (.inr rfl)
    rw [List.flatMap_nil, List.append_nil] at short ⊢
    have fine : ¬ i.Overlong := Nat.not_lt.mpr short
    rw [List.nil_append, results, step, pollAll, if_neg fine]
    exact List.append_nil _
  | cons s steps ih =>
    have first : s = .poll ∨ s = .pollAll → ¬ i.Overlong := by
      intro polls
      have short := fits [] s (steps ++ [.pollAll]) rfl polls
      rw [List.flatMap_nil, List.append_nil] at short
      exact Nat.not_lt.mpr short
    obtain ⟨stream, next, handed⟩ := step_of_fits (n := n) taken first
    have rest := ih (i := (i.step n s).1) next fun past t later cut polls => by
      have short := fits (s :: past) t later (by rw [List.cons_append, List.cons_append, cut]) polls
      rwa [stream, List.append_assoc, ← List.flatMap_cons]
    rw [List.flatMap_cons, ← List.append_assoc, handed, ← stream, ← rest]
    rfl

end Intake

namespace AssemblerScript

/-- **The results of all polls are those of the intake**, however the stream is cut and wherever
it is polled. -/
theorem results_eq_intake (n : Nat) {steps : List AssemblerStep}
    (reads : ∀ s ∈ steps, s.isReading = true) :
    polled (run (.expect n :: steps)) = Intake.results (max n 1) {} steps :=
  (Intake.held_expect n).results reads

/-- A line is called too long exactly if it is polled while more of it than the limit lies there
without its line feed. -/
theorem lineTooLong_told_iff (n : Nat) {steps : List AssemblerStep}
    (reads : ∀ s ∈ steps, s.isReading = true) {before line : Bytes} (starts : openLine before = [])
    (clean : lineFeed ∉ line) :
    (∃ past s later part, steps = past ++ s :: later ∧
      past.flatMap AssemblerStep.fed = before ++ part ∧ part <+: line ∧
      .error (.protocol .lineTooLong) ∈
        (step (after (({} : Assembler).expect n) past) s).2.results) ↔
    ∃ past s later part, steps = past ++ s :: later ∧
      past.flatMap AssemblerStep.fed = before ++ part ∧ part <+: line ∧
      maxLineLength < part.length ∧
      (Intake.after (max n 1) {} past).Reaches (max n 1) s := by
  -- what a step of the script yields is what the intake says
  have same (past : List AssemblerStep) (s : AssemblerStep) (later : List AssemblerStep)
      (cut : steps = past ++ s :: later) :
      (step (after (({} : Assembler).expect n) past) s).2.results =
        ((Intake.after (max n 1) {} past).step (max n 1) s).2 := by
    rw [cut] at reads
    obtain ⟨earlier, rest⟩ := List.forall_mem_append.mp reads
    exact (((Intake.held_expect n).after earlier).step (rest s List.mem_cons_self)).2
  have lies {part : Bytes} (inside : part <+: line) : openLine (before ++ part) = part := by
    have none : lineFeed ∉ part := fun mem => clean (inside.subset mem)
    rw [openLine_append_of_clean before none, starts, List.nil_append]
  constructor
  · rintro ⟨past, s, later, part, cut, fed, inside, told⟩
    rw [same past s later cut, Intake.lineTooLong_mem_step_iff] at told
    obtain ⟨long, reaches⟩ := told
    refine ⟨past, s, later, part, cut, fed, inside, ?_, reaches⟩
    have behind := openLine_suffix (Intake.stream_after (max n 1) past)
    rw [fed, lies inside] at behind
    exact Nat.lt_of_lt_of_le long behind.length_le
  · rintro ⟨past, s, later, part, cut, fed, inside, long, reaches⟩
    rcases Intake.openLine_after (max n 1) past with whole | ⟨earlier, t, between, cut', told, none⟩
    · refine ⟨past, s, later, part, cut, fed, inside, ?_⟩
      rw [same past s later cut, Intake.lineTooLong_mem_step_iff]
      rw [fed, lies inside] at whole
      refine ⟨?_, reaches⟩
      rw [Intake.Overlong, whole]
      exact long
    · -- a part of the line has been dropped before, so it was called too long then
      have parts : before ++ part = earlier.flatMap AssemblerStep.fed ++
          (t :: between).flatMap AssemblerStep.fed := by
        rw [← fed, cut', List.flatMap_append]
      obtain ⟨front, fedEarlier, shorter⟩ := part_of_append starts none parts
      have cutEarlier : steps = earlier ++ t :: (between ++ s :: later) := by
        rw [cut, cut', List.append_assoc, List.cons_append]
      refine ⟨earlier, t, between ++ s :: later, front, cutEarlier, fedEarlier, ?_, ?_⟩
      · exact shorter.trans inside
      · rw [same earlier t _ cutEarlier]
        exact told

/-- Lines of any length are read if no poll falls into one behind the limit. -/
theorem reading_of_fits (n : Nat) {steps : List AssemblerStep}
    (reads : ∀ s ∈ steps, s.isReading = true)
    (fits : ∀ past s later, steps ++ [.pollAll] = past ++ s :: later → s = .poll ∨ s = .pollAll →
      (openLine (past.flatMap AssemblerStep.fed)).length ≤ maxLineLength) :
    polled (run (.expect n :: steps ++ [.pollAll])) =
      reading (max n 1) (steps.flatMap AssemblerStep.fed) := by
  have all : ∀ s ∈ steps ++ [.pollAll], s.isReading = true :=
    List.forall_mem_append.mpr ⟨reads, List.forall_mem_singleton.mpr rfl⟩
  rw [List.cons_append, results_eq_intake n all, Intake.results_of_fits (Nat.zero_le _) fits]
  rfl

/-- **A line is called too long exactly if it is polled while more of it than the limit lies there
without its line feed**, and what came of it is dropped then.  The results are those of the intake,
wherever the stream is cut; if no poll falls into a line behind the limit, all lines are read,
however long they are. -/
theorem long_line_told_iff (n : Nat) {steps : List AssemblerStep}
    (reads : ∀ s ∈ steps, s.isReading = true) :
    polled (run (.expect n :: steps)) = Intake.results (max n 1) {} steps ∧
    (∀ before line : Bytes, openLine before = [] → lineFeed ∉ line →
      ((∃ past s later part, steps = past ++ s :: later ∧
          past.flatMap AssemblerStep.fed = before ++ part ∧ part <+: line ∧
          .error (.protocol .lineTooLong) ∈
            (step (after (({} : Assembler).expect n) past) s).2.results) ↔
        ∃ past s later part, steps = past ++ s :: later ∧
          past.flatMap AssemblerStep.fed = before ++ part ∧ part <+: line ∧
          maxLineLength < part.length ∧
          (Intake.after (max n 1) {} past).Reaches (max n 1) s)) ∧
    ((∀ past s later, steps ++ [.pollAll] = past ++ s :: later → s = .poll ∨ s = .pollAll →
        (openLine (past.flatMap AssemblerStep.fed)).length ≤ maxLineLength) →
      polled (run (.expect n :: steps ++ [.pollAll])) =
        reading (max n 1) (steps.flatMap AssemblerStep.fed)) := by
  refine ⟨results_eq_intake n reads, ?_, reading_of_fits n reads⟩
  intro before line starts clean
  exact lineTooLong_told_iff n reads starts clean

/-- A line that comes with its line feed is read as it is, however long. -/
theorem texts_wholeLines_sentLine {line : String} (clean : '\n' ∉ line.toList)
    (kept : line ≠ "" ∧ ∀ c ∈ line.toList.getLast?, isLineEnd c = false) :
    texts (wholeLines (sentLine line ++ [lineFeed])) = [line] := by
  have cut : wholeLines (ended [sentLine line] ++ []) = [sentLine line] :=
    wholeLines_ended (List.forall_mem_singleton.mpr (lineFeed_not_mem_sentLine clean))
      List.not_mem_nil
  have read := texts_sentLine (List.forall_mem_singleton.mpr kept)
  rw [List.append_nil, ended_cons] at cut
  rw [List.map_singleton] at read
  exact (congrArg texts cut).trans read

/-- A reply of one line is read from it, however long the line. -/
theorem reading_sentLine {code : ReplyCode} (three : code.HasThreeDigits) {text : String}
    (clean : '\n' ∉ text.toList ∧ text.toList.getLast? ≠ some '\r') :
    reading 1 (sentLine (code.text ++ " " ++ text) ++ [lineFeed]) = [.ok [⟨code, [text]⟩]] := by
  have wire : Reply.wireLines ⟨code, [text]⟩ = [code.text ++ " " ++ text] := rfl
  have made := replies_wireLines (List.forall_mem_singleton.mpr
    (⟨three, List.cons_ne_nil text []⟩ :
      (⟨code, [text]⟩ : Reply).code.HasThreeDigits ∧ (⟨code, [text]⟩ : Reply).message ≠ []))
  have lines : ∀ line ∈ Reply.wireLines ⟨code, [text]⟩,
      '\n' ∉ line.toList ∧ line ≠ "" ∧ ∀ c ∈ line.toList.getLast?, isLineEnd c = false :=
    fun _ => Reply.of_mem_wireLines (r := ⟨code, [text]⟩) (List.cons_ne_nil text [])
      (List.forall_mem_singleton.mpr clean)
  rw [List.flatMap_singleton, wire] at made
  rw [wire, List.forall_mem_singleton] at lines
  rw [reading, texts_wholeLines_sentLine lines.1 lines.2, made]
  rfl

/-- A reply whose only line is longer than the limit. -/
def lengthy : Reply := ⟨⟨250⟩, [String.ofList (List.replicate 65537 'a')]⟩

/-- The line of that reply as it is sent, without its line feed. -/
def lengthyLine : Bytes := sentLine ("250" ++ " " ++ String.ofList (List.replicate 65537 'a'))

theorem length_lengthyLine : maxLineLength < lengthyLine.length := by
  have long := Utf8.length_le_encode ("250" ++ " " ++ String.ofList (List.replicate 65537 'a'))
  rw [String.toList_append, List.length_append, String.toList_ofList, List.length_replicate] at long
  rw [lengthyLine, sentLine, List.length_append, maxLineLength]
  omega

theorem lineFeed_not_mem_lengthyLine : lineFeed ∉ lengthyLine := by
  refine lineFeed_not_mem_sentLine ?_
  rw [String.toList_append, String.toList_ofList, List.mem_append, List.mem_replicate, not_or]
  exact ⟨by decide, fun h => absurd h.2 (by decide)⟩

/-- In a script of one chunk that ends with a line feed no poll falls into a line. -/
theorem fits_of_ended (line : Bytes) (past : List AssemblerStep) (s : AssemblerStep)
    (later : List AssemblerStep)
    (cut : [.feed (line ++ [lineFeed])] ++ [.pollAll] = past ++ s :: later)
    (polls : s = .poll ∨ s = .pollAll) :
    (openLine (past.flatMap AssemblerStep.fed)).length ≤ maxLineLength := by
  cases past with
  | nil =>
    obtain rfl := (List.cons.inj cut).1
    exact absurd polls (by simp)
  | cons first past =>
    obtain ⟨rfl, rest⟩ := List.cons.inj cut
    cases past with
    | nil =>
      rw [List.flatMap_singleton, AssemblerStep.fed, openLine_append_of_mem _ List.mem_cons_self]
      exact Nat.zero_le _
    | cons second past => exact absurd (congrArg List.length rest) (by simp)

/-- A line behind the limit is called too long when it is polled before its line feed, and is read
when it comes with it. -/
theorem lengthy_line_told :
    (∃ past s later part, [.feed lengthyLine, .pollAll, .feed [lineFeed], .pollAll] =
        past ++ s :: later ∧ past.flatMap AssemblerStep.fed = [] ++ part ∧ part <+: lengthyLine ∧
      .error (.protocol .lineTooLong) ∈
        (step (after (({} : Assembler).expect 1) past) s).2.results) ∧
    polled (run (.expect 1 :: [.feed (lengthyLine ++ [lineFeed])] ++ [.pollAll])) =
      reading 1 ([AssemblerStep.feed (lengthyLine ++ [lineFeed])].flatMap AssemblerStep.fed) := by
  constructor
  · refine ((long_line_told_iff 1 (by simp [AssemblerStep.isReading])).2.1 [] lengthyLine rfl
      lineFeed_not_mem_lengthyLine).mpr ?_
    refine ⟨[.feed lengthyLine], .pollAll, [.feed [lineFeed], .pollAll], lengthyLine, rfl, ?_,
      List.prefix_refl _, length_lengthyLine, .inl rfl⟩
    rw [List.flatMap_singleton, AssemblerStep.fed, List.nil_append]
  · exact (long_line_told_iff 1 (by simp [AssemblerStep.isReading])).2.2
      (fits_of_ended lengthyLine)

/-- **Not every line behind the limit is called too long**: one that comes with its line feed is
read as a reply. -/
theorem lengthy_line_read : maxLineLength < lengthyLine.length ∧ lineFeed ∉ lengthyLine ∧
    polled (run (.expect 1 :: [.feed (lengthyLine ++ [lineFeed])] ++ [.pollAll])) =
      [.ok [lengthy]] := by
  refine ⟨length_lengthyLine, lineFeed_not_mem_lengthyLine, ?_⟩
  have clean : '\n' ∉ (String.ofList (List.replicate 65537 'a')).toList ∧
      (String.ofList (List.replicate 65537 'a')).toList.getLast? ≠ some '\r' := by
    rw [String.toList_ofList, List.mem_replicate, List.getLast?_replicate]
    exact ⟨fun h => absurd h.2 (by decide), by simp⟩
  have digits : (⟨250⟩ : ReplyCode).HasThreeDigits := ⟨by decide, by decide⟩
  have code : (⟨250⟩ : ReplyCode).text = "250" := by decide
  have read := reading_sentLine digits clean
  rw [code] at read
  rw [reading_of_fits 1 (by simp [AssemblerStep.isReading]) (fits_of_ended lengthyLine),
    List.flatMap_singleton, AssemblerStep.fed, lengthyLine, lengthy]
  exact read

end AssemblerScript

end SmtpLink
