import SmtpLink.Proofs.Poll
import SmtpLink.Reply.AssemblerScript

/-!
# The reading of a stream

What an assembler hands out is a matter of the stream alone.  Here a whole stream is read at
once, one stage after the other: it is cut into lines, the lines are decoded and gathered into
blocks, each block is parsed, and the replies are handed out in batches.  An assembler that gets
the stream in chunks, and is polled in between, hands out the same.

## Main definitions

* `Reading.wholeLines`, `Reading.openLine` — a stream cut at its line feeds.
* `Reading.texts`, `Reading.replies`, `Reading.batches` — the stages behind the cutting.
* `reading` — the reading of a stream.
* `Short` — no line is longer than what is waited for.
* `Assembler.Reads` — an assembler in the course of a stream, with what it has handed out.

## Main results

* `Assembler.feed_eq` — a chunk is cut as the stream is.
* `Assembler.reading_poll` — **a poll hands out what is next in the reading.**
* `Assembler.poll_pollAll` — polling until nothing is left ends.
* `AssemblerScript.reading_of_script` — **the results of all polls are the reading of the
  stream**, however it is cut and wherever it is polled.
-/

namespace SmtpLink

namespace Reading

/-- The complete lines of a stream, without their line feeds. -/
def wholeLines (stream : Bytes) : List Bytes := (stream.splitOn lineFeed).dropLast

/-- What stands behind the last line feed of a stream. -/
def openLine (stream : Bytes) : Bytes :=
  (stream.splitOn lineFeed).getLast (List.splitOn_ne_nil lineFeed stream)

/-- The texts of lines.  Empty ones do not count. -/
def texts (lines : List Bytes) : List String :=
  (lines.map lineText).filter fun text => !text.isEmpty

/-- What becomes of lines behind those of a block in progress.  A final line ends the block,
which is a reply or an error; a malformed line is an error, and the block is lost. -/
def replies (block : List String) : List String → List (Except Error Reply)
  | [] => []
  | line :: rest =>
    match classify line with
    | .error err => .error err :: replies [] rest
    | .ok .continuation => replies (block ++ [line]) rest
    | .ok .final => Reply.ofLines (block ++ [line]) :: replies [] rest

/-- Replies in batches of `n`, behind those that are complete already.  An error is passed on,
and the batch in progress is lost. -/
def batches (n : Nat) (completed : List Reply) :
    List (Except Error Reply) → List (Except Error (List Reply))
  | [] => []
  | .error err :: rest => .error err :: batches n [] rest
  | .ok reply :: rest =>
    if n ≤ completed.length + 1 then .ok (completed ++ [reply]) :: batches n [] rest
    else batches n (completed ++ [reply]) rest

/-- What is handed out when some replies are complete, and others come behind them. -/
def handedOut (n : Nat) (completed : List Reply) (rest : List (Except Error Reply)) :
    List (Except Error (List Reply)) :=
  if n ≤ completed.length then .ok completed :: batches n [] rest else batches n completed rest

/-! ### Cutting -/

/-- Every stream is made of lines and of what stands behind them. -/
theorem exists_cut (stream : Bytes) : ∃ (lines : List Bytes) (rest : Bytes),
    stream = ended lines ++ rest ∧ (∀ line ∈ lines, lineFeed ∉ line) ∧ lineFeed ∉ rest := by
  induction stream with
  | nil => exact ⟨[], [], rfl, by simp, by simp⟩
  | cons b stream ih =>
    obtain ⟨lines, rest, rfl, clean, cleanRest⟩ := ih
    by_cases h : b = lineFeed
    · refine ⟨[] :: lines, rest, ?_, List.forall_mem_cons.mpr ⟨by simp, clean⟩, cleanRest⟩
      rw [ended_cons, h]
      rfl
    · have fresh (line : Bytes) (hl : lineFeed ∉ line) : lineFeed ∉ b :: line := by
        intro mem
        rcases List.mem_cons.mp mem with rfl | mem
        · exact h rfl
        · exact hl mem
      cases lines with
      | nil => exact ⟨[], b :: rest, rfl, by simp, fresh rest cleanRest⟩
      | cons line lines =>
        obtain ⟨cleanLine, cleanLines⟩ := List.forall_mem_cons.mp clean
        refine ⟨(b :: line) :: lines, rest, ?_, ?_, cleanRest⟩
        · rw [ended_cons, ended_cons]
          rfl
        · exact List.forall_mem_cons.mpr ⟨fresh line cleanLine, cleanLines⟩

theorem splitOn_ended {lines : List Bytes} {rest : Bytes}
    (clean : ∀ line ∈ lines, lineFeed ∉ line) (cleanRest : lineFeed ∉ rest) :
    (ended lines ++ rest).splitOn lineFeed = lines ++ [rest] := by
  induction lines with
  | nil => exact List.splitOn_eq_singleton cleanRest
  | cons line lines ih =>
    obtain ⟨cleanLine, cleanLines⟩ := List.forall_mem_cons.mp clean
    have first : line.splitOn lineFeed = [line] := List.splitOn_eq_singleton cleanLine
    have cut : (line ++ lineFeed :: (ended lines ++ rest)).splitOn lineFeed =
        line.splitOn lineFeed ++ (ended lines ++ rest).splitOn lineFeed :=
      List.splitOnP_append_cons _ _ (by simp)
    rw [ended_cons, List.append_assoc, List.cons_append, cut, first, ih cleanLines]
    rfl

theorem wholeLines_ended {lines : List Bytes} {rest : Bytes}
    (clean : ∀ line ∈ lines, lineFeed ∉ line) (cleanRest : lineFeed ∉ rest) :
    wholeLines (ended lines ++ rest) = lines := by
  rw [wholeLines, splitOn_ended clean cleanRest, List.dropLast_concat]

theorem openLine_ended {lines : List Bytes} {rest : Bytes}
    (clean : ∀ line ∈ lines, lineFeed ∉ line) (cleanRest : lineFeed ∉ rest) :
    openLine (ended lines ++ rest) = rest := by
  simp only [openLine, splitOn_ended clean cleanRest, List.getLast_concat]

/-- A stream is its complete lines with their line feeds, and the open line. -/
theorem ended_wholeLines (stream : Bytes) :
    ended (wholeLines stream) ++ openLine stream = stream := by
  obtain ⟨lines, rest, rfl, clean, cleanRest⟩ := exists_cut stream
  rw [wholeLines_ended clean cleanRest, openLine_ended clean cleanRest]

theorem lineFeed_not_mem_openLine (stream : Bytes) : lineFeed ∉ openLine stream := by
  obtain ⟨lines, rest, rfl, clean, cleanRest⟩ := exists_cut stream
  rwa [openLine_ended clean cleanRest]

theorem lineFeed_not_mem_wholeLines (stream : Bytes) :
    ∀ line ∈ wholeLines stream, lineFeed ∉ line := by
  obtain ⟨lines, rest, rfl, clean, cleanRest⟩ := exists_cut stream
  rwa [wholeLines_ended clean cleanRest]

/-- Further bytes go on from the open line. -/
theorem wholeLines_append (stream data : Bytes) :
    wholeLines (stream ++ data) = wholeLines stream ++ wholeLines (openLine stream ++ data) := by
  obtain ⟨lines, rest, rfl, clean, cleanRest⟩ := exists_cut stream
  obtain ⟨more, last, cut, cleanMore, cleanLast⟩ := exists_cut (rest ++ data)
  have both : ∀ line ∈ lines ++ more, lineFeed ∉ line :=
    List.forall_mem_append.mpr ⟨clean, cleanMore⟩
  have whole : ended lines ++ rest ++ data = ended (lines ++ more) ++ last := by
    rw [List.append_assoc, cut, ended_append, List.append_assoc]
  rw [openLine_ended clean cleanRest, wholeLines_ended clean cleanRest, cut,
    wholeLines_ended cleanMore cleanLast, whole, wholeLines_ended both cleanLast]

theorem openLine_append (stream data : Bytes) :
    openLine (stream ++ data) = openLine (openLine stream ++ data) := by
  obtain ⟨lines, rest, rfl, clean, cleanRest⟩ := exists_cut stream
  obtain ⟨more, last, cut, cleanMore, cleanLast⟩ := exists_cut (rest ++ data)
  have both : ∀ line ∈ lines ++ more, lineFeed ∉ line :=
    List.forall_mem_append.mpr ⟨clean, cleanMore⟩
  have whole : ended lines ++ rest ++ data = ended (lines ++ more) ++ last := by
    rw [List.append_assoc, cut, ended_append, List.append_assoc]
  rw [openLine_ended clean cleanRest, cut, openLine_ended cleanMore cleanLast, whole,
    openLine_ended both cleanLast]

theorem texts_cons (raw : Bytes) (lines : List Bytes) :
    texts (raw :: lines) =
      if (lineText raw).isEmpty then texts lines else lineText raw :: texts lines := by
  rw [texts, List.map_cons, List.filter_cons]
  cases (lineText raw).isEmpty <;> rfl

end Reading

open Reading

/-- The reading of a stream in batches of `n` replies: what is handed out, in order. -/
def reading (n : Nat) (stream : Bytes) : List (Except Error (List Reply)) :=
  batches n [] (replies [] (texts (wholeLines stream)))

/-- No run of bytes without a line feed is longer than what is waited for. -/
def Short (stream : Bytes) : Prop :=
  ∀ run, run <:+: stream → lineFeed ∉ run → run.length ≤ maxLineLength

theorem Short.of_append {stream data : Bytes} (short : Short (stream ++ data)) : Short stream :=
  fun run inside => short run (inside.trans (List.prefix_append stream data).isInfix)

theorem Short.openLine {stream : Bytes} (short : Short stream) :
    (openLine stream).length ≤ maxLineLength := by
  refine short _ ?_ (lineFeed_not_mem_openLine stream)
  have behind : Reading.openLine stream <:+ stream :=
    ⟨ended (wholeLines stream), ended_wholeLines stream⟩
  exact behind.isInfix

/-- A stream that is not longer than one line may be has no line that is longer. -/
theorem short_of_length {stream : Bytes} (h : stream.length ≤ maxLineLength) : Short stream :=
  fun _ inside _ => Nat.le_trans inside.length_le h

namespace Assembler

/-! ### One line -/

theorem replies_of_refused {block : List String} {completed : List Reply} {raw : Bytes}
    {err : Error} (h : readLine block completed raw = .refused err) (lines : List Bytes) :
    replies block (texts (raw :: lines)) = .error err :: replies [] (texts lines) := by
  unfold readLine at h
  dsimp only at h
  rw [texts_cons]
  split at h
  · exact absurd h (by simp)
  · next counts =>
    rw [if_neg counts]
    cases kind : classify (lineText raw) with
    | error malformed =>
      rw [kind] at h
      obtain rfl := LineResult.refused.inj h
      rw [replies, kind]
    | ok found =>
      rw [kind] at h
      cases found with
      | continuation => exact absurd h (by simp)
      | final =>
        dsimp only at h
        cases parsed : Reply.ofLines (block ++ [lineText raw]) with
        | error malformed =>
          rw [parsed] at h
          obtain rfl := LineResult.refused.inj h
          rw [replies, kind]
          dsimp only
          rw [parsed]
        | ok reply =>
          rw [parsed] at h
          exact absurd h (by simp)

/-- A line that is taken completes no reply, or one. -/
theorem replies_of_taken {block block' : List String} {completed completed' : List Reply}
    {raw : Bytes} (h : readLine block completed raw = .taken block' completed')
    (lines : List Bytes) :
    (completed' = completed ∧
      replies block (texts (raw :: lines)) = replies block' (texts lines)) ∨
    ∃ reply, completed' = completed ++ [reply] ∧
      replies block (texts (raw :: lines)) = .ok reply :: replies block' (texts lines) := by
  unfold readLine at h
  dsimp only at h
  rw [texts_cons]
  split at h
  · next empty =>
    obtain ⟨rfl, rfl⟩ := LineResult.taken.inj h
    exact .inl ⟨rfl, by rw [if_pos empty]⟩
  · next counts =>
    rw [if_neg counts]
    cases kind : classify (lineText raw) with
    | error malformed =>
      rw [kind] at h
      exact absurd h (by simp)
    | ok found =>
      rw [kind] at h
      cases found with
      | continuation =>
        obtain ⟨rfl, rfl⟩ := LineResult.taken.inj h
        exact .inl ⟨rfl, by rw [replies, kind]⟩
      | final =>
        dsimp only at h
        cases parsed : Reply.ofLines (block ++ [lineText raw]) with
        | error malformed =>
          rw [parsed] at h
          exact absurd h (by simp)
        | ok reply =>
          rw [parsed] at h
          obtain ⟨rfl, rfl⟩ := LineResult.taken.inj h
          refine .inr ⟨reply, rfl, ?_⟩
          rw [replies, kind]
          dsimp only
          rw [parsed]

/-! ### Polling -/

/-- What a poll leaves is not enough for a batch. -/
theorem length_completed_pollLines (a : Assembler) (block : List String) (completed : List Reply)
    (lines : List Bytes) : (a.pollLines block completed lines).1.completed.length < a.expected := by
  have positive := a.one_le_expected
  fun_induction pollLines a block completed lines with
  | case3 block completed notWhole short => exact Nat.not_le.mp notWhole
  | case6 block completed raw rest notWhole block' completed' taken ih => exact ih
  | _ => exact positive

theorem unended_pollLines {a : Assembler} (short : a.unended.length ≤ maxLineLength)
    (block : List String) (completed : List Reply) (lines : List Bytes) :
    (a.pollLines block completed lines).1.unended = a.unended := by
  fun_induction pollLines a block completed lines with
  | case2 block completed notWhole long => exact absurd short (Nat.not_le.mpr long)
  | case6 block completed raw rest notWhole block' completed' taken ih => exact ih
  | _ => rfl

/-- A poll hands out what comes first, and leaves what comes behind it. -/
theorem handedOut_pollLines {a : Assembler} (short : a.unended.length ≤ maxLineLength)
    (block : List String) (completed : List Reply) (lines more : List Bytes) :
    handedOut a.expected completed (replies block (texts (lines ++ more))) =
      (a.pollLines block completed lines).2.toList ++
        batches a.expected (a.pollLines block completed lines).1.completed
          (replies (a.pollLines block completed lines).1.block
            (texts ((a.pollLines block completed lines).1.ready ++ more))) := by
  fun_induction pollLines a block completed lines with
  | case1 block completed whole => rw [handedOut, if_pos whole]; rfl
  | case2 block completed notWhole long => exact absurd short (Nat.not_le.mpr long)
  | case3 block completed notWhole notLong => rw [handedOut, if_neg notWhole]; rfl
  | case4 block completed raw rest whole => rw [handedOut, if_pos whole]; rfl
  | case5 block completed raw rest notWhole err refused =>
    rw [handedOut, if_neg notWhole, List.cons_append, replies_of_refused refused]
    rfl
  | case6 block completed raw rest notWhole block' completed' taken ih =>
    rw [← ih, handedOut, if_neg notWhole, List.cons_append]
    rcases replies_of_taken taken (rest ++ more) with ⟨rfl, same⟩ | ⟨reply, rfl, one⟩
    · rw [same, handedOut, if_neg notWhole]
    · rw [one, batches, handedOut, List.length_append, List.length_singleton]

/-- **A poll hands out what is next in the reading.** -/
theorem reading_poll {a : Assembler} (short : a.unended.length ≤ maxLineLength)
    (few : a.completed.length < a.expected) (more : List Bytes) :
    batches a.expected a.completed (replies a.block (texts (a.ready ++ more))) =
      a.poll.2.toList ++ batches a.expected a.poll.1.completed
        (replies a.poll.1.block (texts (a.poll.1.ready ++ more))) := by
  have handed := handedOut_pollLines short a.block a.completed a.ready more
  rw [handedOut, if_neg (Nat.not_le.mpr few)] at handed
  exact handed

/-! ### Polling until nothing is left -/

/-- How many results polls can yield at most. -/
def polls (a : Assembler) : Nat :=
  a.completed.length + a.ready.length + if maxLineLength < a.unended.length then 1 else 0

theorem length_completed_of_taken {block block' : List String} {completed completed' : List Reply}
    {raw : Bytes} (h : readLine block completed raw = .taken block' completed') :
    completed'.length ≤ completed.length + 1 := by
  rcases replies_of_taken h [] with ⟨rfl, -⟩ | ⟨reply, rfl, -⟩
  · exact Nat.le_succ _
  · exact Nat.le_of_eq List.length_append

theorem polls_pollLines {a : Assembler} {block : List String} {completed : List Reply}
    {lines : List Bytes} (h : (a.pollLines block completed lines).2 ≠ none) :
    (a.pollLines block completed lines).1.polls < completed.length + lines.length +
      if maxLineLength < a.unended.length then 1 else 0 := by
  have positive := a.one_le_expected
  fun_induction pollLines a block completed lines with
  | case1 block completed whole => simp only [polls, List.length_nil]; omega
  | case2 block completed notWhole long =>
    rw [if_pos long]
    exact Nat.lt_add_left _ Nat.zero_lt_one
  | case3 => exact absurd rfl h
  | case4 block completed raw rest whole => simp only [polls, List.length_nil]; omega
  | case5 block completed raw rest notWhole err refused =>
    simp only [polls, List.length_nil, List.length_cons]
    omega
  | case6 block completed raw rest notWhole block' completed' taken ih =>
    have grown := length_completed_of_taken taken
    have fewer := ih h
    rw [List.length_cons]
    omega

theorem poll_pollFor {times : Nat} {a : Assembler} (enough : a.polls < times) :
    (pollFor times a).1.poll.2 = none := by
  induction times generalizing a with
  | zero => exact absurd enough (Nat.not_lt_zero _)
  | succ times ih =>
    rw [pollFor]
    cases h : a.poll with
    | mk a' polled =>
      have first : a.poll.1 = a' := by rw [h]
      cases polled with
      | none =>
        have nothing : a.poll.2 = none := by rw [h]
        rw [← first]
        exact congrArg Prod.snd (poll_poll_of_none nothing)
      | some result =>
        have something : a.poll.2 ≠ none := by rw [h]; simp
        have fewer : a.poll.1.polls < a.polls := polls_pollLines something
        rw [first] at fewer
        exact ih (by omega)

@[simp] theorem expected_pollFor (times : Nat) (a : Assembler) :
    (pollFor times a).1.expected = a.expected := by
  induction times generalizing a with
  | zero => rfl
  | succ times ih =>
    have first := expected_poll a
    rw [pollFor]
    cases hp : a.poll with
    | mk a' polled =>
      rw [hp] at first
      cases polled with
      | none => exact first
      | some result => exact (ih a').trans first

/-- **Polling until nothing is left ends**: then a further poll yields nothing. -/
theorem poll_pollAll (a : Assembler) : a.pollAll.1.poll.2 = none := by
  refine poll_pollFor ?_
  rw [polls]
  split <;> omega

/-! ### In the course of a stream -/

/-- A chunk is cut as the stream is. -/
theorem feed_eq {a : Assembler} (clean : lineFeed ∉ a.unended) (data : Bytes) :
    a.feed data = { a with
      ready := a.ready ++ wholeLines (a.unended ++ data)
      unended := openLine (a.unended ++ data) } := by
  -- the open line might as well come with the chunk
  have again : ({ a with unended := [] } : Assembler).feed a.unended = a := by
    rw [feed_of_clean _ clean, List.nil_append]
  have lines := lineFeed_not_mem_wholeLines (a.unended ++ data)
  have rest := lineFeed_not_mem_openLine (a.unended ++ data)
  calc a.feed data
    _ = ({ a with unended := [] } : Assembler).feed (a.unended ++ data) := by
        rw [feed_append, again]
    _ = (({ a with unended := [] } : Assembler).feed (ended (wholeLines (a.unended ++ data)))).feed
          (openLine (a.unended ++ data)) := by rw [← feed_append, ended_wholeLines]
    _ = { a with
          ready := a.ready ++ wholeLines (a.unended ++ data)
          unended := openLine (a.unended ++ data) } := by
        rw [feed_ended lines rfl, feed_of_clean _ rest, List.nil_append]

/-- An assembler that has taken a stream and handed out some results: they are the beginning of
the reading, and what lies there is the rest, whatever comes. -/
structure Reads (a : Assembler) (stream : Bytes) (results : List (Except Error (List Reply))) :
    Prop where
  /-- The open line of the stream lies there. -/
  unended : a.unended = openLine stream
  /-- No batch is complete. -/
  few : a.completed.length < a.expected
  /-- The results are the beginning of the reading. -/
  read : ∀ more, batches a.expected [] (replies [] (texts (wholeLines stream ++ more))) =
    results ++ batches a.expected a.completed (replies a.block (texts (a.ready ++ more)))

namespace Reads

variable {a : Assembler} {stream : Bytes} {results : List (Except Error (List Reply))}

theorem fresh (n : Nat) : (({} : Assembler).expect n).Reads [] [] where
  unended := rfl
  few := ({} : Assembler).expect n |>.one_le_expected
  read _ := rfl

theorem feed (h : a.Reads stream results) (data : Bytes) :
    (a.feed data).Reads (stream ++ data) results := by
  have clean : lineFeed ∉ a.unended := h.unended ▸ lineFeed_not_mem_openLine stream
  rw [feed_eq clean, h.unended]
  refine ⟨(openLine_append stream data).symm, h.few, fun more => ?_⟩
  dsimp only
  rw [wholeLines_append, List.append_assoc, List.append_assoc]
  exact h.read _

theorem poll (h : a.Reads stream results) (short : Short stream) :
    a.poll.1.Reads stream (results ++ a.poll.2.toList) := by
  have shortLine : a.unended.length ≤ maxLineLength := h.unended ▸ short.openLine
  refine ⟨?_, ?_, fun more => ?_⟩
  · rw [← h.unended]
    exact unended_pollLines shortLine _ _ _
  · rw [expected_poll]
    exact length_completed_pollLines a _ _ _
  · rw [expected_poll, h.read more, reading_poll shortLine h.few, List.append_assoc]

theorem pollFor (h : a.Reads stream results) (short : Short stream) (times : Nat) :
    (Assembler.pollFor times a).1.Reads stream (results ++ (Assembler.pollFor times a).2) := by
  induction times generalizing a results with
  | zero =>
    rw [Assembler.pollFor, List.append_nil]
    exact h
  | succ times ih =>
    have next := h.poll short
    rw [Assembler.pollFor]
    cases hp : a.poll with
    | mk a' polled =>
      rw [hp] at next
      cases polled with
      | none => exact next
      | some result =>
        have rest := ih next
        rw [List.append_assoc] at rest
        exact rest

/-- When nothing is left, all of the reading has been handed out. -/
theorem eq_reading (h : a.Reads stream results) (short : Short stream)
    (nothing : a.poll.2 = none) : results = reading a.expected stream := by
  have last := (h.poll short).read []
  have ready : a.poll.1.ready = [] := (pollLines_of_none a _ _ _ nothing).1
  rw [nothing, ready, expected_poll, Option.toList_none, List.append_nil, List.append_nil] at last
  exact (last.trans (List.append_nil results)).symm

end Reads

end Assembler

/-! ### Scripts -/

/-- The bytes that a step feeds. -/
def AssemblerStep.fed : AssemblerStep → Bytes
  | .feed data => data
  | _ => []

/-- The step feeds or polls. -/
def AssemblerStep.isReading : AssemblerStep → Bool
  | .feed _ | .poll | .pollAll => true
  | .expect _ | .reset => false

/-- The results that polls yielded in a step. -/
def AssemblerResult.results : AssemblerResult → List (Except Error (List Reply))
  | .nothing => []
  | .polled result => [result]
  | .polledAll results => results

namespace AssemblerScript

variable {a : Assembler} {stream : Bytes} {results : List (Except Error (List Reply))}

/-- The assembler after the steps of a script. -/
def after (a : Assembler) (steps : List AssemblerStep) : Assembler :=
  steps.foldl (fun a s => (step a s).1) a

/-- The results that polls yielded in the steps of a script, in order. -/
def polled (reports : List AssemblerReport) : List (Except Error (List Reply)) :=
  reports.flatMap fun report => report.result.results

/-- A step that feeds or polls goes on with the stream. -/
theorem reads_step {s : AssemblerStep} (h : a.Reads stream results) (reads : s.isReading = true)
    (short : Short (stream ++ s.fed)) :
    (step a s).1.Reads (stream ++ s.fed) (results ++ (step a s).2.results) ∧
      (step a s).1.expected = a.expected := by
  cases s with
  | feed data =>
    refine ⟨?_, rfl⟩
    show (a.feed data).Reads (stream ++ data) (results ++ [])
    rw [List.append_nil]
    exact h.feed data
  | poll =>
    have next := h.poll short.of_append
    have expected := Assembler.expected_poll a
    have same : stream ++ AssemblerStep.poll.fed = stream := List.append_nil stream
    rw [same, step]
    cases hp : a.poll with
    | mk a' polled =>
      rw [hp] at next expected
      cases polled with
      | none => exact ⟨next, expected⟩
      | some result => exact ⟨next, expected⟩
  | pollAll =>
    have same : stream ++ AssemblerStep.pollAll.fed = stream := List.append_nil stream
    have all := h.pollFor short.of_append (a.completed.length + a.ready.length + 2)
    rw [same]
    exact ⟨all, Assembler.expected_pollFor (a.completed.length + a.ready.length + 2) a⟩
  | expect n => exact absurd reads (by simp [AssemblerStep.isReading])
  | reset => exact absurd reads (by simp [AssemblerStep.isReading])

/-- Steps that feed and poll, and polls to the end, hand out the reading. -/
theorem results_runOn {steps : List AssemblerStep} (h : a.Reads stream results)
    (reads : ∀ s ∈ steps, s.isReading = true)
    (short : Short (stream ++ steps.flatMap AssemblerStep.fed)) :
    results ++ polled (runOn a (steps ++ [.pollAll])) =
      reading a.expected (stream ++ steps.flatMap AssemblerStep.fed) := by
  induction steps generalizing a stream results with
  | nil =>
    rw [List.flatMap_nil, List.append_nil] at short ⊢
    have last := h.pollFor short (a.completed.length + a.ready.length + 2)
    have whole := last.eq_reading short a.poll_pollAll
    rw [Assembler.expected_pollFor] at whole
    rw [← whole]
    exact congrArg (results ++ ·) (List.append_nil _)
  | cons s steps ih =>
    obtain ⟨readsFirst, readsRest⟩ := List.forall_mem_cons.mp reads
    rw [List.flatMap_cons, ← List.append_assoc] at short ⊢
    obtain ⟨next, expected⟩ := reads_step h readsFirst short.of_append
    have rest := ih next readsRest short
    rw [expected, List.append_assoc] at rest
    exact rest

/-- **The results of all polls are the reading of the stream**, however the stream is cut into
chunks and wherever it is polled in between, if no line is longer than what is waited for.  The
last step polls until nothing is left, and this ends. -/
theorem reading_of_script (n : Nat) (steps : List AssemblerStep)
    (reads : ∀ s ∈ steps, s.isReading = true)
    (short : Short (steps.flatMap AssemblerStep.fed)) :
    polled (run (.expect n :: steps ++ [.pollAll])) =
        reading (max n 1) (steps.flatMap AssemblerStep.fed) ∧
      ∀ a : Assembler, a.pollAll.1.poll.2 = none := by
  refine ⟨?_, Assembler.poll_pollAll⟩
  have whole := results_runOn (.fresh n) reads short
  rw [List.nil_append, List.nil_append] at whole
  exact whole

/-- A group of two is answered, with a malformed line behind it; the chunks end inside a line end
and inside a character, and polls stand in between. -/
def cutAnywhere : List AssemblerStep :=
  [.feed [50, 50, 48, 32, 195], .poll, .feed [169, 13], .poll, .feed [10, 50, 53], .pollAll,
    .feed [48, 13, 10, 63, 10, 50], .poll]

/-- The replies are handed out as if they had come at once. -/
theorem cut_anywhere_read : polled (run (.expect 2 :: cutAnywhere ++ [.pollAll])) =
    [.ok [⟨⟨220⟩, ["é"]⟩, ⟨⟨250⟩, [""]⟩], .error (.protocol (.malformedLine "?"))] := by
  have whole := (reading_of_script 2 cutAnywhere (by decide)
    (short_of_length (by decide))).1
  rw [whole]
  rfl

end AssemblerScript

end SmtpLink
