import SmtpLink.Reply.Line

/-!
# Replies printed and read again

A reply is printed as its lines stand on the wire: the code as a number, a mark and the text.
What is printed is read as the same reply, as long as the number has three digits.  A code that
begins with a nought is read as well, but it is printed without the nought, and a line with a
shorter number in front is no line of a reply.

## Main definitions

* `Reply.renderedLines` — a printed reply, cut into its lines.

## Main results

* `Reply.renderedLines_eq` — a printed reply is cut into the lines that it was made of.
* `Reply.ofLines_wireLines` — **the lines of a reply are read as the reply**, if its code has
  three digits.
* `Reply.read_again_iff` — **a block that was read is printed and read again without loss**,
  exactly as long as its code does not begin with a nought.
-/

namespace SmtpLink

/-! ### Digits -/

namespace Text

/-- A digit stands for a number below ten, and only the nought for none. -/
theorem digitValue_of_isDigit {c : Char} (h : isDigit c = true) :
    digitValue c < 10 ∧ (digitValue c = 0 ↔ c = '0') := by
  rw [isDigit, Bool.and_eq_true, decide_eq_true_eq, decide_eq_true_eq] at h
  have least : '0'.toNat ≤ c.toNat := h.1
  have most : c.toNat ≤ '9'.toNat := h.2
  have nine : '9'.toNat = '0'.toNat + 9 := rfl
  rw [digitValue]
  refine ⟨by omega, fun none => ?_, fun same => ?_⟩
  · apply Char.toNat_inj.mp
    omega
  · rw [same, Nat.sub_self]

theorem isDigit_digitChar_of_lt : ∀ n < 10, isDigit (Nat.digitChar n) = true := by decide

theorem digitValue_digitChar_of_lt : ∀ n < 10, digitValue (Nat.digitChar n) = n := by decide

end Text

namespace ReplyCode

/-- The code has three digits when it is written as a number. -/
def HasThreeDigits (code : ReplyCode) : Prop :=
  100 ≤ code.value.toNat ∧ code.value.toNat ≤ 999

variable {code : ReplyCode}

theorem toList_text (code : ReplyCode) : code.text.toList = Nat.toDigits 10 code.value.toNat :=
  Nat.toList_repr

/-- The three digits of a code, as it is printed. -/
theorem HasThreeDigits.toList_text (three : code.HasThreeDigits) : code.text.toList =
    [(code.value.toNat / 100).digitChar, (code.value.toNat / 10 % 10).digitChar,
      (code.value.toNat % 10).digitChar] := by
  obtain ⟨least, most⟩ := three
  have tens : 10 ≤ code.value.toNat / 10 := by omega
  have hundreds : code.value.toNat / 10 / 10 < 10 := by omega
  rw [ReplyCode.toList_text, Nat.toDigits_of_base_le (by decide) (by omega),
    Nat.toDigits_of_base_le (by decide) tens, Nat.toDigits_of_lt_base hundreds,
    Nat.div_div_eq_div_mul]
  rfl

/-- A line that begins with a printed code is cut behind it. -/
theorem HasThreeDigits.splitCode? (three : code.HasThreeDigits) (rest : List Char) :
    splitCode? (code.text.toList ++ rest) = some (code.text.toList, rest) := by
  have hundreds := Text.isDigit_digitChar_of_lt (code.value.toNat / 100) (by have := three.2; omega)
  have tens := Text.isDigit_digitChar_of_lt (code.value.toNat / 10 % 10) (by omega)
  have units := Text.isDigit_digitChar_of_lt (code.value.toNat % 10) (by omega)
  rw [three.toList_text]
  simp [SmtpLink.splitCode?, hundreds, tens, units]

/-- A printed code is read as its number. -/
theorem HasThreeDigits.digitsValue_text (three : code.HasThreeDigits) :
    Text.digitsValue code.text.toList = code.value.toNat := by
  have hundreds := Text.digitValue_digitChar_of_lt (code.value.toNat / 100)
    (by have := three.2; omega)
  have tens := Text.digitValue_digitChar_of_lt (code.value.toNat / 10 % 10) (by omega)
  have units := Text.digitValue_digitChar_of_lt (code.value.toNat % 10) (by omega)
  rw [three.toList_text]
  simp only [Text.digitsValue, List.foldl_cons, List.foldl_nil, hundreds, tens, units]
  omega

/-- A code of fewer digits is no beginning of a line, whatever mark follows it. -/
theorem splitCode?_of_lt (few : code.value.toNat < 100) {mark : Char}
    (notDigit : Text.isDigit mark = false) (rest : List Char) :
    splitCode? (code.text.toList ++ mark :: rest) = none := by
  rw [toList_text]
  by_cases one : code.value.toNat < 10
  · rw [Nat.toDigits_of_lt_base one]
    cases rest with
    | nil => rfl
    | cons c rest => simp [SmtpLink.splitCode?, notDigit]
  · have tens : code.value.toNat / 10 < 10 := by omega
    rw [Nat.toDigits_of_base_le (by decide) (by omega), Nat.toDigits_of_lt_base tens]
    simp [SmtpLink.splitCode?, notDigit]

end ReplyCode

/-! ### Lines that were read -/

/-- The code of a line, and what follows it. -/
theorem of_splitCode? {line code rest : List Char} (h : splitCode? line = some (code, rest)) :
    line = code ++ rest ∧ Text.digitsValue code ≤ 999 ∧
      (Text.digitsValue code < 100 ↔ line.head? = some '0') := by
  unfold splitCode? at h
  split at h
  · next a b c behind =>
    split at h
    · next digits =>
      obtain ⟨rfl, rfl⟩ := Prod.mk.inj (Option.some.inj h)
      simp only [List.all_cons, List.all_nil, Bool.and_true, Bool.and_eq_true] at digits
      obtain ⟨hundreds, nought⟩ := Text.digitValue_of_isDigit digits.1
      have tens := (Text.digitValue_of_isDigit digits.2.1).1
      have units := (Text.digitValue_of_isDigit digits.2.2).1
      rw [List.head?_cons, Option.some.injEq, ← nought]
      simp only [Text.digitsValue, List.foldl_cons, List.foldl_nil, List.cons_append,
        List.nil_append, true_and]
      omega
    · exact absurd h (by simp)
  · exact absurd h (by simp)

/-- The parts of a line that is well formed. -/
theorem of_parseLine? {line code text : List Char} {kind : LineKind}
    (h : parseLine? line = some (code, kind, text)) :
    Text.digitsValue code ≤ 999 ∧ (Text.digitsValue code < 100 ↔ line.head? = some '0') ∧
      ∀ c ∈ text, c ∈ line := by
  unfold parseLine? at h
  split at h
  · exact absurd h (by simp)
  · next own rest cut =>
    obtain ⟨same, few, nought⟩ := of_splitCode? cut
    obtain ⟨found, -, parts⟩ := Option.map_eq_some_iff.mp h
    obtain ⟨rfl, rest⟩ := Prod.mk.inj parts
    obtain ⟨-, rfl⟩ := Prod.mk.inj rest
    refine ⟨few, nought, fun c mem => ?_⟩
    rw [same]
    exact List.mem_append_right _ (List.mem_of_mem_tail mem)

namespace Reply

variable {r : Reply} {lines message : List String}

/-- There is a text for every line, made of the line's characters. -/
theorem of_messageOf {code : List Char} (h : messageOf code lines = .ok message) :
    message.length = lines.length ∧
      ∀ text ∈ message, ∃ line ∈ lines, ∀ c ∈ text.toList, c ∈ line.toList := by
  induction lines generalizing message with
  | nil =>
    obtain rfl : [] = message := Except.ok.inj h
    exact ⟨rfl, by simp⟩
  | cons line lines ih =>
    rw [messageOf] at h
    split at h
    · exact absurd h (by simp)
    · next own kind text parsed =>
      split at h
      · cases rest : messageOf code lines with
        | error err =>
          rw [rest] at h
          exact absurd h (by simp [Except.map])
        | ok texts =>
          rw [rest] at h
          obtain rfl : String.ofList text :: texts = message := Except.ok.inj h
          obtain ⟨length, made⟩ := ih rest
          refine ⟨by rw [List.length_cons, List.length_cons, length], fun t mem => ?_⟩
          rcases List.mem_cons.mp mem with rfl | mem
          · refine ⟨line, List.mem_cons_self, ?_⟩
            rw [String.toList_ofList]
            exact (of_parseLine? parsed).2.2
          · obtain ⟨source, among, chars⟩ := made t mem
            exact ⟨source, List.mem_cons_of_mem _ among, chars⟩
      · exact absurd h (by simp)

/-- What is known of a reply that was read: its code has three digits at most, and fewer if it
begins with a nought, and its texts are made of the characters of the lines. -/
theorem of_ofLines (h : ofLines lines = .ok r) : r.code.value.toNat ≤ 999 ∧
    (r.code.value.toNat < 100 ↔ lines.head?.bind (·.toList.head?) = some '0') ∧
    r.message ≠ [] ∧ ∀ text ∈ r.message, ∃ line ∈ lines, ∀ c ∈ text.toList, c ∈ line.toList := by
  cases lines with
  | nil => exact absurd h (by simp [ofLines])
  | cons first rest =>
    rw [ofLines] at h
    split at h
    · exact absurd h (by simp)
    · next code kind text parsed =>
      cases read : messageOf code (first :: rest) with
      | error err =>
        rw [read] at h
        exact absurd h (by simp [Except.map])
      | ok message =>
        rw [read] at h
        obtain rfl := Except.ok.inj h
        obtain ⟨length, made⟩ := of_messageOf read
        obtain ⟨few, nought, -⟩ := of_parseLine? parsed
        have value : (UInt16.ofNat (Text.digitsValue code)).toNat = Text.digitsValue code :=
          UInt16.toNat_ofNat_of_lt' (by rw [UInt16.size]; omega)
        dsimp only at length made ⊢
        rw [value]
        refine ⟨few, nought, ?_, made⟩
        exact List.ne_nil_of_length_pos (by rw [length, List.length_cons]; omega)

/-! ### Printing -/

/-- The lines of a printed reply: its text, cut at the line feeds. -/
def renderedLines (r : Reply) : List String :=
  (r.render.toList.splitOn '\n').map String.ofList

/-- A code holds nothing but digits. -/
theorem not_mem_text {c : Char} (notDigit : c.isDigit = false) (code : ReplyCode) :
    c ∉ code.text.toList := by
  rw [ReplyCode.toList_text]
  intro mem
  have digit := Nat.isDigit_of_mem_toDigits (by decide) (by decide) mem
  exact absurd digit (by simp [notDigit])

theorem lineFeed_not_mem_text (code : ReplyCode) : '\n' ∉ code.text.toList :=
  not_mem_text rfl code

/-- A line behind a code is the code, a mark and a text. -/
theorem of_mem_marked {code line : String} (mem : line ∈ marked code message) :
    ∃ mark, (mark = '-' ∨ mark = ' ') ∧
      ∃ text ∈ message, line.toList = code.toList ++ mark :: text.toList := by
  fun_induction marked code message with
  | case1 => exact absurd mem (by simp)
  | case2 last =>
    obtain rfl := List.mem_singleton.mp mem
    exact ⟨' ', .inr rfl, last, List.mem_cons_self, by simp⟩
  | case3 text next rest ih =>
    rcases List.mem_cons.mp mem with rfl | mem
    · exact ⟨'-', .inl rfl, text, List.mem_cons_self, by simp⟩
    · obtain ⟨mark, marks, own, among, made⟩ := ih mem
      exact ⟨mark, marks, own, List.mem_cons_of_mem text among, made⟩

/-- The first of the lines behind a code. -/
theorem exists_marked_cons (code : String) (some : message ≠ []) :
    ∃ (first : String) (rest : List String) (mark : Char) (text : List Char),
      marked code message = first :: rest ∧ first.toList = code.toList ++ mark :: text ∧
      (mark = '-' ∨ mark = ' ') := by
  fun_cases marked code message with
  | case1 => exact absurd rfl some
  | case2 last => exact ⟨_, [], ' ', last.toList, rfl, by simp, .inr rfl⟩
  | case3 line next rest => exact ⟨_, _, '-', line.toList, rfl, by simp, .inl rfl⟩

/-- **A printed reply is cut into the lines that it was made of.** -/
theorem renderedLines_eq (clean : ∀ text ∈ r.message, '\n' ∉ text.toList) :
    r.renderedLines = r.wireLines := by
  have digits := lineFeed_not_mem_text r.code
  have found : r.wireLines ≠ [] ∧ ∀ line ∈ r.wireLines, '\n' ∉ line.toList := by
    unfold wireLines
    split
    · exact ⟨by simp, List.forall_mem_singleton.mpr digits⟩
    · next some =>
      obtain ⟨first, rest, -, -, cut, -⟩ := exists_marked_cons r.code.text (by simpa using some)
      refine ⟨by simp [cut], fun line mem => ?_⟩
      obtain ⟨mark, marks, text, among, made⟩ := of_mem_marked mem
      have plain : '\n' ≠ mark := by rcases marks with rfl | rfl <;> decide
      rw [made, List.mem_append, List.mem_cons, not_or, not_or]
      exact ⟨digits, plain, clean text among⟩
  have cut : (['\n'].intercalate (r.wireLines.map String.toList)).splitOn '\n' =
      r.wireLines.map String.toList := by
    refine List.splitOn_intercalate '\n' ?_ (by simpa using found.1)
    exact List.forall_mem_map.mpr found.2
  have back : String.ofList ∘ String.toList = id := funext fun line => String.ofList_toList
  rw [renderedLines, render, String.toList_intercalate]
  show ((['\n'].intercalate (r.wireLines.map String.toList)).splitOn '\n').map String.ofList = _
  rw [cut, List.map_map, back, List.map_id]

/-! ### Reading what was printed -/

theorem wireLines_eq (some : r.message ≠ []) : r.wireLines = marked r.code.text r.message := by
  rw [wireLines, if_neg (by simpa using some)]

/-- A line that begins with a printed code of three digits and a mark. -/
theorem parseLine?_text {code : ReplyCode} (three : code.HasThreeDigits) {mark : Char}
    {kind : LineKind} (means : LineKind.ofMark? (some mark) = some kind) (text : List Char) :
    parseLine? (code.text.toList ++ mark :: text) = some (code.text.toList, kind, text) := by
  rw [parseLine?, three.splitCode?]
  simp [means]

/-- What stands behind the marks is the message. -/
theorem messageOf_marked {code : ReplyCode} (three : code.HasThreeDigits)
    (message : List String) :
    messageOf code.text.toList (marked code.text message) = .ok message := by
  have read (mark : Char) (text : String) {kind : LineKind} {line : String}
      (made : line.toList = code.text.toList ++ mark :: text.toList)
      (means : LineKind.ofMark? (some mark) = some kind) (rest : List String) :
      messageOf code.text.toList (line :: rest) =
        (messageOf code.text.toList rest).map (text :: ·) := by
    rw [messageOf, made, parseLine?_text three means]
    simp
  fun_induction marked code.text message with
  | case1 => rfl
  | case2 last =>
    rw [read ' ' last (by simp) rfl]
    rfl
  | case3 line next rest ih =>
    rw [read '-' line (by simp) rfl, ih]
    rfl

/-- **The lines of a reply are read as the reply**, if its code has three digits. -/
theorem ofLines_wireLines (three : r.code.HasThreeDigits) (some : r.message ≠ []) :
    ofLines r.wireLines = .ok r := by
  have message := messageOf_marked three r.message
  obtain ⟨first, rest, mark, text, cut, made, marks⟩ := exists_marked_cons r.code.text some
  obtain ⟨kind, means⟩ : ∃ kind, LineKind.ofMark? (Option.some mark) = Option.some kind := by
    rcases marks with rfl | rfl
    · exact ⟨.continuation, rfl⟩
    · exact ⟨.final, rfl⟩
  rw [cut] at message
  rw [wireLines_eq some, cut, ofLines, made, parseLine?_text three means]
  dsimp only
  rw [message, three.digitsValue_text, UInt16.ofNat_toNat]
  rfl

/-- The lines of a reply with a shorter code are no block, from the first line on. -/
theorem ofLines_wireLines_of_lt (few : r.code.value.toNat < 100) (some : r.message ≠ []) :
    ∃ first rest, r.wireLines = first :: rest ∧
      ofLines r.wireLines = .error (.protocol (.malformedLine first)) := by
  obtain ⟨first, rest, mark, text, cut, made, marks⟩ := exists_marked_cons r.code.text some
  have notDigit : Text.isDigit mark = false := by
    rcases marks with rfl | rfl
    · rfl
    · rfl
  refine ⟨first, rest, (wireLines_eq some).trans cut, ?_⟩
  rw [wireLines_eq some, cut, ofLines, made, parseLine?,
    ReplyCode.splitCode?_of_lt few notDigit]

/-- **A block that was read is printed and read again without loss**, exactly as long as its code
does not begin with a nought.  The number of such a code has fewer than three digits, and what
is printed with it is refused from the first line on. -/
theorem read_again_iff (read : ofLines lines = .ok r) (clean : ∀ line ∈ lines, '\n' ∉ line.toList) :
    (ofLines r.renderedLines = .ok r ↔ lines.head?.bind (·.toList.head?) ≠ some '0') ∧
    (lines.head?.bind (·.toList.head?) = some '0' → ∃ first rest, r.renderedLines = first :: rest ∧
      ofLines r.renderedLines = .error (.protocol (.malformedLine first))) := by
  obtain ⟨most, nought, message, made⟩ := of_ofLines read
  have cleanMessage : ∀ text ∈ r.message, '\n' ∉ text.toList := by
    intro text mem inside
    obtain ⟨line, among, chars⟩ := made text mem
    exact clean line among (chars _ inside)
  rw [renderedLines_eq cleanMessage]
  by_cases few : r.code.value.toNat < 100
  · obtain ⟨first, rest, cut, refused⟩ := ofLines_wireLines_of_lt few message
    refine ⟨iff_of_false ?_ (absurd (nought.mp few)), fun _ => ⟨first, rest, cut, refused⟩⟩
    rw [refused]
    simp
  · have three : r.code.HasThreeDigits := ⟨Nat.not_lt.mp few, most⟩
    have other := mt nought.mpr few
    exact ⟨iff_of_true (ofLines_wireLines three message) other, fun h => absurd h other⟩

/-- A block with an empty line in its middle and a bare code at its end is printed and read
again. -/
theorem bare_code_read_again :
    ofLines ["250-one", "250-", "250"] = .ok ⟨⟨250⟩, ["one", "", ""]⟩ ∧
    ofLines (renderedLines ⟨⟨250⟩, ["one", "", ""]⟩) = .ok ⟨⟨250⟩, ["one", "", ""]⟩ := by
  have read : ofLines ["250-one", "250-", "250"] = .ok ⟨⟨250⟩, ["one", "", ""]⟩ := rfl
  exact ⟨read, (read_again_iff read (by decide)).1.mpr (by decide)⟩

/-- A code that begins with a nought is accepted, and lost in print. -/
theorem nought_lost : classify "012 ok" = .ok .final ∧ ofLines ["012 ok"] = .ok ⟨⟨12⟩, ["ok"]⟩ ∧
    ofLines (renderedLines ⟨⟨12⟩, ["ok"]⟩) = .error (.protocol (.malformedLine "12 ok")) :=
  ⟨rfl, rfl, rfl⟩

end Reply

end SmtpLink
