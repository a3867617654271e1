import Mathlib.Data.List.Forall2
import SmtpLink.Proofs.BytePositions
import SmtpLink.Proofs.Rendering
import SmtpLink.Proofs.Words

/-!
# The grammar of a reply

A block of lines is a reply if there is a line and all lines carry the same code.  Anything else has
a first fault, and that is the error.  A block may be read by positions in bytes, as it came: the
code is looked for in the first three bytes and cut off behind them, and the text is cut off behind
the fourth.  All these cuts are possible, whatever characters stand in the lines.

## Main definitions

* `Reply.Carries` — a line carries a code.
* `Reply.FirstFault` — the first fault of a block of lines.
* `Reply.ofLinesByBytes` — a block read by positions in bytes, with the cuts that are not possible.

## Main results

* `Reply.carries_iff` — the lines that carry a code are those that can be taken apart.
* `Reply.ofLines_of_carries`, `Reply.ofLines_of_fault`, `Reply.carries_or_fault` — a block is a
  reply or has a first fault.
* `Reply.ofLinesByBytes_eq` — **every cut is possible**, and the reading is the same.
* `Reply.read_by_grammar` — **a block is read exactly by its grammar.**
-/

namespace SmtpLink

namespace Reply

/-- A line carries a code: three digits, and behind them the end of the line, a space or a
hyphen. -/
def Carries (line : String) (code : List Char) : Prop :=
  ∃ rest, line.toList = code ++ rest ∧ code.length = 3 ∧
    (∀ c ∈ code, Text.isDigit c = true) ∧
    (rest.head? = none ∨ rest.head? = some ' ' ∨ rest.head? = some '-')

/-- The first fault of a block of lines: there is no line, or the first line that does not carry the
code of those before it carries none or another. -/
inductive FirstFault : List String → ProtocolFault → Prop
  /-- There is no line. -/
  | noLine : FirstFault [] .emptyReply
  /-- A line carries no code. -/
  | malformed {before after : List String} {line : String} {code : List Char}
      (sound : ∀ l ∈ before, Carries l code) (bad : ∀ own, ¬ Carries line own) :
      FirstFault (before ++ line :: after) (.malformedLine line)
  /-- A line carries another code than those before it. -/
  | changed {before after : List String} {line : String} {code own : List Char}
      (some : before ≠ []) (sound : ∀ l ∈ before, Carries l code) (carries : Carries line own)
      (other : own ≠ code) : FirstFault (before ++ line :: after) (.codeChanged line)

/-- A text is what stands behind the fourth byte of a line. -/
def BehindFourth (line text : String) : Prop :=
  Utf8.encode text = (Utf8.encode line).drop 4

end Reply

variable {code rest text line : List Char}

/-! ### Lines -/

/-- A line is cut behind three digits. -/
theorem splitCode?_eq_some_iff : splitCode? line = some (code, rest) ↔
    line = code ++ rest ∧ code.length = 3 ∧ ∀ c ∈ code, Text.isDigit c = true := by
  constructor
  · intro cut
    unfold splitCode? at cut
    split at cut
    · next a b c behind =>
      obtain ⟨digits, parts⟩ := Option.ite_none_right_eq_some.mp cut
      obtain ⟨rfl, rfl⟩ := Prod.mk.inj (Option.some.inj parts)
      exact ⟨rfl, rfl, List.all_eq_true.mp digits⟩
    · exact absurd cut (by simp)
  · rintro ⟨rfl, length, digits⟩
    match code, length with
    | [a, b, c], _ => exact if_pos (List.all_eq_true.mpr digits)

/-- The marks are the end of the line, a space and a hyphen. -/
theorem LineKind.exists_ofMark?_iff {mark : Option Char} :
    (∃ kind, LineKind.ofMark? mark = some kind) ↔
      mark = none ∨ mark = some ' ' ∨ mark = some '-' := by
  constructor
  · rintro ⟨kind, means⟩
    unfold LineKind.ofMark? at means
    split at means
    · exact .inl rfl
    · exact .inr (.inl rfl)
    · exact .inr (.inr rfl)
    · exact absurd means (by simp)
  · rintro (rfl | rfl | rfl)
    · exact ⟨.final, rfl⟩
    · exact ⟨.final, rfl⟩
    · exact ⟨.continuation, rfl⟩

/-- A line that can be taken apart is a code, a mark and a text. -/
theorem parseLine?_eq_some_iff {kind : LineKind} : parseLine? line = some (code, kind, text) ↔
    ∃ rest, splitCode? line = some (code, rest) ∧ LineKind.ofMark? rest.head? = some kind ∧
      rest.tail = text := by
  constructor
  · intro parsed
    unfold parseLine? at parsed
    split at parsed
    · exact absurd parsed (by simp)
    · next own rest cut =>
      obtain ⟨found, means, parts⟩ := Option.map_eq_some_iff.mp parsed
      obtain ⟨rfl, parts'⟩ := Prod.mk.inj parts
      obtain ⟨rfl, behind⟩ := Prod.mk.inj parts'
      exact ⟨rest, cut, means, behind⟩
  · rintro ⟨rest, cut, means, rfl⟩
    rw [parseLine?, cut]
    dsimp only
    rw [means]
    rfl

namespace Reply

variable {first : String} {lines before after : List String} {err : Error} {fault : ProtocolFault}

/-- **The lines that carry a code are those that can be taken apart.** -/
theorem carries_iff {line : String} : Carries line code ↔
    ∃ kind text, parseLine? line.toList = some (code, kind, text) := by
  constructor
  · rintro ⟨rest, whole, length, digits, mark⟩
    obtain ⟨kind, means⟩ := LineKind.exists_ofMark?_iff.mpr mark
    have cut := splitCode?_eq_some_iff.mpr ⟨whole, length, digits⟩
    exact ⟨kind, rest.tail, parseLine?_eq_some_iff.mpr ⟨rest, cut, means, rfl⟩⟩
  · rintro ⟨kind, text, parsed⟩
    obtain ⟨rest, cut, means, -⟩ := parseLine?_eq_some_iff.mp parsed
    obtain ⟨whole, length, digits⟩ := splitCode?_eq_some_iff.mp cut
    exact ⟨rest, whole, length, digits, LineKind.exists_ofMark?_iff.mp ⟨kind, means⟩⟩

/-- A line carries one code. -/
theorem Carries.unique {line : String} {own : List Char} (carries : Carries line code)
    (too : Carries line own) : own = code := by
  obtain ⟨kind, text, parsed⟩ := carries_iff.mp carries
  obtain ⟨kind', text', parsed'⟩ := carries_iff.mp too
  exact (Prod.mk.inj (Option.some.inj (parsed'.symm.trans parsed))).1

theorem parseLine?_eq_none_iff {line : String} :
    parseLine? line.toList = none ↔ ∀ own, ¬ Carries line own := by
  rw [Option.eq_none_iff_forall_ne_some]
  constructor
  · intro none own carries
    obtain ⟨kind, text, parsed⟩ := carries_iff.mp carries
    exact none _ parsed
  · rintro bad ⟨own, kind, text⟩ parsed
    exact bad own (carries_iff.mpr ⟨kind, text, parsed⟩)

/-! ### Blocks -/

/-- Sound lines before a refusal make no difference to it. -/
theorem messageOf_append_of_error (sound : ∀ l ∈ before, Carries l code)
    (refused : messageOf code after = .error err) :
    messageOf code (before ++ after) = .error err := by
  induction before with
  | nil => exact refused
  | cons line before ih =>
    obtain ⟨own, others⟩ := List.forall_mem_cons.mp sound
    obtain ⟨kind, text, parsed⟩ := carries_iff.mp own
    rw [List.cons_append, messageOf, parsed]
    dsimp only
    rw [if_pos rfl, ih others]
    rfl

/-- All lines of a block are read with the code of the first. -/
theorem ofLines_cons (carries : Carries first code) (rest : List String) :
    ofLines (first :: rest) = (messageOf code (first :: rest)).map fun message =>
      { code := ⟨UInt16.ofNat (Text.digitsValue code)⟩, message } := by
  obtain ⟨kind, text, parsed⟩ := carries_iff.mp carries
  rw [ofLines, parsed]

/-- The first fault of a block is the error. -/
theorem ofLines_of_fault (found : FirstFault lines fault) :
    ofLines lines = .error (.protocol fault) := by
  cases found with
  | noLine => rfl
  | @malformed before after line code sound bad =>
    have unread := parseLine?_eq_none_iff.mpr bad
    cases before with
    | nil => rw [List.nil_append, ofLines, unread]
    | cons first before =>
      have refused : messageOf code (line :: after) = .error (.protocol (.malformedLine line)) := by
        rw [messageOf, unread]
      rw [List.cons_append, ofLines_cons (sound first List.mem_cons_self), ← List.cons_append,
        messageOf_append_of_error sound refused]
      rfl
  | @changed before after line code own some sound carries other =>
    obtain ⟨first, before, rfl⟩ := List.exists_cons_of_ne_nil some
    have refused : messageOf code (line :: after) = .error (.protocol (.codeChanged line)) := by
      obtain ⟨kind, text, parsed⟩ := carries_iff.mp carries
      rw [messageOf, parsed]
      exact if_neg other
    rw [List.cons_append, ofLines_cons (sound first List.mem_cons_self), ← List.cons_append,
      messageOf_append_of_error sound refused]
    rfl

/-- Behind sound lines there are more of them, or a first fault. -/
theorem carries_or_fault_behind (some : before ≠ []) (sound : ∀ l ∈ before, Carries l code)
    (lines : List String) : (∀ l ∈ before ++ lines, Carries l code) ∨
      ∃ fault, FirstFault (before ++ lines) fault := by
  -- lines that are found sound move over to those before
  induction lines generalizing before with
  | nil =>
    rw [List.append_nil]
    exact .inl sound
  | cons line lines ih =>
    by_cases same : Carries line code
    · rw [List.append_cons]
      apply ih (by simp)
      intro l mem
      rcases List.mem_append.mp mem with mem | mem
      · exact sound l mem
      · exact List.mem_singleton.mp mem ▸ same
    · by_cases carries : ∃ own, Carries line own
      · obtain ⟨own, carries⟩ := carries
        exact .inr ⟨_, .changed some sound carries fun equal => same (equal ▸ carries)⟩
      · exact .inr ⟨_, .malformed sound (not_exists.mp carries)⟩

/-- **All lines of a block carry one code, or it has a first fault.** -/
theorem carries_or_fault (lines : List String) :
    (lines ≠ [] ∧ ∃ code, ∀ line ∈ lines, Carries line code) ∨ ∃ fault, FirstFault lines fault := by
  cases lines with
  | nil => exact .inr ⟨_, .noLine⟩
  | cons first rest =>
    by_cases carries : ∃ code, Carries first code
    · obtain ⟨code, carries⟩ := carries
      have own : ∀ l ∈ [first], Carries l code := List.forall_mem_singleton.mpr carries
      rcases carries_or_fault_behind (by simp) own rest with sound | faulty
      · exact .inl ⟨by simp, code, sound⟩
      · exact .inr faulty
    · have none : ∀ l ∈ ([] : List String), Carries l [] := by simp
      exact .inr ⟨_, .malformed none (not_exists.mp carries)⟩

end Reply

/-! ### Bytes of lines -/

namespace Text

theorem lt_of_isDigit {c : Char} (digit : isDigit c = true) : 48 ≤ c.toNat ∧ c.toNat ≤ 57 := by
  rw [isDigit, Bool.and_eq_true, decide_eq_true_eq, decide_eq_true_eq] at digit
  exact digit

/-- A byte that stands for a digit. -/
def isDigitByte (b : UInt8) : Bool := 48 ≤ b && b ≤ 57

theorem isDigitByte_iff {b : UInt8} : isDigitByte b = true ↔ 48 ≤ b.toNat ∧ b.toNat ≤ 57 := by
  rw [isDigitByte, Bool.and_eq_true, decide_eq_true_eq, decide_eq_true_eq, UInt8.le_iff_toNat_le,
    UInt8.le_iff_toNat_le]
  rfl

/-- A digit is one byte. -/
theorem bytes_digit {c : Char} (digit : isDigit c = true) :
    ∃ b, isDigitByte b = true ∧ String.utf8EncodeChar c = [b] := by
  obtain ⟨least, most⟩ := lt_of_isDigit digit
  refine ⟨UInt8.ofNat c.toNat, isDigitByte_iff.mpr ?_, encodeChar_of_ascii (by omega)⟩
  rw [UInt8.toNat_ofNat']
  omega

/-- A byte that stands for a digit is a character that is one. -/
theorem isDigit_ofNat {b : UInt8} (digit : isDigitByte b = true) :
    isDigit (Char.ofNat b.toNat) = true := by
  obtain ⟨least, most⟩ := isDigitByte_iff.mp digit
  have all : ∀ n < 58, 48 ≤ n → isDigit (Char.ofNat n) = true := by decide
  exact all b.toNat (by omega) least

theorem length_bytes_digits {digits : List Char} (all : ∀ c ∈ digits, isDigit c = true) :
    (bytes digits).length = digits.length := by
  induction digits with
  | nil => rfl
  | cons c digits ih =>
    obtain ⟨first, others⟩ := List.forall_mem_cons.mp all
    obtain ⟨b, -, one⟩ := bytes_digit first
    rw [bytes_cons, one, List.length_append, ih others, List.length_singleton, List.length_cons,
      Nat.add_comm]

/-- The bytes of digits stand for digits. -/
theorem all_isDigitByte {digits : List Char} (all : ∀ c ∈ digits, isDigit c = true) :
    (bytes digits).all isDigitByte = true := by
  rw [List.all_eq_true]
  intro b mem
  obtain ⟨c, among, own⟩ := List.mem_flatMap.mp mem
  obtain ⟨d, digit, one⟩ := bytes_digit (all c among)
  rw [one] at own
  exact List.mem_singleton.mp own ▸ digit

/-- A line is cut behind its code at the third byte. -/
theorem cutAtByte?_three (cut : splitCode? line = some (code, rest)) :
    cutAtByte? 3 line = some (code, rest) := by
  obtain ⟨whole, length, digits⟩ := splitCode?_eq_some_iff.mp cut
  exact cutAtByte?_eq_some_iff.mpr ⟨whole, (length_bytes_digits digits).trans length⟩

/-- Three digits in the first bytes are the code of the line. -/
theorem splitCode?_of_bytes {a b c : UInt8} {more : Bytes} (same : bytes line = a :: b :: c :: more)
    (digits : ∀ d ∈ [a, b, c], isDigitByte d = true) :
    ∃ code rest, splitCode? line = some (code, rest) := by
  have ascii {d : UInt8} (mem : d ∈ [a, b, c]) : d.toNat < 128 := by
    have := (isDigitByte_iff.mp (digits d mem)).2
    omega
  obtain ⟨behind, rfl, same'⟩ := (bytes_eq_cons_iff (ascii (by simp))).mp same
  obtain ⟨behind', rfl, same''⟩ := (bytes_eq_cons_iff (ascii (by simp))).mp same'
  obtain ⟨rest, rfl, -⟩ := (bytes_eq_cons_iff (ascii (by simp))).mp same''
  refine ⟨[a, b, c].map fun d => Char.ofNat d.toNat, rest,
    splitCode?_eq_some_iff.mpr ⟨rfl, rfl, ?_⟩⟩
  exact List.forall_mem_map.mpr fun d mem => isDigit_ofNat (digits d mem)

end Text

/-! ### Reading by positions in bytes -/

/-- The kind of line that a mark makes, as a byte. -/
def LineKind.ofMarkByte? : Option UInt8 → Option LineKind
  | none => some .final
  | some b => if b = 32 then some .final else if b = 45 then some .continuation else none

/-- The place of a line in its block, by its bytes. -/
def classifyByBytes (data : Bytes) : Option LineKind :=
  if data.length < 3 || !(data.take 3).all Text.isDigitByte then none
  else LineKind.ofMarkByte? data[3]?

/-- A mark is told from its first byte. -/
theorem LineKind.ofMarkByte?_head (rest : List Char) :
    ofMarkByte? (Text.bytes rest).head? = ofMark? rest.head? := by
  cases rest with
  | nil => rfl
  | cons c rest =>
    by_cases blank : c = ' '
    · rw [blank]
      rfl
    · by_cases hyphen : c = '-'
      · rw [hyphen]
        rfl
      · have other : ofMark? (some c) = none := by
          unfold ofMark?
          split <;> simp_all
        cases begins : Text.bytes (c :: rest) with
        | nil =>
          have length := Text.length_bytes_cons c rest
          have size := c.utf8Size_pos
          rw [begins, List.length_nil] at length
          omega
        | cons b more =>
          -- an ASCII byte in front would be the character itself
          have notBlank : b ≠ 32 := by
            rintro rfl
            obtain ⟨behind, same, -⟩ := (Text.bytes_eq_cons_iff (by decide)).mp begins
            exact blank (List.cons.inj same).1
          have notHyphen : b ≠ 45 := by
            rintro rfl
            obtain ⟨behind, same, -⟩ := (Text.bytes_eq_cons_iff (by decide)).mp begins
            exact hyphen (List.cons.inj same).1
          show ofMarkByte? (some b) = ofMark? (some c)
          rw [other, ofMarkByte?, if_neg notBlank, if_neg notHyphen]

/-- A line that does not begin with three digits has no place, by its bytes either. -/
theorem classifyByBytes_of_not_cut (uncut : splitCode? line = none) :
    classifyByBytes (Text.bytes line) = none := by
  rw [classifyByBytes, if_pos]
  rw [Bool.or_eq_true, decide_eq_true_eq, Bool.not_eq_true', List.all_eq_false]
  by_contra digits
  rw [not_or, Nat.not_lt] at digits
  -- three bytes that stand for digits are three digits, and the line could be cut
  obtain ⟨long, digits⟩ := digits
  rcases same : Text.bytes line with _ | ⟨a, _ | ⟨b, _ | ⟨c, more⟩⟩⟩ <;> rw [same] at digits long
  · exact absurd long (by simp)
  · exact absurd long (by simp)
  · exact absurd long (by simp)
  · obtain ⟨code, rest, found⟩ := Text.splitCode?_of_bytes same fun d mem => by
      by_contra other
      exact digits ⟨d, mem, other⟩
    exact absurd (uncut.symm.trans found) (by simp)

/-- The place of a line that begins with three digits is told by what stands behind them. -/
theorem classifyByBytes_of_cut (cut : splitCode? line = some (code, rest)) :
    classifyByBytes (Text.bytes line) = LineKind.ofMark? rest.head? := by
  obtain ⟨rfl, length, digits⟩ := splitCode?_eq_some_iff.mp cut
  have three : (Text.bytes code).length = 3 := (Text.length_bytes_digits digits).trans length
  have front : (Text.bytes (code ++ rest)).take 3 = Text.bytes code := by
    rw [Text.bytes_append, ← three, List.take_left]
  have fourth : (Text.bytes (code ++ rest))[3]? = (Text.bytes rest).head? := by
    rw [Text.bytes_append, List.getElem?_append_right (by omega), three, Nat.sub_self,
      List.head?_eq_getElem?]
  have long : ¬ (Text.bytes (code ++ rest)).length < 3 := by
    rw [Text.bytes_append, List.length_append]
    omega
  rw [classifyByBytes, front, Text.all_isDigitByte digits, fourth, if_neg (by simpa using long),
    LineKind.ofMarkByte?_head]

/-- **The bytes tell the place of a line**, whatever characters stand in it. -/
theorem classifyByBytes_eq (line : List Char) :
    classifyByBytes (Text.bytes line) = (parseLine? line).map fun parts => parts.2.1 := by
  cases cut : splitCode? line with
  | none =>
    rw [classifyByBytes_of_not_cut cut, parseLine?, cut]
    rfl
  | some parts =>
    obtain ⟨code, rest⟩ := parts
    rw [classifyByBytes_of_cut cut, parseLine?, cut]
    dsimp only
    cases LineKind.ofMark? rest.head? <;> rfl

namespace Reply

/-- The message texts of lines that all carry the code `code`, read by positions in bytes.  There is
no answer if a line has to be cut where that is not possible; a text that would begin behind the end
of its line is empty. -/
def messageByBytes (code : List Char) : List String → Option (Except Error (List String))
  | [] => some (.ok [])
  | line :: rest =>
    match classifyByBytes (Utf8.encode line) with
    | none => some (.error (.protocol (.malformedLine line)))
    | some _ =>
      match Text.cutAtByte? 3 line.toList with
      | none => none
      | some (own, _) =>
        if own = code then
          let text := ((Text.cutAtByte? 4 line.toList).map Prod.snd).getD []
          (messageByBytes code rest).map fun message => message.map (String.ofList text :: ·)
        else some (.error (.protocol (.codeChanged line)))

/-- The reply that a block of lines stands for, read by positions in bytes.  There is no answer if a
line has to be cut where that is not possible.  The code has to be a number of sixteen bits. -/
def ofLinesByBytes : List String → Option (Except Error Reply)
  | [] => some (.error (.protocol .emptyReply))
  | first :: rest =>
    match classifyByBytes (Utf8.encode first) with
    | none => some (.error (.protocol (.malformedLine first)))
    | some _ =>
      match Text.cutAtByte? 3 first.toList with
      | none => none
      | some (code, _) =>
        match Text.numeral? (Nat.pow 2 16) code with
        | none => some (.error (.protocol (.other ("Invalid reply code: " ++ String.ofList code))))
        | some value => (messageByBytes code (first :: rest)).map fun message =>
            message.map fun message => { code := ⟨UInt16.ofNat value⟩, message }

end Reply

/-! ### Every cut is possible -/

namespace Text

/-- A line that has more than its code is cut behind the mark at the fourth byte, and any other
cannot be cut there. -/
theorem cutAtByte?_four {kind : LineKind} (parsed : parseLine? line = some (code, kind, text)) :
    cutAtByte? 4 line = none ∧ (bytes line).length = 3 ∧ text = [] ∨
      ∃ front, cutAtByte? 4 line = some (front, text) := by
  obtain ⟨rest, cut, means, behind⟩ := parseLine?_eq_some_iff.mp parsed
  obtain ⟨rfl, length, digits⟩ := splitCode?_eq_some_iff.mp cut
  have three := (length_bytes_digits digits).trans length
  cases rest with
  | nil =>
    rw [List.append_nil]
    refine .inl ⟨?_, three, behind.symm⟩
    rw [Option.eq_none_iff_forall_ne_some]
    rintro ⟨front, back⟩ possible
    obtain ⟨same, four⟩ := cutAtByte?_eq_some_iff.mp possible
    rw [same, bytes_append, List.length_append] at three
    omega
  | cons mark rest =>
    obtain rfl : rest = text := behind
    have one : (String.utf8EncodeChar mark).length = 1 := by
      have marks := LineKind.exists_ofMark?_iff.mp ⟨kind, means⟩
      rcases marks with none | blank | hyphen
      · exact absurd none (by simp)
      · rw [Option.some.inj blank]
        rfl
      · rw [Option.some.inj hyphen]
        rfl
    refine .inr ⟨code ++ [mark], cutAtByte?_eq_some_iff.mpr ⟨by simp, ?_⟩⟩
    rw [bytes_append, List.length_append, three, bytes_cons, List.length_append, one]
    rfl

/-- The text of a line is what stands behind its fourth byte. -/
theorem bytes_text {kind : LineKind} (parsed : parseLine? line = some (code, kind, text)) :
    bytes text = (bytes line).drop 4 := by
  rcases cutAtByte?_four parsed with ⟨-, three, rfl⟩ | ⟨front, cut⟩
  · rw [List.drop_eq_nil_of_le (by omega)]
    rfl
  · obtain ⟨rfl, four⟩ := cutAtByte?_eq_some_iff.mp cut
    rw [bytes_append, ← four, List.drop_left]

/-- Three digits are a number of sixteen bits. -/
theorem numeral?_of_splitCode? (cut : splitCode? line = some (code, rest)) :
    numeral? (Nat.pow 2 16) code = some (digitsValue code) := by
  obtain ⟨-, length, digits⟩ := splitCode?_eq_some_iff.mp cut
  have few := (of_splitCode? cut).2.1
  have bounded : digitsValue code < Nat.pow 2 16 := Nat.lt_of_le_of_lt few (by decide)
  have some : code ≠ [] := List.ne_nil_of_length_pos (by omega)
  exact numeral?_eq_some_iff.mpr ⟨⟨code, .inl rfl, some, digits, rfl⟩, bounded⟩

end Text

namespace Reply

variable {r : Reply} {lines : List String}

/-- What is known of a line that carries a code. -/
theorem behindFourth {line : String} {kind : LineKind}
    (parsed : parseLine? line.toList = some (code, kind, text)) :
    BehindFourth line (String.ofList text) := by
  show Text.bytes (String.ofList text).toList = (Text.bytes line.toList).drop 4
  rw [String.toList_ofList]
  exact Text.bytes_text parsed

/-- Lines that carry one code are read, and each gives its text. -/
theorem messageOf_of_carries (sound : ∀ line ∈ lines, Carries line code) :
    ∃ message, messageOf code lines = .ok message ∧ List.Forall₂ BehindFourth lines message := by
  induction lines with
  | nil => exact ⟨[], rfl, .nil⟩
  | cons line lines ih =>
    obtain ⟨own, others⟩ := List.forall_mem_cons.mp sound
    obtain ⟨kind, text, parsed⟩ := carries_iff.mp own
    obtain ⟨message, read, texts⟩ := ih others
    refine ⟨String.ofList text :: message, ?_, .cons (behindFourth parsed) texts⟩
    rw [messageOf, parsed]
    dsimp only
    rw [if_pos rfl, read]
    rfl

/-- A block whose lines carry one code is a reply. -/
theorem ofLines_of_carries (some : lines ≠ []) (sound : ∀ line ∈ lines, Carries line code) :
    ∃ r, ofLines lines = .ok r ∧ r.code.value.toNat = Text.digitsValue code ∧
      List.Forall₂ BehindFourth lines r.message := by
  obtain ⟨message, read, texts⟩ := messageOf_of_carries sound
  obtain ⟨first, rest, rfl⟩ := List.exists_cons_of_ne_nil some
  have carries := sound first List.mem_cons_self
  obtain ⟨kind, text, parsed⟩ := carries_iff.mp carries
  have few := (of_parseLine? parsed).1
  refine ⟨⟨⟨UInt16.ofNat (Text.digitsValue code)⟩, message⟩, ?_, ?_, texts⟩
  · rw [ofLines_cons carries, read]
    rfl
  · exact UInt16.toNat_ofNat_of_lt' (by rw [UInt16.size]; omega)

/-- The texts are the same when they are read by positions in bytes. -/
theorem messageByBytes_eq (code : List Char) (lines : List String) :
    messageByBytes code lines = some (messageOf code lines) := by
  induction lines with
  | nil => rfl
  | cons line lines ih =>
    have place := classifyByBytes_eq line.toList
    rw [messageByBytes, messageOf]
    change classifyByBytes (Utf8.encode line) = _ at place
    cases parsed : parseLine? line.toList with
    | none =>
      rw [place, parsed]
      rfl
    | some parts =>
      obtain ⟨own, kind, text⟩ := parts
      obtain ⟨rest, cut, -, -⟩ := parseLine?_eq_some_iff.mp parsed
      rw [place, parsed, Text.cutAtByte?_three cut]
      dsimp only [Option.map_some]
      have behind : ((Text.cutAtByte? 4 line.toList).map Prod.snd).getD [] = text := by
        rcases Text.cutAtByte?_four parsed with ⟨none, -, rfl⟩ | ⟨front, cut⟩
        · rw [none]
          rfl
        · rw [cut]
          rfl
      by_cases same : own = code
      · rw [if_pos same, if_pos same, ih, behind]
        rfl
      · rw [if_neg same, if_neg same]

/-- **Every cut is possible**, and the reply is the same when it is read by positions in bytes. -/
theorem ofLinesByBytes_eq (lines : List String) : ofLinesByBytes lines = some (ofLines lines) := by
  cases lines with
  | nil => rfl
  | cons first rest =>
    have place := classifyByBytes_eq first.toList
    rw [ofLinesByBytes, ofLines]
    change classifyByBytes (Utf8.encode first) = _ at place
    cases parsed : parseLine? first.toList with
    | none =>
      rw [place, parsed]
      rfl
    | some parts =>
      obtain ⟨code, kind, text⟩ := parts
      obtain ⟨behind, cut, -, -⟩ := parseLine?_eq_some_iff.mp parsed
      rw [place, parsed, Text.cutAtByte?_three cut]
      dsimp only [Option.map_some]
      rw [Text.numeral?_of_splitCode? cut, messageByBytes_eq]
      rfl

/-- The third byte of a line that carries a code ends a character, and so does the fourth, unless
the line ends before it. -/
theorem isValid_of_carries {line : String} (carries : Carries line code) :
    String.Pos.Raw.IsValid line ⟨3⟩ ∧
      (String.Pos.Raw.IsValid line ⟨4⟩ ∨ (Utf8.encode line).length = 3) := by
  obtain ⟨kind, text, parsed⟩ := carries_iff.mp carries
  obtain ⟨rest, cut, -, -⟩ := parseLine?_eq_some_iff.mp parsed
  have valid {n : Nat} {parts : List Char × List Char}
      (possible : Text.cutAtByte? n line.toList = some parts) :
      String.Pos.Raw.IsValid line ⟨n⟩ := by
    have position := Text.isSome_cutAtByte?_iff.mp (Option.isSome_of_eq_some possible)
    rwa [String.ofList_toList] at position
  refine ⟨valid (Text.cutAtByte?_three cut), ?_⟩
  rcases Text.cutAtByte?_four parsed with ⟨-, three, -⟩ | ⟨front, possible⟩
  · exact .inr three
  · exact .inl (valid possible)

/-- **A block is read exactly by its grammar**: it is a reply if there is a line and all lines carry
one code, with the value of the code and with what stands behind the fourth byte of each line.
Otherwise its first fault is the error.  No line is cut outside of it or inside a character. -/
theorem read_by_grammar (lines : List String) :
    ((∃ r, ofLines lines = .ok r) ↔ lines ≠ [] ∧ ∃ code, ∀ line ∈ lines, Carries line code) ∧
    (∀ r code, ofLines lines = .ok r → (∀ line ∈ lines, Carries line code) →
      r.code.value.toNat = Text.digitsValue code ∧
      List.Forall₂ BehindFourth lines r.message) ∧
    (∀ err, ofLines lines = .error err ↔
      ∃ fault, FirstFault lines fault ∧ err = .protocol fault) ∧
    ofLinesByBytes lines = some (ofLines lines) ∧
    (∀ line code, Carries line code → String.Pos.Raw.IsValid line ⟨3⟩ ∧
      (String.Pos.Raw.IsValid line ⟨4⟩ ∨ (Utf8.encode line).length = 3)) := by
  refine ⟨⟨?_, ?_⟩, ?_, fun err => ⟨?_, ?_⟩, ofLinesByBytes_eq lines, ?_⟩
  · rintro ⟨r, read⟩
    rcases carries_or_fault lines with sound | ⟨fault, found⟩
    · exact sound
    · exact absurd ((ofLines_of_fault found).symm.trans read) (by simp)
  · rintro ⟨some, code, sound⟩
    obtain ⟨r, read, -⟩ := ofLines_of_carries some sound
    exact ⟨r, read⟩
  · intro r code read sound
    have some : lines ≠ [] := by
      rintro rfl
      exact absurd read (by simp [ofLines])
    obtain ⟨own, ownRead, value, texts⟩ := ofLines_of_carries some sound
    obtain rfl := Except.ok.inj (ownRead.symm.trans read)
    exact ⟨value, texts⟩
  · intro refused
    rcases carries_or_fault lines with ⟨some, code, sound⟩ | ⟨fault, found⟩
    · obtain ⟨r, read, -⟩ := ofLines_of_carries some sound
      exact absurd (read.symm.trans refused) (by simp)
    · have same := (ofLines_of_fault found).symm.trans refused
      exact ⟨fault, found, (Except.error.inj same).symm⟩
  · rintro ⟨fault, found, rfl⟩
    exact ofLines_of_fault found
  · intro line code carries
    exact isValid_of_carries carries

/-- Letters of more than one byte, an empty text and a bare code are read, and behind a sound line a
character that begins in the third byte is the first fault. -/
theorem foreign_letters_read :
    ofLines ["250-één", "250-", "250"] = .ok ⟨⟨250⟩, ["één", "", ""]⟩ ∧
    List.Forall₂ BehindFourth ["250-één", "250-", "250"] ["één", "", ""] ∧
    ofLines ["250-één", "25é", "ABC"] = .error (.protocol (.malformedLine "25é")) := by
  have read : ofLines ["250-één", "250-", "250"] = .ok ⟨⟨250⟩, ["één", "", ""]⟩ := rfl
  have one : Carries "250-één" ['2', '5', '0'] := carries_iff.mpr ⟨.continuation, _, rfl⟩
  have two : Carries "250-" ['2', '5', '0'] := carries_iff.mpr ⟨.continuation, _, rfl⟩
  have three : Carries "250" ['2', '5', '0'] := carries_iff.mpr ⟨.final, _, rfl⟩
  have sound : ∀ line ∈ ["250-één", "250-", "250"], Carries line ['2', '5', '0'] := by
    simp [one, two, three]
  have fault : FirstFault (["250-één"] ++ "25é" :: ["ABC"]) (.malformedLine "25é") :=
    .malformed (List.forall_mem_singleton.mpr one) (parseLine?_eq_none_iff.mp rfl)
  refine ⟨read, ((read_by_grammar _).2.1 _ _ read sound).2, ?_⟩
  exact ((read_by_grammar (["250-één"] ++ "25é" :: ["ABC"])).2.2.1 _).mpr ⟨_, fault, rfl⟩

end Reply

end SmtpLink
