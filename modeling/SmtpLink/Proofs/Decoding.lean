import SmtpLink.Reply.Assembler

/-!
# Decoding lines

The bytes of a line are read as UTF-8, whatever they are.  What matters for replies is that the
parts of a line do not run into each other: ASCII in front of a text and behind it is read byte
by byte, and a text without line ends is not read as one with line ends.

## Main results

* `Utf8.decodeChars_ascii_append`, `Utf8.decodeChars_append_ascii`,
  `Utf8.decodeChars_append_ascii_append` — ASCII around or inside a text is read apart from it.
* `Utf8.not_lineEnd_of_mem_decodeChars` — decoding makes no line ends.
* `lineText_append_return` — **the text of a line is what stands before its end.**
-/

namespace SmtpLink

/-- Ends a line: a carriage return or a line feed. -/
def isLineEnd (c : Char) : Bool := c == '\r' || c == '\n'

namespace Utf8

/-- What holds of every sequence whose last byte has not come yet: no byte of ASCII continues
it, and it stands for no character of ASCII. -/
structure Unfinished.Proper (p : Unfinished) : Prop where
  /-- No byte of ASCII continues the sequence. -/
  low : 0x80 ≤ p.low.toNat
  /-- With one byte more, the sequence stands for no character of ASCII. -/
  last : p.later = 0 → 128 ≤ 64 * p.bits + (p.low.toNat - 0x80)
  /-- With more bytes, neither. -/
  more : p.later ≠ 0 → 2 ≤ 64 * p.bits + (p.low.toNat - 0x80)

theorem proper_of_start? {b : UInt8} {p : Unfinished} (h : start? b = some p) : p.Proper := by
  have usual : 0x80 ≤ (0x80 : UInt8).toNat := by decide
  unfold start? at h
  split at h
  · next hb =>
    have lower : 0xC2 ≤ b.toNat := UInt8.le_iff_toNat_le.mp hb.1
    obtain rfl := Option.some.inj h
    refine ⟨usual, fun _ => ?_, fun h => absurd rfl h⟩
    simp only [UInt8.reduceToNat]
    omega
  · split at h
    · obtain rfl := Option.some.inj h
      exact ⟨by decide, fun h => absurd h (by simp), fun _ => by decide⟩
    · split at h
      · obtain rfl := Option.some.inj h
        exact ⟨by decide, fun h => absurd h (by simp), fun _ => by decide⟩
      · split at h
        · next notE0 notED hb =>
          have lower : 0xE1 ≤ b.toNat := UInt8.le_iff_toNat_le.mp hb.1
          obtain rfl := Option.some.inj h
          refine ⟨usual, fun h => absurd h (by simp), fun _ => ?_⟩
          simp only [UInt8.reduceToNat]
          omega
        · split at h
          · obtain rfl := Option.some.inj h
            exact ⟨by decide, fun h => absurd h (by simp), fun _ => by decide⟩
          · split at h
            · obtain rfl := Option.some.inj h
              exact ⟨by decide, fun h => absurd h (by simp), fun _ => by decide⟩
            · split at h
              · next hb =>
                have lower : 0xF1 ≤ b.toNat := UInt8.le_iff_toNat_le.mp hb.1
                obtain rfl := Option.some.inj h
                refine ⟨usual, fun h => absurd h (by simp), fun _ => ?_⟩
                simp only [UInt8.reduceToNat]
                omega
              · exact absurd h (by simp)

/-! ### What has been read stays -/

theorem begin_append (out base : List Char) (b : UInt8) :
    begin (out ++ base) b = ((begin out b).1, (begin out b).2 ++ base) := by
  unfold begin
  split
  · rfl
  · split <;> rfl

theorem step_append (s : Option Unfinished) (out base : List Char) (b : UInt8) :
    step (s, out ++ base) b = ((step (s, out) b).1, (step (s, out) b).2 ++ base) := by
  cases s with
  | none => exact begin_append out base b
  | some p =>
    dsimp only [step]
    split
    · split <;> rfl
    · exact begin_append (replacement :: out) base b

theorem foldl_step_append (bytes : Bytes) (s : Option Unfinished) (out base : List Char) :
    bytes.foldl step (s, out ++ base) =
      ((bytes.foldl step (s, out)).1, (bytes.foldl step (s, out)).2 ++ base) := by
  induction bytes generalizing s out with
  | nil => rfl
  | cons b rest ih =>
    rw [List.foldl_cons, step_append, ih, List.foldl_cons]

theorem finish_append (s : Option Unfinished) (out base : List Char) :
    finish (s, out ++ base) = base.reverse ++ finish (s, out) := by
  cases s <;> simp [finish]

/-- ASCII in front of a text is read apart from it. -/
theorem decodeChars_ascii_append (ascii bytes : Bytes) (h : ∀ b ∈ ascii, b < 0x80) :
    decodeChars (ascii ++ bytes) =
      ascii.map (fun b => Char.ofNat b.toNat) ++ decodeChars bytes := by
  have read := foldl_step_append bytes none [] ((ascii.map fun b => Char.ofNat b.toNat).reverse)
  rw [List.nil_append] at read
  rw [decodeChars, List.foldl_append, foldl_step_ascii ascii [] h, List.append_nil, read,
    finish_append, List.reverse_reverse]
  rfl

/-! ### Sequences end where ASCII begins -/

/-- An unfinished sequence is proper. -/
def Decoder.Proper (d : Decoder) : Prop := ∀ p ∈ d.1, p.Proper

theorem proper_begin (out : List Char) (b : UInt8) : Decoder.Proper (begin out b) := by
  unfold begin
  intro p hp
  split at hp
  · exact absurd hp (by simp)
  · split at hp
    · next q start =>
      obtain rfl : q = p := by simpa using hp
      exact proper_of_start? start
    · exact absurd hp (by simp)

theorem proper_step {d : Decoder} (proper : d.Proper) (b : UInt8) :
    Decoder.Proper (step d b) := by
  obtain ⟨s, out⟩ := d
  cases s with
  | none => exact proper_begin out b
  | some q =>
    dsimp only [step]
    split
    · next admitted =>
      intro p hp
      split at hp
      · exact absurd hp (by simp)
      · next notLast =>
        -- the bits read so far are shifted by the new ones, and were not nought already
        have more := (proper q rfl).more notLast
        have least : q.low.toNat ≤ b.toNat := UInt8.le_iff_toNat_le.mp admitted.1
        simp only [Option.mem_def, Option.some.injEq] at hp
        subst hp
        have usual : 0x80 ≤ (0x80 : UInt8).toNat := by decide
        refine ⟨usual, fun _ => ?_, fun _ => ?_⟩ <;> simp only [UInt8.reduceToNat] <;> omega
    · exact proper_begin (replacement :: out) b

theorem proper_foldl (bytes : Bytes) {d : Decoder} (proper : d.Proper) :
    Decoder.Proper (bytes.foldl step d) := by
  induction bytes generalizing d with
  | nil => exact proper
  | cons b rest ih => exact ih (proper_step proper b)

theorem proper_start : Decoder.Proper (none, []) := fun _ hp => absurd hp (by simp)

/-- Whatever has been read, a byte of ASCII ends it and is read as itself. -/
theorem step_ascii {d : Decoder} (proper : d.Proper) {b : UInt8} (ascii : b < 0x80) :
    step d b = (none, Char.ofNat b.toNat :: (finish d).reverse) := by
  obtain ⟨s, out⟩ := d
  cases s with
  | none => simp [step, begin, ascii, finish]
  | some p =>
    have low := (proper p rfl).low
    have below : b.toNat < 0x80 := UInt8.lt_iff_toNat_lt.mp ascii
    have notAdmitted : ¬ (p.low ≤ b ∧ b ≤ p.high) := by
      rintro ⟨admitted, -⟩
      have := UInt8.le_iff_toNat_le.mp admitted
      omega
    simp [step, notAdmitted, begin, ascii, finish]

theorem finish_step_ascii {d : Decoder} (proper : d.Proper) {b : UInt8} (ascii : b < 0x80) :
    finish (step d b) = finish d ++ [Char.ofNat b.toNat] := by
  rw [step_ascii proper ascii, finish, List.reverse_cons, List.reverse_reverse]

/-- ASCII behind a text is read apart from it. -/
theorem decodeChars_append_ascii (bytes : Bytes) {b : UInt8} (ascii : b < 0x80) :
    decodeChars (bytes ++ [b]) = decodeChars bytes ++ [Char.ofNat b.toNat] := by
  rw [decodeChars, List.foldl_append]
  exact finish_step_ascii (proper_foldl bytes proper_start) ascii

/-- ASCII inside a text is read apart from what stands on both sides. -/
theorem decodeChars_append_ascii_append (bytes more : Bytes) {b : UInt8} (ascii : b < 0x80) :
    decodeChars (bytes ++ b :: more) =
      decodeChars bytes ++ Char.ofNat b.toNat :: decodeChars more := by
  have behind := foldl_step_append more none []
    (Char.ofNat b.toNat :: (finish (bytes.foldl step (none, []))).reverse)
  rw [List.nil_append] at behind
  rw [decodeChars, List.foldl_append, List.foldl_cons,
    step_ascii (proper_foldl bytes proper_start) ascii, behind, finish_append, List.reverse_cons,
    List.reverse_reverse, List.append_assoc]
  rfl

/-! ### Line ends -/

/-- Only the two line ends of ASCII are read as line ends. -/
theorem isLineEnd_ofNat {n : Nat} (h : isLineEnd (Char.ofNat n) = true) : n = 13 ∨ n = 10 := by
  have value : (Char.ofNat n).toNat = 13 ∨ (Char.ofNat n).toNat = 10 := by
    simp only [isLineEnd, Bool.or_eq_true, beq_iff_eq] at h
    rcases h with h | h <;> rw [h]
    · exact .inl rfl
    · exact .inr rfl
  by_cases valid : n.isValidChar
  · rw [Char.ofNat, dif_pos valid] at value
    exact value
  · rw [Char.ofNat, dif_neg valid] at value
    exact absurd value (by decide)

/-- No line end has been read. -/
def Decoder.Unbroken (d : Decoder) : Prop := ∀ c ∈ d.2, isLineEnd c = false

theorem unbroken_begin {out : List Char} (unbroken : ∀ c ∈ out, isLineEnd c = false) {b : UInt8}
    (clean : b ≠ 13 ∧ b ≠ 10) : Decoder.Unbroken (begin out b) := by
  have asRead : isLineEnd (Char.ofNat b.toNat) = false := by
    rw [Bool.eq_false_iff]
    intro h
    rcases isLineEnd_ofNat h with h | h
    · exact clean.1 (UInt8.toNat_inj.mp h)
    · exact clean.2 (UInt8.toNat_inj.mp h)
  unfold begin
  split
  · exact List.forall_mem_cons.mpr ⟨asRead, unbroken⟩
  · split
    · exact unbroken
    · exact List.forall_mem_cons.mpr ⟨rfl, unbroken⟩

theorem unbroken_step {d : Decoder} (proper : d.Proper) (unbroken : d.Unbroken) {b : UInt8}
    (clean : b ≠ 13 ∧ b ≠ 10) : Decoder.Unbroken (step d b) := by
  obtain ⟨s, out⟩ := d
  cases s with
  | none => exact unbroken_begin unbroken clean
  | some p =>
    dsimp only [step]
    split
    · next admitted =>
      have least : p.low.toNat ≤ b.toNat := UInt8.le_iff_toNat_le.mp admitted.1
      split
      · next last =>
        -- a sequence of several bytes stands for no character of ASCII
        have beyond := (proper p rfl).last last
        refine List.forall_mem_cons.mpr ⟨?_, unbroken⟩
        rw [Bool.eq_false_iff]
        intro h
        rcases isLineEnd_ofNat h with h | h <;> omega
      · exact unbroken
    · exact unbroken_begin (List.forall_mem_cons.mpr ⟨rfl, unbroken⟩) clean

theorem unbroken_foldl {bytes : Bytes} (clean : ∀ b ∈ bytes, b ≠ 13 ∧ b ≠ 10) {d : Decoder}
    (proper : d.Proper) (unbroken : d.Unbroken) : Decoder.Unbroken (bytes.foldl step d) := by
  induction bytes generalizing d with
  | nil => exact unbroken
  | cons b rest ih =>
    obtain ⟨cleanByte, cleanRest⟩ := List.forall_mem_cons.mp clean
    exact ih cleanRest (proper_step proper b) (unbroken_step proper unbroken cleanByte)

/-- **Decoding makes no line ends.** -/
theorem not_lineEnd_of_mem_decodeChars {bytes : Bytes} (clean : ∀ b ∈ bytes, b ≠ 13 ∧ b ≠ 10)
    {c : Char} (h : c ∈ decodeChars bytes) : isLineEnd c = false := by
  have unbroken : Decoder.Unbroken (bytes.foldl step (none, [])) :=
    unbroken_foldl clean proper_start fun c hc => absurd hc (by simp)
  rw [decodeChars] at h
  generalize bytes.foldl step (none, []) = d at h unbroken
  obtain ⟨s, out⟩ := d
  cases s with
  | none => exact unbroken c (List.mem_reverse.mp h)
  | some p =>
    rcases List.mem_cons.mp (List.mem_reverse.mp h) with rfl | h
    · rfl
    · exact unbroken c h

end Utf8

/-! ### The text of a line -/

theorem dropEndWhile_append {p : Char → Bool} {text ends : List Char}
    (kept : ∀ c ∈ text, p c = false) (dropped : ∀ c ∈ ends, p c = true) :
    Text.dropEndWhile p (text ++ ends) = text := by
  have dropped' : ∀ c ∈ ends.reverse, p c = true := fun c hc => dropped c (List.mem_reverse.mp hc)
  have kept' : text.reverse.dropWhile p = text.reverse := by
    cases h : text.reverse with
    | nil => rfl
    | cons c rest =>
      have hc : c ∈ text := List.mem_reverse.mp (h ▸ List.mem_cons_self)
      rw [List.dropWhile_cons_of_neg (by simp [kept c hc])]
  rw [Text.dropEndWhile, List.reverse_append, List.dropWhile_append_of_pos dropped', kept',
    List.reverse_reverse]

/-- **The text of a line is what stands before its end**, read apart from the ASCII in front of
it. -/
theorem lineText_append_return {ascii text : Bytes} (isAscii : ∀ b ∈ ascii, b < 0x80)
    (clean : ∀ b ∈ ascii ++ text, b ≠ 13 ∧ b ≠ 10) :
    lineText (ascii ++ text ++ [13]) =
      String.ofList (ascii.map (fun b => Char.ofNat b.toNat) ++ Utf8.decodeChars text) := by
  have kept : ∀ c ∈ Utf8.decodeChars (ascii ++ text), isLineEnd c = false :=
    fun c hc => Utf8.not_lineEnd_of_mem_decodeChars clean hc
  have dropped : ∀ c ∈ [Char.ofNat (13 : UInt8).toNat], isLineEnd c = true :=
    List.forall_mem_singleton.mpr rfl
  have text : Text.dropEndWhile isLineEnd (Utf8.decodeChars (ascii ++ text) ++ ['\r']) =
      Utf8.decodeChars (ascii ++ text) := dropEndWhile_append kept dropped
  rw [← Utf8.decodeChars_ascii_append ascii _ isAscii, lineText,
    Utf8.decodeChars_append_ascii _ (by decide)]
  exact congrArg String.ofList text

end SmtpLink
