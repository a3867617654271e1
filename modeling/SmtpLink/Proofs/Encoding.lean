import SmtpLink.Proofs.Decoding

/-!
# Encoding lines

A text is sent in UTF-8, with a line end behind it.  It is read as it was: the automaton that
decodes takes the bytes of a character and is where it was before, with the character read.

## Main definitions

* `Utf8.tailByte` — a byte behind the first of a character, with its six bits.
* `sentLine` — a line as it is sent.

## Main results

* `Utf8.foldl_step_encodeChar` — the bytes of a character are read as the character.
* `Utf8.decodeChars_encode` — **decoding undoes encoding.**
* `lineText_sentLine` — **the text of a line that was sent is the line.**
-/

namespace SmtpLink

/-! ### Characters -/

namespace Utf8

variable {v : Nat}

/-- The first byte of two. -/
theorem start?_two (least : 0x80 ≤ v) (most : v ≤ 0x7FF) :
    start? (UInt8.ofNat (v / 64 % 32 + 192)) = some { later := 0, bits := v / 64 } := by
  have byte : (UInt8.ofNat (v / 64 % 32 + 192)).toNat = v / 64 + 192 := by
    rw [UInt8.toNat_ofNat']
    omega
  simp only [start?, UInt8.le_iff_toNat_le, byte, UInt8.reduceToNat]
  rw [if_pos (by omega)]
  rw [Nat.add_sub_cancel]

/-- The first byte of three, and what it tells of the second. -/
theorem exists_start?_three (least : 0x800 ≤ v) (most : v ≤ 0xFFFF)
    (scalar : v < 0xD800 ∨ 0xDFFF < v) : ∃ low high,
      start? (UInt8.ofNat (v / 4096 % 16 + 224)) = some ⟨1, v / 4096, low, high⟩ ∧
      low.toNat ≤ v / 64 % 64 + 128 ∧ v / 64 % 64 + 128 ≤ high.toNat := by
  by_cases first : v / 4096 = 0
  · rw [first]
    refine ⟨0xA0, 0xBF, rfl, ?_, ?_⟩ <;> simp only [UInt8.reduceToNat] <;> omega
  · by_cases surrogates : v / 4096 = 0xD
    · rw [surrogates]
      refine ⟨0x80, 0x9F, rfl, ?_, ?_⟩ <;> simp only [UInt8.reduceToNat] <;> omega
    · have byte : (UInt8.ofNat (v / 4096 % 16 + 224)).toNat = v / 4096 + 224 := by
        rw [UInt8.toNat_ofNat']
        omega
      refine ⟨0x80, 0xBF, ?_, ?_, ?_⟩
      · simp only [start?, UInt8.le_iff_toNat_le, ← UInt8.toNat_inj, byte, UInt8.reduceToNat]
        rw [if_neg (by omega), if_neg (by omega), if_neg (by omega), if_pos (by omega)]
        rw [Nat.add_sub_cancel]
      · simp only [UInt8.reduceToNat]; omega
      · simp only [UInt8.reduceToNat]; omega

/-- The first byte of four, and what it tells of the second. -/
theorem exists_start?_four (least : 0x10000 ≤ v) (most : v < 0x110000) : ∃ low high,
      start? (UInt8.ofNat (v / 262144 % 8 + 240)) = some ⟨2, v / 262144, low, high⟩ ∧
      low.toNat ≤ v / 4096 % 64 + 128 ∧ v / 4096 % 64 + 128 ≤ high.toNat := by
  by_cases first : v / 262144 = 0
  · rw [first]
    refine ⟨0x90, 0xBF, rfl, ?_, ?_⟩ <;> simp only [UInt8.reduceToNat] <;> omega
  · by_cases final : v / 262144 = 4
    · rw [final]
      refine ⟨0x80, 0x8F, rfl, ?_, ?_⟩ <;> simp only [UInt8.reduceToNat] <;> omega
    · have byte : (UInt8.ofNat (v / 262144 % 8 + 240)).toNat = v / 262144 + 240 := by
        rw [UInt8.toNat_ofNat']
        omega
      refine ⟨0x80, 0xBF, ?_, ?_, ?_⟩
      · simp only [start?, UInt8.le_iff_toNat_le, ← UInt8.toNat_inj, byte, UInt8.reduceToNat]
        rw [if_neg (by omega), if_neg (by omega), if_neg (by omega), if_neg (by omega),
          if_neg (by omega), if_neg (by omega), if_pos (by omega)]
        rw [Nat.add_sub_cancel]
      · simp only [UInt8.reduceToNat]; omega
      · simp only [UInt8.reduceToNat]; omega

/-- A byte that starts a sequence is kept for it. -/
theorem begin_of_start? {b : UInt8} {p : Unfinished} (h : start? b = some p) (out : List Char) :
    begin out b = (some p, out) := by
  have notAscii : ¬ b < 0x80 := by
    intro ascii
    have below : b.toNat < 0x80 := UInt8.lt_iff_toNat_lt.mp ascii
    simp only [start?, UInt8.le_iff_toNat_le, ← UInt8.toNat_inj, UInt8.reduceToNat] at h
    rw [if_neg (by omega), if_neg (by omega), if_neg (by omega), if_neg (by omega),
      if_neg (by omega), if_neg (by omega), if_neg (by omega)] at h
    exact absurd h (by simp)
  rw [begin, if_neg notAscii, h]

/-- The six bits that a byte behind the first brings. -/
def tailByte (bits : Nat) : UInt8 := UInt8.ofNat (bits % 64 + 128)

theorem toNat_tailByte (bits : Nat) : (tailByte bits).toNat = bits % 64 + 128 := by
  rw [tailByte, UInt8.toNat_ofNat']
  omega

/-- A byte that is admitted, and is the last. -/
theorem step_last {bits more : Nat} {low high : UInt8} (least : low.toNat ≤ more % 64 + 128)
    (most : more % 64 + 128 ≤ high.toNat) (out : List Char) :
    step (some ⟨0, bits, low, high⟩, out) (tailByte more) =
      (none, Char.ofNat (64 * bits + more % 64) :: out) := by
  have admitted : low ≤ tailByte more ∧ tailByte more ≤ high := by
    rw [UInt8.le_iff_toNat_le, UInt8.le_iff_toNat_le, toNat_tailByte]
    exact ⟨least, most⟩
  simp only [step, if_pos admitted, toNat_tailByte, if_true]
  rw [Nat.add_sub_cancel]

/-- A byte that is admitted, and is not the last. -/
theorem step_more {later bits more : Nat} {low high : UInt8} (least : low.toNat ≤ more % 64 + 128)
    (most : more % 64 + 128 ≤ high.toNat) (out : List Char) :
    step (some ⟨later + 1, bits, low, high⟩, out) (tailByte more) =
      (some { later := later, bits := 64 * bits + more % 64 }, out) := by
  have admitted : low ≤ tailByte more ∧ tailByte more ≤ high := by
    rw [UInt8.le_iff_toNat_le, UInt8.le_iff_toNat_le, toNat_tailByte]
    exact ⟨least, most⟩
  simp only [step, if_pos admitted, toNat_tailByte, if_neg (Nat.succ_ne_zero later)]
  rw [Nat.add_sub_cancel, Nat.add_sub_cancel]

theorem usual_tail (more : Nat) : (0x80 : UInt8).toNat ≤ more % 64 + 128 ∧
    more % 64 + 128 ≤ (0xBF : UInt8).toNat := by
  simp only [UInt8.reduceToNat]
  omega

/-- The bytes of a character, by its number. -/
theorem encodeChar_eq (c : Char) : String.utf8EncodeChar c =
    if c.toNat ≤ 127 then [UInt8.ofNat c.toNat]
    else if c.toNat ≤ 2047 then [UInt8.ofNat (c.toNat / 64 % 32 + 192), tailByte c.toNat]
    else if c.toNat ≤ 65535 then
      [UInt8.ofNat (c.toNat / 4096 % 16 + 224), tailByte (c.toNat / 64), tailByte c.toNat]
    else [UInt8.ofNat (c.toNat / 262144 % 8 + 240), tailByte (c.toNat / 4096),
      tailByte (c.toNat / 64), tailByte c.toNat] := rfl

/-- **The bytes of a character are read as the character**, whatever was read before. -/
theorem foldl_step_encodeChar (c : Char) (out : List Char) :
    (String.utf8EncodeChar c).foldl step (none, out) = (none, c :: out) := by
  have read {n : Nat} (same : n = c.toNat) :
      ((none, Char.ofNat n :: out) : Decoder) = (none, c :: out) := by
    rw [same, Char.ofNat_toNat]
  have scalar : c.toNat < 0xD800 ∨ 0xDFFF < c.toNat ∧ c.toNat < 0x110000 := c.valid
  rw [encodeChar_eq]
  split
  · next one =>
    have ascii : UInt8.ofNat c.toNat < 0x80 := by
      rw [UInt8.lt_iff_toNat_lt, UInt8.toNat_ofNat']
      simp only [UInt8.reduceToNat]
      omega
    rw [List.foldl_cons, List.foldl_nil, step, begin, if_pos ascii, UInt8.toNat_ofNat']
    apply read
    omega
  · next notOne =>
    split
    · next two =>
      have start := start?_two (by omega) two
      rw [List.foldl_cons, List.foldl_cons, List.foldl_nil, step, begin_of_start? start,
        step_last (usual_tail _).1 (usual_tail _).2]
      apply read
      omega
    · next notTwo =>
      split
      · next three =>
        obtain ⟨low, high, start, least, most⟩ :=
          exists_start?_three (v := c.toNat) (by omega) three (by omega)
        rw [List.foldl_cons, List.foldl_cons, List.foldl_cons, List.foldl_nil, step,
          begin_of_start? start, step_more least most,
          step_last (usual_tail _).1 (usual_tail _).2]
        apply read
        omega
      · next notThree =>
        obtain ⟨low, high, start, least, most⟩ :=
          exists_start?_four (v := c.toNat) (by omega) (by omega)
        rw [List.foldl_cons, List.foldl_cons, List.foldl_cons, List.foldl_cons, List.foldl_nil,
          step, begin_of_start? start, step_more least most,
          step_more (usual_tail _).1 (usual_tail _).2,
          step_last (usual_tail _).1 (usual_tail _).2]
        apply read
        omega

/-- **Decoding undoes encoding.** -/
theorem decodeChars_encode (text : String) : decodeChars (encode text) = text.toList := by
  have read (chars out : List Char) : (chars.flatMap String.utf8EncodeChar).foldl step (none, out) =
      (none, chars.reverse ++ out) := by
    induction chars generalizing out with
    | nil => rfl
    | cons c chars ih =>
      rw [List.flatMap_cons, List.foldl_append, foldl_step_encodeChar, ih, List.reverse_cons,
        List.append_assoc]
      rfl
  rw [decodeChars, encode, read, List.append_nil, finish, List.reverse_reverse]

/-- Encoding makes no line feeds. -/
theorem lineFeed_not_mem_encode {text : String} (clean : '\n' ∉ text.toList) :
    lineFeed ∉ encode text := by
  intro mem
  obtain ⟨bytes, more, cut⟩ := List.append_of_mem mem
  have read := decodeChars_append_ascii_append bytes more (b := lineFeed) (by decide)
  rw [← cut, decodeChars_encode] at read
  apply clean
  rw [read]
  exact List.mem_append_right _ List.mem_cons_self

end Utf8

/-! ### Lines -/

/-- What does not end with a character to be dropped stays as it is. -/
theorem dropEndWhile_eq {p : Char → Bool} {text : List Char}
    (kept : ∀ c ∈ text.getLast?, p c = false) : Text.dropEndWhile p text = text := by
  rw [Text.dropEndWhile]
  cases back : text.reverse with
  | nil => rw [List.reverse_eq_nil_iff.mp back]; rfl
  | cons c rest =>
    have last : c ∈ text.getLast? := by
      rw [← List.head?_reverse, back]
      rfl
    rw [List.dropWhile_cons_of_neg (by simp [kept c last]), ← back, List.reverse_reverse]

theorem dropEndWhile_concat {p : Char → Bool} (text : List Char) {c : Char} (dropped : p c = true) :
    Text.dropEndWhile p (text ++ [c]) = Text.dropEndWhile p text := by
  rw [Text.dropEndWhile, List.reverse_append, List.reverse_singleton, List.singleton_append,
    List.dropWhile_cons_of_pos dropped]
  rfl

/-- A line as it is sent, without its line feed. -/
def sentLine (line : String) : Bytes := Utf8.encode line ++ [13]

/-- **The text of a line that was sent is the line**, if the line does not end with a line end
itself. -/
theorem lineText_sentLine {line : String} (kept : ∀ c ∈ line.toList.getLast?, isLineEnd c = false) :
    lineText (sentLine line) = line := by
  have same : Text.dropEndWhile isLineEnd (line.toList ++ ['\r']) = line.toList := by
    rw [dropEndWhile_concat _ rfl, dropEndWhile_eq kept]
  rw [lineText, sentLine, Utf8.decodeChars_append_ascii _ (by decide), Utf8.decodeChars_encode]
  calc String.ofList (Text.dropEndWhile isLineEnd (line.toList ++ ['\r']))
    _ = String.ofList line.toList := by rw [same]
    _ = line := String.ofList_toList

theorem lineFeed_not_mem_sentLine {line : String} (clean : '\n' ∉ line.toList) :
    lineFeed ∉ sentLine line := by
  rw [sentLine, List.mem_append, not_or]
  exact ⟨Utf8.lineFeed_not_mem_encode clean, by decide⟩

end SmtpLink
