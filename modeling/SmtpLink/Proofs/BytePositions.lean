import SmtpLink.Proofs.Encoding

/-!
# Positions in bytes

A text is stored as bytes, and a position in it may be a number of bytes.  Such a position can lie
outside of the text, or inside a character, and a cut there is not possible.  What the bytes say of
ASCII characters at the beginning of a text, the characters say as well.

## Main definitions

* `Text.bytes` — the bytes of a text.
* `Text.cutAtByte?` — the two parts of a text before and behind a position in bytes.
* `Text.charIndices` — the characters of a text with the positions at which they begin.

## Main results

* `Text.cutAtByte?_eq_some_iff` — **a cut is possible behind whole characters.**
* `Text.isSome_cutAtByte?_iff` — these are the valid positions of the string.
* `Text.bytes_eq_cons_iff` — **an ASCII byte in front is an ASCII character in front.**
* `Text.cutAtByte?_of_charIndices` — a text is cut where a character begins.
-/

namespace SmtpLink.Text

variable {text front back : List Char} {n : Nat} {b : UInt8} {more : Bytes}

/-! ### Cuts -/

/-- The bytes of a text. -/
def bytes (text : List Char) : Bytes := text.flatMap String.utf8EncodeChar

@[simp] theorem bytes_nil : bytes [] = [] := rfl

@[simp] theorem bytes_cons (c : Char) (text : List Char) :
    bytes (c :: text) = String.utf8EncodeChar c ++ bytes text := rfl

@[simp] theorem bytes_append (front back : List Char) :
    bytes (front ++ back) = bytes front ++ bytes back :=
  List.flatMap_append

theorem length_bytes_cons (c : Char) (text : List Char) :
    (bytes (c :: text)).length = c.utf8Size + (bytes text).length := by
  rw [bytes_cons, List.length_append, String.length_utf8EncodeChar]

/-- The bytes of a text are counted as those of the string. -/
theorem length_bytes (text : List Char) :
    (bytes text).length = (String.ofList text).utf8ByteSize := by
  induction text with
  | nil => rfl
  | cons c text ih =>
    rw [length_bytes_cons, ih, String.ofList_cons, String.utf8ByteSize_append,
      String.utf8ByteSize_singleton]

/-- The two parts of a text before and behind a position in bytes.  There is no cut outside of the
text, nor inside a character. -/
def cutAtByte? : Nat → List Char → Option (List Char × List Char)
  | 0, text => some ([], text)
  | _ + 1, [] => none
  | n + 1, c :: text =>
    if c.utf8Size ≤ n + 1 then
      (cutAtByte? (n + 1 - c.utf8Size) text).map fun (front, back) => (c :: front, back)
    else none

/-- **A cut is possible behind whole characters**, and nowhere else. -/
theorem cutAtByte?_eq_some_iff :
    cutAtByte? n text = some (front, back) ↔ text = front ++ back ∧ (bytes front).length = n := by
  fun_induction cutAtByte? n text generalizing front with
  | case1 text =>
    rw [Option.some.injEq, Prod.mk.injEq]
    constructor
    · rintro ⟨rfl, rfl⟩
      exact ⟨rfl, rfl⟩
    · rintro ⟨rfl, nothing⟩
      cases front with
      | nil => exact ⟨rfl, rfl⟩
      | cons c front =>
        -- a character takes at least one byte
        have size := c.utf8Size_pos
        rw [length_bytes_cons] at nothing
        omega
  | case2 n =>
    refine iff_of_false (by simp) ?_
    rintro ⟨same, length⟩
    obtain ⟨rfl, -⟩ := List.append_eq_nil_iff.mp same.symm
    exact absurd length (by simp)
  | case3 n c text fits ih =>
    rw [Option.map_eq_some_iff]
    constructor
    · rintro ⟨⟨front', back'⟩, cut, same⟩
      obtain ⟨rfl, rfl⟩ := Prod.mk.inj same
      obtain ⟨rfl, length⟩ := ih.mp cut
      refine ⟨rfl, ?_⟩
      rw [length_bytes_cons]
      omega
    · rintro ⟨same, length⟩
      cases front with
      | nil => exact absurd length (by simp)
      | cons d front =>
        obtain ⟨rfl, rfl⟩ := List.cons.inj same
        rw [length_bytes_cons] at length
        exact ⟨(front, back), ih.mpr ⟨rfl, by omega⟩, rfl⟩
  | case4 n c text long =>
    refine iff_of_false (by simp) ?_
    rintro ⟨same, length⟩
    cases front with
    | nil => exact absurd length (by simp)
    | cons d front =>
      obtain ⟨rfl, -⟩ := List.cons.inj same
      rw [length_bytes_cons] at length
      omega

/-- The positions at which a text can be cut are the valid positions of the string. -/
theorem isSome_cutAtByte?_iff :
    (cutAtByte? n text).isSome = true ↔ String.Pos.Raw.IsValid (String.ofList text) ⟨n⟩ := by
  rw [Option.isSome_iff_exists, String.Pos.Raw.isValid_ofList]
  constructor
  · rintro ⟨⟨front, back⟩, cut⟩
    obtain ⟨rfl, length⟩ := cutAtByte?_eq_some_iff.mp cut
    refine ⟨front.length, ?_⟩
    rw [List.take_left, ← length_bytes]
    exact length.symm
  · rintro ⟨i, position⟩
    refine ⟨(text.take i, text.drop i), cutAtByte?_eq_some_iff.mpr ⟨?_, ?_⟩⟩
    · exact (List.take_append_drop i text).symm
    · rw [length_bytes]
      exact position.symm

/-! ### ASCII in front -/

/-- A character of ASCII is its own byte. -/
theorem encodeChar_of_ascii {c : Char} (ascii : c.toNat < 128) :
    String.utf8EncodeChar c = [UInt8.ofNat c.toNat] := by
  rw [Utf8.encodeChar_eq, if_pos (by omega)]

/-- Any other character begins with a byte that is not of ASCII. -/
theorem encodeChar_of_not_ascii {c : Char} (other : 128 ≤ c.toNat) :
    ∃ b more, String.utf8EncodeChar c = b :: more ∧ 128 ≤ b.toNat := by
  have scalar : c.toNat < 0xD800 ∨ 0xDFFF < c.toNat ∧ c.toNat < 0x110000 := c.valid
  rw [Utf8.encodeChar_eq, if_neg (by omega)]
  split
  · refine ⟨_, _, rfl, ?_⟩
    rw [UInt8.toNat_ofNat']
    omega
  · split
    · refine ⟨_, _, rfl, ?_⟩
      rw [UInt8.toNat_ofNat']
      omega
    · refine ⟨_, _, rfl, ?_⟩
      rw [UInt8.toNat_ofNat']
      omega

/-- **An ASCII byte in front is an ASCII character in front**, and the other bytes are those of the
text behind it. -/
theorem bytes_eq_cons_iff (ascii : b.toNat < 128) :
    bytes text = b :: more ↔ ∃ rest, text = Char.ofNat b.toNat :: rest ∧ bytes rest = more := by
  have whole : (Char.ofNat b.toNat).toNat = b.toNat := by
    have valid : b.toNat.isValidChar := .inl (by omega)
    rw [Char.ofNat, dif_pos valid]
    rfl
  have own : String.utf8EncodeChar (Char.ofNat b.toNat) = [b] := by
    rw [encodeChar_of_ascii (by rw [whole]; exact ascii), whole, UInt8.ofNat_toNat]
  constructor
  · intro same
    cases text with
    | nil => exact absurd same (by simp)
    | cons c rest =>
      rw [bytes_cons] at same
      by_cases plain : c.toNat < 128
      · rw [encodeChar_of_ascii plain] at same
        obtain ⟨rfl, rest'⟩ := List.cons.inj same
        have value : (UInt8.ofNat c.toNat).toNat = c.toNat := by
          rw [UInt8.toNat_ofNat']
          omega
        refine ⟨rest, ?_, rest'⟩
        rw [value, Char.ofNat_toNat]
      · -- the bytes of any other character are not of ASCII
        obtain ⟨b', more', begins, high⟩ := encodeChar_of_not_ascii (Nat.not_lt.mp plain)
        rw [begins] at same
        obtain ⟨rfl, -⟩ := List.cons.inj same
        omega
  · rintro ⟨rest, rfl, rfl⟩
    rw [bytes_cons, own]
    rfl

/-! ### Where characters begin -/

/-- The characters of a text with the positions at which they begin, from a position on. -/
def charIndices : Nat → List Char → List (Nat × Char)
  | _, [] => []
  | start, c :: text => (start, c) :: charIndices (start + c.utf8Size) text

/-- The character at a place begins behind the bytes of those before it. -/
theorem getElem?_charIndices (start i : Nat) (text : List Char) :
    (charIndices start text)[i]? =
      text[i]?.map fun c => (start + (bytes (text.take i)).length, c) := by
  induction text generalizing start i with
  | nil => rfl
  | cons c text ih =>
    cases i with
    | zero => rfl
    | succ i =>
      rw [charIndices, List.getElem?_cons_succ, ih, List.getElem?_cons_succ, List.take_succ_cons,
        length_bytes_cons, Nat.add_assoc]

/-- A text is cut where a character begins. -/
theorem cutAtByte?_of_charIndices {i position : Nat} {c : Char}
    (found : (charIndices 0 text)[i]? = some (position, c)) :
    cutAtByte? position text = some (text.take i, text.drop i) := by
  rw [getElem?_charIndices, Option.map_eq_some_iff] at found
  obtain ⟨d, -, same⟩ := found
  obtain ⟨length, -⟩ := Prod.mk.inj same
  refine cutAtByte?_eq_some_iff.mpr ⟨(List.take_append_drop i text).symm, ?_⟩
  rw [← length, Nat.zero_add]

end SmtpLink.Text
