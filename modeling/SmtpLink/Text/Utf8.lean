/-!
# UTF-8

Bytes on the wire are read as UTF-8. Reading never fails: each maximal part of the input that
is not the start of any well-formed sequence becomes one replacement character.

## Main definitions

* `Bytes` — a byte string.
* `Utf8.encode` — the bytes of a text.
* `Utf8.Unfinished`, `Utf8.step` — the decoder as an automaton that takes one byte at a time.
* `Utf8.decode` — the text of a byte string.
-/

namespace SmtpLink

/-- A byte string. -/
abbrev Bytes := List UInt8

namespace Utf8

/-- The UTF-8 encoding of a text. -/
def encode (text : String) : Bytes :=
  text.toList.flatMap String.utf8EncodeChar

/-- Stands for bytes that are not UTF-8. -/
def replacement : Char := '\uFFFD'

/-- A sequence whose last byte has not come yet. -/
structure Unfinished where
  /-- How many bytes are missing after the next one. -/
  later : Nat
  /-- The bits read so far. -/
  bits : Nat
  /-- The least value the next byte may have. -/
  low : UInt8 := 0x80
  /-- The greatest value the next byte may have. -/
  high : UInt8 := 0xBF

/-- The sequence of two or more bytes that a byte starts. The narrower ranges for the second
byte exclude overlong forms, surrogates and values above `10FFFF`. -/
def start? (b : UInt8) : Option Unfinished :=
  if 0xC2 ≤ b ∧ b ≤ 0xDF then some { later := 0, bits := b.toNat - 0xC0 }
  else if b = 0xE0 then some { later := 1, bits := 0, low := 0xA0 }
  else if b = 0xED then some { later := 1, bits := 0xD, high := 0x9F }
  else if 0xE1 ≤ b ∧ b ≤ 0xEF then some { later := 1, bits := b.toNat - 0xE0 }
  else if b = 0xF0 then some { later := 2, bits := 0, low := 0x90 }
  else if b = 0xF4 then some { later := 2, bits := 4, high := 0x8F }
  else if 0xF1 ≤ b ∧ b ≤ 0xF3 then some { later := 2, bits := b.toNat - 0xF0 }
  else none

/-- The decoder's state: the unfinished sequence, and the characters read, last one first. -/
abbrev Decoder := Option Unfinished × List Char

/-- Takes a byte that continues no sequence. -/
def begin (out : List Char) (b : UInt8) : Decoder :=
  if b < 0x80 then (none, Char.ofNat b.toNat :: out)
  else match start? b with
    | some p => (some p, out)
    | none => (none, replacement :: out)

/-- Takes one byte. A byte that an unfinished sequence does not admit ends that sequence with a
replacement character and is read afresh. -/
def step (d : Decoder) (b : UInt8) : Decoder :=
  match d with
  | (none, out) => begin out b
  | (some p, out) =>
    if p.low ≤ b ∧ b ≤ p.high then
      let bits := 64 * p.bits + (b.toNat - 0x80)
      if p.later = 0 then (none, Char.ofNat bits :: out)
      else (some { later := p.later - 1, bits := bits }, out)
    else begin (replacement :: out) b

/-- Ends the input: a sequence that is still unfinished becomes a replacement character. -/
def finish : Decoder → List Char
  | (none, out) => out.reverse
  | (some _, out) => (replacement :: out).reverse

/-- The characters of a byte string. -/
def decodeChars (bytes : Bytes) : List Char :=
  finish (bytes.foldl step (none, []))

theorem foldl_step_ascii (bytes : Bytes) (out : List Char) (h : ∀ b ∈ bytes, b < 0x80) :
    bytes.foldl step (none, out) =
      (none, (bytes.map fun b => Char.ofNat b.toNat).reverse ++ out) := by
  induction bytes generalizing out with
  | nil => rfl
  | cons b rest ih =>
    have hb : b < 0x80 := h b List.mem_cons_self
    simp [step, begin, hb, ih _ fun c hc => h c (List.mem_cons_of_mem b hc)]

/-- The text of a byte string. -/
def decode (bytes : Bytes) : String :=
  String.ofList (decodeChars bytes)

end Utf8

end SmtpLink
