/-!
# Blanks, trimming and words

Texts are cut at *blanks*, the characters with the Unicode property `White_Space`.
Everything here works on lists of characters; callers convert at their edge.

## Main definitions

* `isBlank` — the 25 characters of the property.
* `trim` — a text without the blanks at its two ends.
* `pieces p` — a text cut at every character that satisfies `p`.
* `words` — the maximal runs of characters that are not blank.
-/

namespace SmtpLink.Text

/-- The characters with the Unicode property `White_Space`. -/
def isBlank (c : Char) : Bool :=
  let n := c.toNat
  (0x9 ≤ n && n ≤ 0xD) || n == 0x20 || n == 0x85 || n == 0xA0 || n == 0x1680
    || (0x2000 ≤ n && n ≤ 0x200A) || n == 0x2028 || n == 0x2029 || n == 0x202F
    || n == 0x205F || n == 0x3000

/-- Drops the characters satisfying `p` from the end of a text. -/
def dropEndWhile (p : Char → Bool) (text : List Char) : List Char :=
  (text.reverse.dropWhile p).reverse

/-- Drops the blanks at both ends of a text. -/
def trim (text : List Char) : List Char :=
  dropEndWhile isBlank (text.dropWhile isBlank)

/-- Puts a character in front of the first piece. -/
def growFirst (c : Char) : List (List Char) → List (List Char)
  | [] => [[c]]
  | piece :: more => (c :: piece) :: more

/-- Cuts a text at every character satisfying `p`. The cutting characters are dropped, and
there is always at least one piece. -/
def pieces (p : Char → Bool) (text : List Char) : List (List Char) :=
  text.foldr (fun c found => if p c then [] :: found else growFirst c found) [[]]

@[simp] theorem pieces_nil (p : Char → Bool) : pieces p [] = [[]] := rfl

@[simp] theorem pieces_cons (p : Char → Bool) (c : Char) (text : List Char) :
    pieces p (c :: text) =
      if p c then [] :: pieces p text else growFirst c (pieces p text) := rfl

/-- The words of a text: its non-empty pieces between blanks. -/
def words (text : List Char) : List (List Char) :=
  (pieces isBlank text).filter fun piece => !piece.isEmpty

/-- The part before the first `mark` and, if there is one, the part after it. -/
def cutAt (mark : Char) (text : List Char) : List Char × Option (List Char) :=
  match text.dropWhile (· != mark) with
  | [] => (text, none)
  | _ :: rest => (text.takeWhile (· != mark), some rest)

/-- Raises the ASCII letters of a text to upper case and leaves every other character. -/
def asciiUpper (text : List Char) : List Char :=
  text.map Char.toUpper

/-- The decimal digits `0` to `9`. -/
def isDigit (c : Char) : Bool := '0' ≤ c && c ≤ '9'

/-- The value of a decimal digit. -/
def digitValue (c : Char) : Nat := c.toNat - '0'.toNat

/-- The value of a run of decimal digits, read in base ten. -/
def digitsValue (digits : List Char) : Nat :=
  digits.foldl (fun value c => 10 * value + digitValue c) 0

/-- Reads a numeral: decimal digits with an optional leading `+`, with a value below
`bound`. -/
def numeral? (bound : Nat) (text : List Char) : Option Nat :=
  let digits := if text.head? == some '+' then text.tail else text
  if digits.isEmpty || !digits.all isDigit then none
  else if digitsValue digits < bound then some (digitsValue digits) else none

end SmtpLink.Text
