import SmtpLink.Text.Hidden

/-!
# Texts as literals

A text inside a description is written as a literal: between double quotes, with escapes for
what could not be seen or would end the literal.

## Main definitions

* `Text.escape` — a character as it stands in a literal.
* `Text.literal` — a text as a literal.
-/

namespace SmtpLink.Text

/-- The digits of a code point in base sixteen, in lower case. -/
def hexDigits (n : Nat) : List Char := Nat.toDigits 16 n

/-- A character by its code point. -/
def escapeCode (c : Char) : List Char :=
  ['\\', 'u', '\x7b'] ++ hexDigits c.toNat ++ ['\x7d']

/-- A character as it stands in a literal. Characters that are not seen on their own stand by
their code point. -/
def escape (c : Char) : List Char :=
  match c with
  | '\t' => ['\\', 't']
  | '\r' => ['\\', 'r']
  | '\n' => ['\\', 'n']
  | '\x00' => ['\\', '0']
  | '"' => ['\\', '"']
  | '\\' => ['\\', '\\']
  | _ => if isHidden c then escapeCode c else [c]

/-- A text as a literal. -/
def literal (text : String) : String :=
  String.ofList (['"'] ++ text.toList.flatMap escape ++ ['"'])

end SmtpLink.Text
