import SmtpLink.Error
import SmtpLink.Text.Blank

/-!
# Reply lines and blocks

A reply arrives as a *block* of lines. Every line begins with the three digits of the code; a
hyphen after them says that more lines follow, and a space or the end of the line that the
block is complete.

## Main definitions

* `LineKind`, `classify` — the place of a line in its block.
* `Reply.ofLines` — the reply that a block of lines stands for.
-/

namespace SmtpLink

/-- The place of a line in its block. -/
inductive LineKind
  /-- More lines of the block follow. -/
  | continuation
  /-- The block is complete. -/
  | final
deriving DecidableEq, Repr

/-- The code at the start of a line and what follows it, if the line starts with three
digits. -/
def splitCode? : List Char → Option (List Char × List Char)
  | a :: b :: c :: rest =>
    if [a, b, c].all Text.isDigit then some ([a, b, c], rest) else none
  | _ => none

/-- The kind of line that a mark after the code makes. -/
def LineKind.ofMark? : Option Char → Option LineKind
  | none => some .final
  | some ' ' => some .final
  | some '-' => some .continuation
  | some _ => none

/-- A line taken apart: its code, its kind and its text, if it is well formed. -/
def parseLine? (line : List Char) : Option (List Char × LineKind × List Char) :=
  match splitCode? line with
  | none => none
  | some (code, rest) => (LineKind.ofMark? rest.head?).map fun kind => (code, kind, rest.tail)

/-- The place of a line (without its line end) in its block. -/
def classify (line : String) : Except Error LineKind :=
  match parseLine? line.toList with
  | some (_, kind, _) => .ok kind
  | none => .error (.protocol (.malformedLine line))

namespace Reply

/-- The message texts of lines that all carry the code `code`. The first line that is malformed
or carries another code is the error. -/
def messageOf (code : List Char) : List String → Except Error (List String)
  | [] => .ok []
  | line :: rest =>
    match parseLine? line.toList with
    | none => .error (.protocol (.malformedLine line))
    | some (own, _, text) =>
      if own = code then
        (messageOf code rest).map (String.ofList text :: ·)
      else .error (.protocol (.codeChanged line))

/-- The reply that a block of lines stands for. All lines must carry the code of the first. -/
def ofLines : List String → Except Error Reply
  | [] => .error (.protocol .emptyReply)
  | first :: rest =>
    match parseLine? first.toList with
    | none => .error (.protocol (.malformedLine first))
    | some (code, _, _) =>
      (messageOf code (first :: rest)).map fun message =>
        { code := ⟨UInt16.ofNat (Text.digitsValue code)⟩, message }

end Reply

end SmtpLink
