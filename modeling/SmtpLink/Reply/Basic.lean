/-!
# Replies

A server answers a command with one *reply*: a three-digit code and the text of one or more
lines.

## Main definitions

* `ReplyCode` — the code, with its four classes.
* `Reply` — a code and the lines of the message.
* `Reply.wireLines` — the lines as they stand on the wire, without line ends.
* `Reply.render` — these lines joined by line feeds.
-/

namespace SmtpLink

/-- The code of a reply. -/
structure ReplyCode where
  /-- The number. -/
  value : UInt16
deriving DecidableEq, Repr

namespace ReplyCode

/-- The class of a code is its hundreds digit: the codes of class `k` are `k * 100` and the 99
numbers after it. -/
def isClass (k : Nat) (code : ReplyCode) : Bool :=
  k * 100 ≤ code.value.toNat && code.value.toNat < (k + 1) * 100

/-- The command was carried out. -/
def isSuccess (code : ReplyCode) : Bool := code.isClass 2

/-- The server waits for more. -/
def isIntermediate (code : ReplyCode) : Bool := code.isClass 3

/-- The command failed and may be tried again. -/
def isTransient (code : ReplyCode) : Bool := code.isClass 4

/-- The command failed for good. -/
def isPermanent (code : ReplyCode) : Bool := code.isClass 5

/-- A code is written as a plain decimal number. -/
def text (code : ReplyCode) : String := toString code.value.toNat

/-- The names of the codes that the connection layer looks at itself. -/
def names : List (ReplyCode × String) :=
  [(⟨220⟩, "SERVICE_READY"), (⟨221⟩, "CLOSING"), (⟨250⟩, "OK"), (⟨354⟩, "START_DATA"),
   (⟨421⟩, "SERVICE_UNAVAILABLE"), (⟨500⟩, "SYNTAX_ERROR"), (⟨550⟩, "MAILBOX_UNAVAILABLE")]

/-- The name of a code, if it has one. -/
def name? (code : ReplyCode) : Option String :=
  (names.find? fun entry => entry.1 == code).map Prod.snd

end ReplyCode

/-- One complete reply of a server. -/
structure Reply where
  /-- The code shared by all lines. -/
  code : ReplyCode
  /-- The text of each line, without the code and the mark after it. -/
  message : List String
deriving DecidableEq, Repr

namespace Reply

/-- The command was carried out. -/
def isSuccess (r : Reply) : Bool := r.code.isSuccess

/-- The server waits for more. -/
def isIntermediate (r : Reply) : Bool := r.code.isIntermediate

/-- The command failed and may be tried again. -/
def isTransient (r : Reply) : Bool := r.code.isTransient

/-- The command failed for good. -/
def isPermanent (r : Reply) : Bool := r.code.isPermanent

/-- The whole message, its lines joined by line feeds. -/
def messageText (r : Reply) : String := "\n".intercalate r.message

/-- The text of the first line, if there is a line. -/
def firstLine? (r : Reply) : Option String := r.message.head?

/-- Message lines behind a code: a hyphen follows the code on every line but the last, and a
space on the last. -/
def marked (code : String) : List String → List String
  | [] => []
  | [last] => [code ++ " " ++ last]
  | line :: next :: rest => (code ++ "-" ++ line) :: marked code (next :: rest)

/-- The lines of a reply as they stand on the wire, without line ends. A reply without any
message line is its bare code. -/
def wireLines (r : Reply) : List String :=
  if r.message.isEmpty then [r.code.text] else marked r.code.text r.message

/-- The lines of a reply as they stand on the wire, joined by line feeds. -/
def render (r : Reply) : String := "\n".intercalate r.wireLines

end Reply

end SmtpLink
