/-!
# Redaction of commands

Commands go into the log without their secrets and at a bounded length.

## Main definitions

* `redact` — the loggable form of a command.
-/

namespace SmtpLink

/-- The longest command, in characters, that is logged in full. -/
def maxLoggedLength : Nat := 1000

/-- Replaces the characters from position `start` on by asterisks. -/
def maskFrom (start : Nat) (text : List Char) : List Char :=
  text.take start ++ List.replicate (text.length - start) '*'

/-- Keeps the first `maxLoggedLength` characters, and marks the loss of others by three dots. -/
def shorten (text : List Char) : List Char :=
  if maxLoggedLength < text.length then text.take maxLoggedLength ++ "...".toList else text

/-- The loggable form of a command: characters from `start` on, if given, are masked, and then
the text is shortened. Positions count characters. -/
def redact (text : String) (start : Option Nat) : String :=
  let masked := match start with
    | some n => maskFrom n text.toList
    | none => text.toList
  String.ofList (shorten masked)

end SmtpLink
