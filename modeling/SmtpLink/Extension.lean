import SmtpLink.Text.Blank

/-!
# Service extensions

A server announces what it can do beyond the basic protocol, one extension a line.

## Main definitions

* `AuthMechanism` — the ways to authenticate that are known by name.
* `Extension` — an announced extension.
* `Extension.parse` — the extension that a line announces.
* `Extension.text` — the extension as one line.
-/

namespace SmtpLink

/-- A way to authenticate. -/
inductive AuthMechanism
  | plain
  | login
  | cramMd5
  | xoauth2
  | oauthBearer
deriving DecidableEq, Repr

namespace AuthMechanism

/-- All ways to authenticate, in their usual order. -/
def all : List AuthMechanism := [.plain, .login, .cramMd5, .xoauth2, .oauthBearer]

/-- The name that a server announces. -/
def name : AuthMechanism → String
  | .plain => "PLAIN"
  | .login => "LOGIN"
  | .cramMd5 => "CRAM-MD5"
  | .xoauth2 => "XOAUTH2"
  | .oauthBearer => "OAUTHBEARER"

/-- The mechanism with a name, in any ASCII case. -/
def ofChars? (text : List Char) : Option AuthMechanism :=
  all.find? fun m => m.name.toList == Text.asciiUpper text

/-- The mechanism with a name, in any ASCII case. -/
def ofName? (text : String) : Option AuthMechanism := ofChars? text.toList

end AuthMechanism

/-- An extension that a server announces. -/
inductive Extension
  | startTls
  /-- Authentication, with the known mechanisms in the order announced. -/
  | auth (mechanisms : List AuthMechanism)
  /-- A limit on the size of a message, if the announcement gives one. -/
  | size (limit : Option Nat)
  | eightBitMime
  | pipelining
  | enhancedStatusCodes
  | smtpUtf8
  | dsn
  /-- Any other line, without blanks at its ends. -/
  | unknown (line : String)
deriving DecidableEq, Repr

namespace Extension

/-- Sizes are 64-bit words: a numeral from this value on is no size. -/
def sizeBound : Nat := Nat.pow 2 64

/-- The extension for a keyword in upper case, the argument after its equals sign, if there is
one, and the words after it; none if the keyword is not known. -/
def ofKeyword? (keyword : List Char) (argument : Option (List Char))
    (rest : List (List Char)) : Option Extension :=
  match String.ofList keyword with
  | "STARTTLS" => some .startTls
  | "AUTH" => some (.auth ((argument.toList ++ rest).filterMap AuthMechanism.ofChars?))
  | "SIZE" => some (.size ((argument <|> rest.head?).bind (Text.numeral? sizeBound)))
  | "8BITMIME" => some .eightBitMime
  | "PIPELINING" => some .pipelining
  | "ENHANCEDSTATUSCODES" => some .enhancedStatusCodes
  | "SMTPUTF8" => some .smtpUtf8
  | "DSN" => some .dsn
  | _ => none

/-- The extension that a line announces. Its keyword is the first word up to the first equals
sign, in any ASCII case; older servers put an equals sign between keyword and argument. -/
def parse (line : String) : Extension :=
  let text := Text.trim line.toList
  let known := match Text.words text with
    | [] => none
    | first :: rest =>
      let (keyword, argument) := Text.cutAt '=' first
      ofKeyword? (Text.asciiUpper keyword) argument rest
  known.getD (.unknown (String.ofList text))

/-- The extension as one line: its keyword and its arguments. -/
def text : Extension → String
  | .startTls => "STARTTLS"
  | .auth mechanisms => mechanisms.foldl (fun line m => line ++ " " ++ m.name) "AUTH"
  | .size none => "SIZE"
  | .size (some limit) => "SIZE " ++ toString limit
  | .eightBitMime => "8BITMIME"
  | .pipelining => "PIPELINING"
  | .enhancedStatusCodes => "ENHANCEDSTATUSCODES"
  | .smtpUtf8 => "SMTPUTF8"
  | .dsn => "DSN"
  | .unknown line => "UNKNOWN " ++ line

end Extension

end SmtpLink
