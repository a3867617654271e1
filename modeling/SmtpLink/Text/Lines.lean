import SmtpLink.Text.Blank

/-!
# Lines of a text

A text is a sequence of lines, each ended by a line feed that may follow a carriage return.
The last line may lack its end.

## Main definitions

* `dropReturn` — a line without one carriage return at its end.
* `lines` — the lines of a text without their ends. A line feed at the very end of the text
  ends the last line and does not begin an empty one.
-/

namespace SmtpLink.Text

/-- Drops one carriage return from the end of a line. -/
def dropReturn (line : List Char) : List Char :=
  if line.getLast? == some '\r' then line.dropLast else line

/-- The lines of a text. An ended line loses its line feed and one carriage return before it;
an unended last line is kept as it is, and dropped if it is empty. -/
def lines (text : List Char) : List (List Char) :=
  let found := pieces (· == '\n') text
  let last := found.getLast?.getD []
  found.dropLast.map dropReturn ++ if last.isEmpty then [] else [last]

end SmtpLink.Text
