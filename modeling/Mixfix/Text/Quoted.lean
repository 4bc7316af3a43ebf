import Mixfix.Text.Printable

/-!
# Quoted text

The form in which messages show a text: between apostrophes, or between quotation marks where the
text holds an apostrophe and no quotation mark. The mark itself and the backslash are written after
a backslash, line breaks and tabs as `\n`, `\r` and `\t`, and every other code point that is not
printable by its number.
-/

set_option autoImplicit false

namespace Mixfix.Text

/-- The mark that a quoted text stands between. -/
def quotationMark (s : Text) : CodePoint :=
  if s.contains (CodePoint.ofChar '\'') && !s.contains (CodePoint.ofChar '"') then '"' else '\''

/-- A code point written by its number. -/
def numbered (c : CodePoint) : Text :=
  if c.val < 0x100 then txt "\\x" ++ hex false 2 c.val
  else if c.val < 0x10000 then txt "\\u" ++ hex false 4 c.val
  else txt "\\U" ++ hex false 8 c.val

/-- A code point as it stands in a quoted text. -/
def quotedPoint (mark c : CodePoint) : Text :=
  if c = mark || c = '\\' then ['\\', c]
  else if c = '\n' then txt "\\n"
  else if c = '\r' then txt "\\r"
  else if c = '\t' then txt "\\t"
  else if c.isPrintable then [c]
  else numbered c

/-- A text as messages show it. -/
def quoted (s : Text) : Text :=
  let mark := quotationMark s
  mark :: s.flatMap (quotedPoint mark) ++ [mark]

/-- A text with every code point beyond ASCII written by its number. -/
def asciiOnly (s : Text) : Text :=
  s.flatMap fun c => if c.val < 0x80 then [c] else numbered c

/-- A list of texts as messages show it. -/
def quotedList (texts : List Text) : Text :=
  txt "[" ++ join (txt ", ") (texts.map quoted) ++ txt "]"

end Mixfix.Text
