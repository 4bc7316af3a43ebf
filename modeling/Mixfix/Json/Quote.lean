import Mixfix.Text

/-!
# JSON strings

A text as a JSON string. Quotation marks, backslashes and control characters are escaped, and in
ASCII mode so is everything beyond the printable ASCII characters. There a code point beyond the
basic plane is written as a pair of surrogates.
-/

set_option autoImplicit false

namespace Mixfix.Json

/-- An escape with four hexadecimal digits. -/
def unitEscape (n : Nat) : Text :=
  txt "\\u" ++ Text.hex false 4 n

/-- A code point as it stands in a JSON string. -/
def quotedPoint (ascii : Bool) (c : CodePoint) : Text :=
  if c = '"' then txt "\\\""
  else if c = '\\' then txt "\\\\"
  else if c = '\n' then txt "\\n"
  else if c = '\r' then txt "\\r"
  else if c = '\t' then txt "\\t"
  else if c.val = 0x0C then txt "\\f"
  else if c.val = 0x08 then txt "\\b"
  else if c.val < 0x20 then unitEscape c.val
  else if !ascii || c.val < 0x7F then [c]
  else if c.val < 0x10000 then unitEscape c.val
  else
    let n := c.val - 0x10000
    unitEscape (0xD800 + n / 0x400) ++ unitEscape (0xDC00 + n % 0x400)

/-- A text as a JSON string. -/
def quote (ascii : Bool) (s : Text) : Text :=
  txt "\"" ++ s.flatMap (quotedPoint ascii) ++ txt "\""

end Mixfix.Json
