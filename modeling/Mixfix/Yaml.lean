import Mixfix.Value

/-!
# YAML

Plain data is written and read as YAML by a library of the host.

What does not depend on the library is which code points a document can hold as they are, and which
texts can stand between apostrophes. Between them nothing can be escaped, so a text that is not
printable stands between quotation marks, and so does one with a space next to a line break, where
spaces are left out.
-/

set_option autoImplicit false

namespace Mixfix.Yaml

/-! ## Writing and reading -/

/-- Why a value is not written. -/
inductive WriteError
  /-- The undefined value or a node. -/
  | notData
  /-- An integer has more digits than are converted. -/
  | tooManyDigits

/-- Why a text is not read. -/
inductive ReadError
  | malformed
  /-- An integer has more digits than are converted. -/
  | tooManyDigits
  /-- A scalar is not what it should be, or an escape names no code point. -/
  | unreadable (reason : Text)
  /-- The number of an escape is beyond all bounds. -/
  | tooLarge
  /-- A scalar that should be a number is empty. -/
  | noNumber
  /-- A scalar that should be a truth value is none. -/
  | noTruthValue
  /-- A scalar that should be a date is none. -/
  | noDate
  /-- A node is a date, a set or made of bytes, which is not plain data. -/
  | notData

/-- What writes and reads YAML. -/
class Codec where
  /-- The document of a map. -/
  dump : Fields → Except WriteError Text
  /-- The value of a text that holds one document. -/
  load : Text → Except ReadError Value

/-! ## What a text allows -/

/-- A line break. -/
def isBreak (c : CodePoint) : Bool :=
  c == '\n' || c.val == 0x85 || c.val == 0x2028 || c.val == 0x2029

/-- A space. -/
def isSpace (c : CodePoint) : Bool :=
  c == ' '

/-- What can be written without an escape. -/
def isPlainPoint (c : CodePoint) : Bool :=
  let n := c.val
  n == 0x0A || (0x20 ≤ n && n ≤ 0x7E) || n == 0x85 ||
    ((0xA0 ≤ n && n < 0x10FFFF) && !(0xD800 ≤ n && n ≤ 0xDFFF) && n != 0xFEFF &&
      !(0xFFFE ≤ n && n ≤ 0xFFFF))

/-- Whether a code point with one property stands right before one with another. -/
def meetsNext (p q : CodePoint → Bool) (s : Text) : Bool :=
  (s.zip (s.drop 1)).any fun (a, b) => p a && q b

/-- The column after which lines are folded. -/
def lineWidth : Nat := 80

/-- Whether a text can be written between apostrophes. -/
def apostrophesAllowed (s : Text) : Bool :=
  s.all isPlainPoint && !meetsNext isBreak isSpace s && !meetsNext isSpace isBreak s

end Mixfix.Yaml
