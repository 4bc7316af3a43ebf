/-!
# Text

A text is a list of Unicode code points. Surrogates are code points like any other, so a text can
hold what an escape such as `\ud800` decodes to, and every offset, length and column of this library
counts code points. Texts are ordered as lists of code points are, by their first difference.

Blank code points are those of the Unicode property `White_Space` together with the four
information separators `U+001C` to `U+001F`.
-/

set_option autoImplicit false

namespace Mixfix

/-- A Unicode code point, surrogates included. -/
abbrev CodePoint := Fin 0x110000

namespace CodePoint

/-- A character is the code point of its scalar value. -/
def ofChar (c : Char) : CodePoint :=
  ⟨c.toNat, by
    have h : c.val.toNat.isValidChar := c.valid
    show c.val.toNat < 0x110000
    rcases h with h | h <;> omega⟩

instance : Coe Char CodePoint := ⟨ofChar⟩

/-- The code point `n`, or the last one where `n` is no code point. -/
def ofNat (n : Nat) : CodePoint :=
  if h : n < 0x110000 then ⟨n, h⟩ else ⟨0x10FFFF, by decide⟩

/-- Whether a code point lies between two characters, ends included. -/
def between (low high : Char) (c : CodePoint) : Bool :=
  low.toNat ≤ c.val && c.val ≤ high.toNat

/-- An ASCII digit. -/
def isDigit (c : CodePoint) : Bool :=
  c.between '0' '9'

/-- A letter of the English alphabet, of either case. -/
def isLetter (c : CodePoint) : Bool :=
  c.between 'A' 'Z' || c.between 'a' 'z'

/-- An ASCII hexadecimal digit. -/
def isHexDigit (c : CodePoint) : Bool :=
  c.isDigit || c.between 'A' 'F' || c.between 'a' 'f'

/-- The value of a hexadecimal digit, zero for any other code point. -/
def hexValue (c : CodePoint) : Nat :=
  if c.isDigit then c.val - '0'.toNat
  else if c.between 'A' 'F' then c.val - 'A'.toNat + 10
  else if c.between 'a' 'f' then c.val - 'a'.toNat + 10
  else 0

/-- The hexadecimal digit of a value below sixteen, in lower or in upper case. -/
def ofHexValue (upper : Bool) (n : Nat) : CodePoint :=
  if n < 10 then ofNat (n + '0'.toNat)
  else if upper then ofNat (n - 10 + 'A'.toNat)
  else ofNat (n - 10 + 'a'.toNat)

/-- A letter of the English alphabet in lower case. -/
def toLower (c : CodePoint) : CodePoint :=
  if c.between 'A' 'Z' then ofNat (c.val + 32) else c

/-- A letter of the English alphabet in upper case. -/
def toUpper (c : CodePoint) : CodePoint :=
  if c.between 'a' 'z' then ofNat (c.val - 32) else c

/-- Half of a surrogate pair. -/
def isSurrogate (c : CodePoint) : Bool :=
  0xD800 ≤ c.val && c.val ≤ 0xDFFF

/-- White space: the separators, the tab, the line breaks, the information separators. -/
def isBlank (c : CodePoint) : Bool :=
  let n := c.val
  (0x09 ≤ n && n ≤ 0x0D) || (0x1C ≤ n && n ≤ 0x20) || n == 0x85 || n == 0xA0 || n == 0x1680 ||
    (0x2000 ≤ n && n ≤ 0x200A) || n == 0x2028 || n == 0x2029 || n == 0x202F || n == 0x205F ||
    n == 0x3000

end CodePoint

/-- A sequence of code points. -/
abbrev Text := List CodePoint

namespace Text

/-- The code points of a string. -/
def ofString (s : String) : Text :=
  s.toList.map CodePoint.ofChar

instance : Coe String Text := ⟨ofString⟩

/-- A string for display: each surrogate is shown as the replacement character. -/
def display (s : Text) : String :=
  String.ofList (s.map fun c => if c.isSurrogate then '\uFFFD' else Char.ofNat c.val)

/-- The text after its leading blanks. -/
def trimStart (s : Text) : Text :=
  s.dropWhile CodePoint.isBlank

/-- The text up to its trailing blanks. -/
def trimEnd (s : Text) : Text :=
  (s.reverse.dropWhile CodePoint.isBlank).reverse

/-- The text between its leading and its trailing blanks. -/
def trim (s : Text) : Text :=
  trimEnd (trimStart s)

/-- Whether a text is empty or blank throughout. -/
def isBlank (s : Text) : Bool :=
  s.all CodePoint.isBlank

/-- What follows `start` in a text that begins with it. -/
def after? (start : Text) (s : Text) : Option Text :=
  match start, s with
  | [], rest => some rest
  | _ :: _, [] => none
  | a :: start, b :: rest => if a = b then after? start rest else none

/-- The longest run of code points with a property at the front, and the text after it. -/
def takeRun (p : CodePoint → Bool) (s : Text) : Text × Text :=
  (s.takeWhile p, s.dropWhile p)

/-- The text before the first occurrence of a code point and the text after it, where there is
one. -/
def splitFirst? (c : CodePoint) : Text → Option (Text × Text)
  | [] => none
  | d :: rest =>
    if d = c then some ([], rest)
    else match splitFirst? c rest with
      | some (before, after) => some (d :: before, after)
      | none => none

/-- The parts of a text between the occurrences of a code point. -/
def splitOn (c : CodePoint) : Text → List Text
  | [] => [[]]
  | d :: rest =>
    if d = c then [] :: splitOn c rest
    else match splitOn c rest with
      | first :: parts => (d :: first) :: parts
      | [] => [[d]]

/-- Texts with a separator between them. -/
def join (separator : Text) : List Text → Text
  | [] => []
  | [s] => s
  | s :: t :: rest => s ++ separator ++ join separator (t :: rest)

/-- The last `width` hexadecimal digits of a number. -/
def hex (upper : Bool) : Nat → Nat → Text
  | 0, _ => []
  | width + 1, n => hex upper width (n / 16) ++ [CodePoint.ofHexValue upper (n % 16)]

/-- A number in hexadecimal digits, without zeros before it. -/
def shortHex (n : Nat) : Text :=
  (Nat.toDigits 16 n).map CodePoint.ofChar

/-- The number that hexadecimal digits write. -/
def ofHex (digits : Text) : Nat :=
  digits.foldl (fun n d => 16 * n + d.hexValue) 0

/-- Puts a text in its place in an ascending list without repetition. A text that is there already
is not added. -/
def insertSorted (s : Text) : List Text → List Text
  | [] => [s]
  | t :: rest =>
    if s < t then s :: t :: rest
    else if s = t then t :: rest
    else t :: insertSorted s rest

/-- The distinct texts of a list in ascending order. -/
def sortedSet (texts : List Text) : List Text :=
  texts.foldr insertSorted []

end Text

/-- The text of a string. -/
abbrev txt (s : String) : Text :=
  Text.ofString s

end Mixfix
