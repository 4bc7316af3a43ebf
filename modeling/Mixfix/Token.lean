import Mixfix.Value
import Mixfix.Decimal
import Mixfix.Binary64
import Mixfix.Text.Escape
import Mixfix.Value.Arithmetic

/-!
# Scanners

A scanner skips blanks and reads one token from the front of a text. A text that does not begin with
such a token is no match. The only failure is an integer of more digits than are converted.

- A number is an optional minus sign, digits, and a point with digits after it. A point that no
  digit follows is consumed, but it is no part of the number.
- A string stands between two occurrences of one quotation mark. A backslash hides the code point
  after it, so that this cannot begin the closing mark.
- An identifier is a letter, `_` or `$`, and then any number of these and of digits.
- A constant is an exact text.
- A keyword is an exact text that no further code point of an identifier follows.
-/

set_option autoImplicit false

namespace Mixfix

open Decimal (TooManyDigits)

/-- The scanner that a token comes from. -/
inductive TokenKind
  | number
  | string
  | identifier
  | const
  | keyword

/-- A token: its source text without quotation marks, its value, and the text after it. -/
structure Token where
  kind : TokenKind
  raw : Text
  value : Value
  rest : Text

/-- A word with a value of its own. -/
inductive Keyword
  | null
  | true
  | false
  | undefined

namespace Keyword

/-- The spelling of a keyword. -/
def text : Keyword → Text
  | .null => txt "null"
  | .true => txt "true"
  | .false => txt "false"
  | .undefined => txt "undefined"

/-- The value that a keyword stands for. -/
def value : Keyword → Value
  | .null => .null
  | .true => .bool Bool.true
  | .false => .bool Bool.false
  | .undefined => .undefined

/-- The keyword of a spelling. -/
def ofText? (s : Text) : Option Keyword :=
  [Keyword.null, .true, .false, .undefined].find? fun k => k.text == s

end Keyword

/-- A code point that an identifier may begin with. -/
def CodePoint.startsIdentifier (c : CodePoint) : Bool :=
  c.isLetter || c == '_' || c == '$'

/-- A code point that an identifier may go on with. -/
def CodePoint.continuesIdentifier (c : CodePoint) : Bool :=
  c.startsIdentifier || c.isDigit

namespace Scan

/-- The point and the digits after it at the front of a text, and the text after them. -/
def fraction? : Text → Option (Text × Text)
  | p :: d :: rest =>
    if p = '.' && d.isDigit then
      let (digits, rest) := Text.takeRun CodePoint.isDigit (d :: rest)
      some (p :: digits, rest)
    else none
  | _ => none

/-- The text after a point at its front that no digit follows, or else the text itself. -/
def swallowPoint (s : Text) : Text :=
  if (fraction? s).isSome then s
  else
    match s with
    | [] => []
    | c :: rest => if c = '.' then rest else c :: rest

/-- The digits of a number without its sign, whether they have a fraction, and the text after the
number. -/
def unsignedNumber? (s : Text) : Option (Text × Bool × Text) :=
  match Text.takeRun CodePoint.isDigit s with
  | ([], _) => none
  | (whole, rest) =>
    match fraction? rest with
    | some (digits, rest) => some (whole ++ digits, true, swallowPoint rest)
    | none => some (whole, false, swallowPoint rest)

/-- The sign, the digits and the fraction of a number, and the text after the number. -/
def signedNumber? (s : Text) : Option (Text × Bool × Text) :=
  match s with
  | [] => none
  | c :: rest =>
    if c = '-' then
      (unsignedNumber? rest).map fun (raw, fractional, rest) => (c :: raw, fractional, rest)
    else unsignedNumber? (c :: rest)

/-- The value of a decimal notation: a double if it has a point, else an integer. -/
def numberValue (raw : Text) (fractional : Bool) : Except TooManyDigits Value :=
  if fractional then .ok (.float (Binary64.readDecimal raw))
  else (Decimal.readInt raw).map Value.int

/-- Reads a number. -/
def number (s : Text) : Except TooManyDigits (Option Token) :=
  match signedNumber? s.trimStart with
  | none => .ok none
  | some (raw, fractional, rest) => do
    let value ← numberValue raw fractional
    return some { kind := .number, raw, value, rest }

/-- The text before the first occurrence of a quotation mark that no backslash hides, and the text
after it. -/
def splitAtMark? (mark : Text) : Text → Option (Text × Text)
  | [] => none
  | c :: rest =>
    if c = '\\' then
      match rest with
      | [] => none
      | e :: rest => (splitAtMark? mark rest).map fun (raw, after) => (c :: e :: raw, after)
    else
      match Text.after? mark (c :: rest) with
      | some after => some ([], after)
      | none => (splitAtMark? mark rest).map fun (raw, after) => (c :: raw, after)

/-- The first of some quotation marks that a text begins with, and the text after it. -/
def openingMark? (marks : List Text) (s : Text) : Option (Text × Text) :=
  marks.findSome? fun mark =>
    if mark.isEmpty then none else (Text.after? mark s).map fun rest => (mark, rest)

/-- Reads a string between two of the quotation marks. -/
def string (marks : List Text) (s : Text) : Option Token := do
  let (mark, rest) ← openingMark? marks s.trimStart
  let (raw, rest) ← splitAtMark? mark rest
  return { kind := .string, raw, value := .str raw.decodeEscapes, rest }

/-- Reads an identifier. -/
def identifier (s : Text) : Option Token :=
  match s.trimStart with
  | [] => none
  | c :: rest =>
    if c.startsIdentifier then
      let (name, rest) := Text.takeRun CodePoint.continuesIdentifier (c :: rest)
      some { kind := .identifier, raw := name, value := .str name, rest }
    else none

/-- Reads an exact text. -/
def const (value : Text) (s : Text) : Option Token :=
  (Text.after? value s.trimStart).map fun rest =>
    { kind := .const, raw := value, value := .str value, rest }

/-- The text after a word at the front, unless the word goes on. -/
def afterWord? (word : Text) (s : Text) : Option Text :=
  match Text.after? word s.trimStart with
  | none => none
  | some [] => some []
  | some (c :: rest) => if c.continuesIdentifier then none else some (c :: rest)

/-- Reads a keyword. -/
def keyword (k : Keyword) (s : Text) : Option Token :=
  (afterWord? k.text s).map fun rest => { kind := .keyword, raw := k.text, value := k.value, rest }

/-- Reads a word as a keyword. A word that is there but is no keyword has no value. -/
def keywordNamed (word : Text) (s : Text) : Except OperationError (Option Token) :=
  match afterWord? word s with
  | none => .ok none
  | some rest =>
    match Keyword.ofText? word with
    | some k => .ok (some { kind := .keyword, raw := word, value := k.value, rest })
    | none => .error .missingName

end Scan

end Mixfix
