import Mixfix.Value
import Mixfix.Binary64

/-!
# Reading JSON

A JSON text as a value. A number without fraction and exponent is an integer, and `NaN`, `Infinity`
and `-Infinity` are read as well. Of two entries of one name the last wins. Two escapes that make a
surrogate pair are one code point.
-/

set_option autoImplicit false

namespace Mixfix.Json

/-- Why a text is not read. -/
inductive ReadError
  | malformed
  /-- An integer has more digits than are converted. -/
  | tooManyDigits

/-- What was read of a text, and the text after it. -/
abbrev Reading (α : Type) := α × Text

/-- White space of JSON. -/
def isSpace (c : CodePoint) : Bool :=
  c == ' ' || c == '\t' || c == '\n' || c == '\r'

/-- The text after its leading white space. -/
def skipSpace (s : Text) : Text :=
  s.dropWhile isSpace

/-- What the escape of one letter stands for. -/
def letterEscape? (c : CodePoint) : Option CodePoint :=
  if c = '"' || c = '\\' || c = '/' then some c
  else if c = 'b' then some (CodePoint.ofNat 0x08)
  else if c = 'f' then some (CodePoint.ofNat 0x0C)
  else if c = 'n' then some '\n'
  else if c = 'r' then some '\r'
  else if c = 't' then some '\t'
  else none

/-- The number that four hexadecimal digits write. -/
def unit? (digits : Text) : Option Nat :=
  if digits.length = 4 && digits.all CodePoint.isHexDigit then
    some (digits.foldl (fun n d => 16 * n + d.hexValue) 0)
  else none

/-- The second half of a surrogate pair after its first half: an escape at the front of a text. -/
def lowHalf? (s : Text) : Option Nat :=
  match s with
  | a :: b :: rest =>
    if a = '\\' && b = 'u' then
      (unit? (rest.take 4)).filter fun n => 0xDC00 ≤ n && n ≤ 0xDFFF
    else none
  | _ => none

/-- The rest of a string after its opening mark. The fuel is the length of the text. -/
def stringRest : Nat → Text → Except ReadError (Reading Text)
  | 0, _ => .error .malformed
  | _ + 1, [] => .error .malformed
  | fuel + 1, c :: rest =>
    if c = '"' then .ok ([], rest)
    else if c.val < 0x20 then .error .malformed
    else if c = '\\' then
      match rest with
      | [] => .error .malformed
      | e :: rest =>
        match letterEscape? e with
        | some d => (stringRest fuel rest).map fun (s, after) => (d :: s, after)
        | none =>
          match if e = 'u' then unit? (rest.take 4) else none with
          | none => .error .malformed
          | some high =>
            let rest := rest.drop 4
            match if 0xD800 ≤ high && high ≤ 0xDBFF then lowHalf? rest else none with
            | some low =>
              let point := CodePoint.ofNat (0x10000 + (high - 0xD800) * 0x400 + (low - 0xDC00))
              (stringRest fuel (rest.drop 6)).map fun (s, after) => (point :: s, after)
            | none =>
              (stringRest fuel rest).map fun (s, after) => (CodePoint.ofNat high :: s, after)
    else (stringRest fuel rest).map fun (s, after) => (c :: s, after)

/-- The digits of the whole part of a number: a lone zero, or digits that begin with another. -/
def wholeDigits? (s : Text) : Option (Text × Text) :=
  match s with
  | [] => none
  | c :: rest =>
    if c = '0' then some ([c], rest)
    else if c.isDigit then some (Text.takeRun CodePoint.isDigit s)
    else none

/-- The digits of a fraction, without its point. -/
def fractionDigits (s : Text) : Text × Text :=
  match s with
  | [] => ([], [])
  | c :: rest =>
    if c = '.' then
      match Text.takeRun CodePoint.isDigit rest with
      | ([], _) => ([], s)
      | run => run
    else ([], s)

/-- An exponent, if there is one. -/
def exponent (s : Text) : Option Int × Text :=
  match s with
  | [] => (none, [])
  | c :: rest =>
    if c = 'e' || c = 'E' then
      let sign := rest.head?
      let signed := sign == some (CodePoint.ofChar '-') || sign == some (CodePoint.ofChar '+')
      match Text.takeRun CodePoint.isDigit (if signed then rest.drop 1 else rest) with
      | ([], _) => (none, s)
      | (digits, after) =>
        let n : Int := Decimal.toNat digits
        (some (if sign == some (CodePoint.ofChar '-') then -n else n), after)
    else (none, s)

/-- A number without its sign. -/
def unsigned (negative : Bool) (s : Text) : Except ReadError (Reading Value) :=
  match wholeDigits? s with
  | none => .error .malformed
  | some (whole, rest) =>
    let (fraction, rest) := fractionDigits rest
    let (power, rest) := exponent rest
    if fraction.isEmpty && power.isNone then
      match Decimal.readInt whole with
      | .ok n => .ok (.int (if negative then -n else n), rest)
      | .error .tooManyDigits => .error .tooManyDigits
    else
      .ok (.float (Binary64.ofDecimal negative (Decimal.toNat (whole ++ fraction))
        (power.getD 0 - fraction.length)), rest)

/-- The words of JSON and what they stand for. -/
def words : List (Text × Value) :=
  [("null", .null), ("true", .bool true), ("false", .bool false),
    ("NaN", .nan .json), ("Infinity", .float (Binary64.infinity false)),
    ("-Infinity", .float (Binary64.infinity true))]

/-- A word or a number. -/
def scalar (s : Text) : Except ReadError (Reading Value) :=
  match words.findSome? fun (word, value) => (Text.after? word s).map fun rest => (value, rest) with
  | some reading => .ok reading
  | none =>
    match Text.after? (txt "-") s with
    | some rest => unsigned true rest
    | none => unsigned false s

mutual
/-- A value at the front of a text. Every call takes a code point or comes right before one that
does, so that twice the length of the text is enough fuel. -/
def readValue : Nat → Text → Except ReadError (Reading Value)
  | 0, _ => .error .malformed
  | _ + 1, [] => .error .malformed
  | fuel + 1, c :: rest =>
    if c = '"' then do
      let (s, rest) ← stringRest (rest.length + 1) rest
      return (.str s, rest)
    else if c = '[' then
      match skipSpace rest with
      | [] => .error .malformed
      | d :: after =>
        if d = ']' then .ok (.list [], after)
        else do
          let (items, rest) ← readItems fuel (d :: after)
          return (.list items, rest)
    else if c = '\x7b' then
      match skipSpace rest with
      | [] => .error .malformed
      | d :: after =>
        if d = '\x7d' then .ok (.map [], after)
        else do
          let (entries, rest) ← readEntries fuel (d :: after)
          return (.map (Entries.ofList entries), rest)
    else scalar (c :: rest)

/-- The items of a list up to its closing bracket. -/
def readItems : Nat → Text → Except ReadError (Reading (List Value))
  | 0, _ => .error .malformed
  | fuel + 1, s => do
    let (value, rest) ← readValue fuel s
    match skipSpace rest with
    | [] => throw .malformed
    | c :: rest =>
      if c = ']' then return ([value], rest)
      else if c = ',' then
        let (values, rest) ← readItems fuel (skipSpace rest)
        return (value :: values, rest)
      else throw .malformed

/-- The entries of an object up to its closing brace. -/
def readEntries : Nat → Text → Except ReadError (Reading (List (Text × Value)))
  | 0, _ => .error .malformed
  | _ + 1, [] => .error .malformed
  | fuel + 1, q :: s => do
    if q ≠ '"' then throw .malformed
    let (key, rest) ← stringRest (s.length + 1) s
    match skipSpace rest with
    | [] => throw .malformed
    | c :: rest =>
      if c ≠ ':' then throw .malformed
      let (value, rest) ← readValue fuel (skipSpace rest)
      match skipSpace rest with
      | [] => throw .malformed
      | d :: rest =>
        if d = '\x7d' then return ([(key, value)], rest)
        else if d = ',' then
          let (entries, rest) ← readEntries fuel (skipSpace rest)
          return ((key, value) :: entries, rest)
        else throw .malformed
end

/-- The value of a JSON text. -/
def read (s : Text) : Except ReadError Value := do
  let (value, rest) ← readValue (2 * s.length + 2) (skipSpace s)
  if (skipSpace rest).isEmpty then return value else throw .malformed

end Mixfix.Json
