import Mixfix.Decimal

/-!
# Templates

A template is a text with places for a value. A place begins with a percent sign and ends with the
letter that says how the value is written there. Between them may stand, in this order, a name in
parentheses, flags, a width, a precision after a period, and a size, which says nothing. A percent
sign twice is one that stays.

The width and the precision are numbers, or an asterisk where the value itself is the number.
Reading a place does not fail: each part is there, or missing, or has a problem. So all that is wrong
with a template shows only when it is filled, and in the order of its parts.
-/

set_option autoImplicit false

namespace Mixfix.Template

/-- What is wrong with a place. -/
inductive Problem
  /-- The template ends within the place. -/
  | endless
  /-- The template ends within the name of the place. -/
  | endlessName
  | widthTooLarge
  | precisionTooLarge
  /-- A letter that says nothing, and where in the template it stands. -/
  | unknownLetter (c : CodePoint) (index : Nat)
  /-- A double that is no number is to be written as an integer. -/
  | notANumber

/-- The wording of a problem. -/
def Problem.message : Problem → Text
  | .endless => txt "incomplete format"
  | .endlessName => txt "incomplete format key"
  | .widthTooLarge => txt "width too big"
  | .precisionTooLarge => txt "precision too big"
  | .unknownLetter c index =>
    txt "unsupported format character '" ++ [if 31 ≤ c.val && c.val ≤ 126 then c else '?'] ++
      txt "' (0x" ++ Text.shortHex c.val ++ txt ") at index " ++ Decimal.ofNat index
  | .notANumber => txt "cannot convert float NaN to integer"

/-- A width or a precision. -/
inductive Amount
  | given (n : Nat)
  /-- The value is the amount. -/
  | taken

/-- The number of an amount that is given. -/
def Amount.given? : Amount → Option Nat
  | .given n => some n
  | .taken => none

/-- What the flags of a place ask for. -/
structure Flags where
  /-- Blanks are filled in at the end. -/
  leftAligned : Bool
  /-- Numbers that are not negative have a plus sign. -/
  plusSign : Bool
  /-- Numbers that are not negative have a blank for a sign. -/
  blankSign : Bool
  /-- Integers show their base, and doubles keep the point and the zeros after it. -/
  alternate : Bool
  /-- Numbers are filled up with zeros. -/
  zeroFilled : Bool

/-- The flags that a run of code points stands for. -/
def Flags.ofText (s : Text) : Flags where
  leftAligned := s.contains '-'
  plusSign := s.contains '+'
  blankSign := s.contains ' '
  alternate := s.contains '#'
  zeroFilled := s.contains '0'

/-- A part of a place, if it is there, or what is wrong with it. -/
abbrev Part (α : Type) := Option (Except Problem α)

/-- A place for a value. -/
structure Place where
  name : Part Text
  flags : Flags
  width : Part Amount
  precision : Part Amount
  /-- The letter at the end, and where in the template it stands. -/
  letter : Except Problem (CodePoint × Nat)

/-- A number that is given for a part. -/
def givenPart? : Part Amount → Option Nat
  | some (.ok amount) => amount.given?
  | _ => none

/-- The least number of code points that are written at a place. -/
def Place.minimum (place : Place) : Nat :=
  (givenPart? place.width).getD 0

/-- The precision that is given for a place. -/
def Place.precision? (place : Place) : Option Nat :=
  givenPart? place.precision

/-- What a template consists of. -/
inductive Piece
  | point (c : CodePoint)
  | place (place : Place)

/-- The text up to the closing parenthesis, and the text after it. Within it are as many parentheses
still open as `depth` says. -/
def readName (depth : Nat) : Text → Option (Text × Text)
  | [] => none
  | c :: rest =>
    let more := fun (name, after) => (c :: name, after)
    if c = ')' then
      match depth with
      | 0 => some ([], rest)
      | depth + 1 => (readName depth rest).map more
    else (readName (if c = '(' then depth + 1 else depth) rest).map more

/-- An amount at the front of a text, and the text after it. -/
def readAmount (largest : Nat) (tooLarge : Problem) (s : Text) : Part Amount × Text :=
  match s with
  | [] => (none, [])
  | c :: rest =>
    if c = '*' then (some (.ok .taken), rest)
    else
      let (digits, after) := s.takeRun CodePoint.isDigit
      let n := Decimal.toNat digits
      if digits.isEmpty then (none, s)
      else (some (if n ≤ largest then .ok (.given n) else .error tooLarge), after)

/-- The largest width. -/
def largestWidth : Nat := Nat.pow 2 63 - 1

/-- The largest precision. -/
def largestPrecision : Nat := Nat.pow 2 31 - 1

/-- A precision at the front of a text, and the text after it. It is zero where only its period is
there. -/
def readPrecision (s : Text) : Part Amount × Text :=
  match Text.after? (txt ".") s with
  | none => (none, s)
  | some rest =>
    let (amount, after) := readAmount largestPrecision .precisionTooLarge rest
    (some (amount.getD (.ok (.given 0))), after)

/-- The text after a letter for a size. -/
def skipSize (s : Text) : Text :=
  match s with
  | c :: rest => if (txt "hlL").contains c then rest else s
  | [] => []

/-- The place that goes on with a text, which begins at an index of the template, and the text after
the place. -/
def readPlace (index : Nat) (s : Text) : Place × Text :=
  let (name, named) : Part Text × Text :=
    match Text.after? (txt "(") s with
    | none => (none, s)
    | some rest =>
      match readName 0 rest with
      | some (name, after) => (some (.ok name), after)
      | none => (some (.error .endlessName), [])
  let (flags, flagged) := named.takeRun (txt "-+ #0").contains
  let (width, widened) := readAmount largestWidth .widthTooLarge flagged
  let (precision, bounded) := readPrecision widened
  let (letter, after) : Except Problem (CodePoint × Nat) × Text :=
    match skipSize bounded with
    | [] => (.error .endless, [])
    | c :: after => (.ok (c, index + (s.length - after.length - 1)), after)
  (⟨name, .ofText flags, width, precision, letter⟩, after)

/-- The pieces of a text that begins at an index of the template. Those of its code points that are
`skipped` belong to the piece before. -/
def readPieces (index skipped : Nat) : Text → List Piece
  | [] => []
  | c :: rest =>
    match skipped with
    | skipped + 1 => readPieces (index + 1) skipped rest
    | 0 =>
      if c = '%' then
        if rest.head? == some c then .point c :: readPieces (index + 1) 1 rest
        else
          let (place, after) := readPlace (index + 1) rest
          .place place :: readPieces (index + 1) (rest.length - after.length) rest
      else .point c :: readPieces (index + 1) 0 rest

/-- The pieces of a template. -/
def pieces (s : Text) : List Piece :=
  readPieces 0 0 s

end Mixfix.Template
