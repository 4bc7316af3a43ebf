import Mixfix.Text

/-!
# Punycode

Labels of host names in ASCII: first the ASCII code points of the label, then, after a hyphen, where the
others go. These are put in by ascending number. Each is told by how many steps it is from the one
before, where a step goes to the next position, and from the last position to the first one of the next
code point. The numbers of steps are written in base 36 with digits of their own thresholds, which adapt
to the numbers before.
-/

set_option autoImplicit false

namespace Mixfix.Punycode

/-- The number of different digits. -/
def base : Nat := 36

/-- The threshold of a digit, for the place of the digit and the bias. -/
def threshold (place bias : Nat) : Nat :=
  max 1 (min 26 (base * (place + 1) - bias))

/-- Makes a number of steps so small that one digit tells it, and how often that took a division. -/
def reduced : Nat → Nat → Nat × Nat
  | 0, delta => (delta, 0)
  | fuel + 1, delta =>
    if delta ≤ 455 then (delta, 0)
    else
      let (small, divisions) := reduced fuel (delta / 35)
      (small, divisions + 1)

/-- The bias after a number of steps, with so many code points in the label. -/
def adapt (delta count : Nat) (isFirst : Bool) : Nat :=
  let halved := if isFirst then delta / 700 else delta / 2
  let start := halved + halved / count
  let (small, divisions) := reduced start start
  base * divisions + base * small / (small + 38)

/-- The first bias. -/
def firstBias : Nat := 72

/-- The first code point that is not ASCII. -/
def firstPoint : Nat := 0x80

/-- The value of a digit: letters come before the decimal digits. -/
def digit? (c : CodePoint) : Option Nat :=
  if c.isLetter then some (c.toLower.val - 'a'.toNat)
  else if c.isDigit then some (c.val - '0'.toNat + 26)
  else none

/-- The code point of a digit. -/
def ofDigit (n : Nat) : CodePoint :=
  CodePoint.ofNat (if n < 26 then n + 'a'.toNat else n - 26 + '0'.toNat)

/-- How far the reading of a label is. -/
structure Reading where
  /-- The label so far. -/
  label : Text
  point : Nat
  position : Nat
  bias : Nat
  isFirst : Bool

/-- Puts in the code point that is so many steps away. -/
def Reading.insert? (r : Reading) (delta : Nat) : Option Reading :=
  let count := r.label.length + 1
  let total := r.position + delta
  let n := r.point + total / count
  let position := total % count
  if h : n < 0x110000 then
    some {
      label := r.label.take position ++ ⟨n, h⟩ :: r.label.drop position
      point := n
      position := position + 1
      bias := adapt delta count r.isFirst
      isFirst := false }
  else none

/-- Reads the digits of numbers of steps. `number` is the number so far, `weight` that of its next digit,
and `place` counts its digits. -/
def readDigits (number weight place : Nat) (r : Reading) : Text → Option Text
  | [] => if place = 0 then some r.label else none
  | c :: rest =>
    match digit? c with
    | none => none
    | some d =>
      let number := number + d * weight
      let t := threshold place r.bias
      if d < t then
        match r.insert? number with
        | none => none
        | some r => readDigits 0 1 0 r rest
      else readDigits number (weight * (base - t)) (place + 1) r rest

/-- The label that an ASCII text writes. -/
def decode? (s : Text) : Option Text :=
  let digits := (s.reverse.takeWhile fun c => !(c == CodePoint.ofChar '-')).reverse
  let plain := (s.take (s.length - digits.length)).dropLast
  readDigits 0 1 0 ⟨plain, firstPoint, 0, firstBias, true⟩ digits

/-- A number of steps in digits. -/
def writeNumber (bias : Nat) : Nat → Nat → Nat → Text
  | 0, _, _ => []
  | fuel + 1, place, n =>
    let t := threshold place bias
    if n < t then [ofDigit n]
    else ofDigit (t + (n - t) % (base - t)) :: writeNumber bias fuel (place + 1) ((n - t) / (base - t))

/-- How far the writing of a label is. -/
structure Writing where
  written : Text
  delta : Nat
  /-- How many code points are written. -/
  count : Nat
  bias : Nat
  isFirst : Bool

/-- Goes over one code point of the label while those equal to `point` are written. -/
def Writing.step (point : Nat) (w : Writing) (c : CodePoint) : Writing :=
  if c.val < point then { w with delta := w.delta + 1 }
  else if c.val = point then
    { written := w.written ++ writeNumber w.bias (w.delta + 1) 0 w.delta
      delta := 0
      count := w.count + 1
      bias := adapt w.delta (w.count + 1) w.isFirst
      isFirst := false }
  else w

/-- Writes code points in ascending order, the last one written being below `point`. -/
def writePoints (label : Text) (point : Nat) (w : Writing) : List Nat → Text
  | [] => w.written
  | next :: rest =>
    let w := { w with delta := w.delta + (next - point) * (w.count + 1) }
    let w := label.foldl (Writing.step next) w
    writePoints label (next + 1) { w with delta := w.delta + 1 } rest

/-- A label in ASCII. -/
def encode (label : Text) : Text :=
  let plain := label.filter fun c => c.val < firstPoint
  let others := (Text.sortedSet ((label.filter fun c => firstPoint ≤ c.val).map fun c => [c])).flatten
  let start := if plain.isEmpty then [] else plain ++ txt "-"
  writePoints label firstPoint ⟨start, 0, plain.length, firstBias, true⟩ (others.map Fin.val)

end Mixfix.Punycode
