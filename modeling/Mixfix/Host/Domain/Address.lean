import Mixfix.Decimal

/-!
# Addresses of hosts

A host can be given by its address: four bytes as decimal numbers with periods between them, or eight
words as hexadecimal numbers with colons between them. Where a name is expected, a text whose last part is
a number is an address too. Then the numbers may be octal or hexadecimal, and the last of them stands for
all the bytes that are left.
-/

set_option autoImplicit false

namespace Mixfix.Domain

/-- A number with a base of its own: hexadecimal after `0x`, octal after a zero, and zero where nothing is
left. -/
def readNumber? (s : Text) : Option Nat :=
  let lower := s.map CodePoint.toLower
  let inBase := fun (base : Nat) (digits : Text) =>
    if digits.all fun d => d.isHexDigit && d.hexValue < base then
      some (digits.foldl (fun n d => base * n + d.hexValue) 0)
    else none
  match Text.after? (txt "0x") lower with
  | some digits => inBase 16 digits
  | none =>
    match lower with
    | [] => none
    | [d] => inBase 10 [d]
    | d :: digits => if d = '0' then inBase 8 digits else inBase 10 lower

/-- The parts of a name, without the empty one after a period at the end. -/
def nameParts (s : Text) : List Text :=
  let parts := Text.splitOn '.' s
  if parts.getLast? == some [] then parts.dropLast else parts

/-- Whether a name is meant for an address: its last part is a number. -/
def endsInNumber (s : Text) : Bool :=
  match (nameParts s).getLast? with
  | none => false
  | some last =>
    (!last.isEmpty && last.all CodePoint.isDigit) || (readNumber? last).isSome

/-- Whether a name that is meant for an address is one of four bytes. -/
def isNumberAddress (s : Text) : Bool :=
  match (nameParts s).mapM readNumber? with
  | none => false
  | some numbers =>
    match numbers.reverse with
    | [] => false
    | last :: others =>
      others.length ≤ 3 && last < Nat.pow 256 (4 - others.length) && others.all (· ≤ 255)

/-- Whether a text is a byte as a decimal number, without zeros before it. -/
def isByte (s : Text) : Bool :=
  !s.isEmpty && s.all CodePoint.isDigit && s.length ≤ 3 && Decimal.toNat s ≤ 255 &&
    (s.length == 1 || !(s.head? == some (CodePoint.ofChar '0')))

/-- Whether a text is four bytes with periods between them. -/
def isByteAddress (s : Text) : Bool :=
  let parts := Text.splitOn '.' s
  parts.length == 4 && parts.all isByte

/-- The words of an address. -/
def addressWords : Nat := 8

/-- Whether a text is what is left of an address after some words. Two colons stand for words left out,
once. The last two words may be written as four bytes. -/
def areWords (fuel words : Nat) (leftOut : Bool) (s : Text) : Bool :=
  match fuel, s with
  | _, [] => leftOut || words == addressWords
  | 0, _ => false
  | fuel + 1, c :: rest =>
    if words == addressWords then false
    else if c = ':' then !leftOut && areWords fuel (words + 1) true rest
    else
      let digits := (s.take 4).takeWhile CodePoint.isHexDigit
      match s.drop digits.length with
      | [] => areWords fuel (words + 1) leftOut []
      | d :: after =>
        if d = ':' then !after.isEmpty && areWords fuel (words + 1) leftOut after
        else if d = '.' then
          !digits.isEmpty && (words + 2 == addressWords || (leftOut && words + 2 < addressWords)) &&
            isByteAddress s
        else false

/-- Whether a text is an address of eight words. -/
def isWordAddress (s : Text) : Bool :=
  match s with
  | c :: d :: rest =>
    if c = ':' then d == ':' && areWords rest.length 1 true rest
    else areWords s.length 0 false s
  | _ => false

end Mixfix.Domain
