import Mixfix.Binary64
import Mixfix.Text.Quoted
import Mixfix.Host.Yaml.Scalar
import Mixfix.Yaml

/-!
# Numbers and dates of YAML

What a scalar says once it is known to be an integer, a double or a date. A tag may claim so of any
text, so each of these can fail. Underscores in numbers say nothing. A number in groups of base sixty
has colons between its groups.

A date is not plain data, so it is only looked at for what is wrong with it.
-/

set_option autoImplicit false

namespace Mixfix.Yaml

/-- The number that digits of some base write. -/
def ofBase (base : Nat) (digits : Text) : Nat :=
  digits.foldl (fun n d => base * n + d.hexValue) 0

/-- The parts of a text between colons. -/
def groups (s : Text) : List Text :=
  s.splitOn (CodePoint.ofChar ':')

/-- A number without its underscores. -/
def withoutMarks (s : Text) : Text :=
  s.filter fun c => !(c == CodePoint.ofChar '_')

/-- Whether a text begins with a minus sign. -/
def isNegated (s : Text) : Bool :=
  s.head? == some (CodePoint.ofChar '-')

/-! ## Integers -/

/-- How much of a text is shown where it is no integer. -/
def shownLength : Nat := 200

/-- The letter that may stand after a zero before the digits of some base. -/
def baseLetter? (base : Nat) : Option CodePoint :=
  if base = 2 then some 'b' else if base = 8 then some 'o' else if base = 16 then some 'x' else none

/-- Digits of some base without the zero and the letter before them. -/
def withoutBase (base : Nat) (s : Text) : Text :=
  match s with
  | zero :: letter :: digits =>
    if zero = '0' && some letter.toLower == baseLetter? base then digits else s
  | _ => s

/-- The integer of a sign that may be missing and digits of some base. -/
def integerOf (base : Nat) (s : Text) : Except ReadError Int :=
  let trimmed := s.trim
  let digits := withoutBase base (dropSign trimmed)
  if !digits.isEmpty && digits.all (fun c => c.isHexDigit && c.hexValue < base) then
    if base = 10 && Decimal.digitLimit < digits.length then .error .tooManyDigits
    else
      let n : Int := ofBase base digits
      .ok (if isNegated trimmed then -n else n)
  else
    .error (.unreadable (txt "invalid literal for int() with base " ++ Decimal.ofNat base ++ txt ": " ++
      s.quoted.take shownLength))

/-- The integer of a spelling without its sign and its underscores. -/
def unsignedInt (s : Text) : Except ReadError Int :=
  if s == txt "0" then .ok 0
  else
    match Text.after? (txt "0b") s, Text.after? (txt "0x") s with
    | some digits, _ => integerOf 2 digits
    | none, some digits => integerOf 16 digits
    | none, none =>
      if s.head? == some (CodePoint.ofChar '0') then integerOf 8 s
      else if s.contains (CodePoint.ofChar ':') then do
        return (← (groups s).mapM (integerOf 10)).foldl (fun n group => 60 * n + group) 0
      else integerOf 10 s

/-- The integer of a spelling. -/
def intOf (s : Text) : Except ReadError Int :=
  let s := withoutMarks s
  let unsigned := dropSign s
  if unsigned.isEmpty then .error .noNumber
  else do
    let n ← unsignedInt unsigned
    return if isNegated s then -n else n

/-! ## Doubles -/

/-- The exponent that stands after a mantissa, zero where there is none. -/
def exponentOf? (s : Text) : Option Int :=
  match s with
  | [] => some 0
  | mark :: power =>
    let digits := dropSign power
    if mark = 'e' && !digits.isEmpty && digits.all CodePoint.isDigit then
      let n : Int := Decimal.toNat digits
      some (if isNegated power then -n else n)
    else none

/-- The double of a sign that may be missing and a decimal notation in lower case, or of the name of
infinity or of what is no number. -/
def doubleOf (s : Text) : Except ReadError Float :=
  let trimmed := s.trim
  let negative := isNegated trimmed
  let unsigned := dropSign trimmed
  let (whole, rest) := Text.takeRun CodePoint.isDigit unsigned
  let (fraction, power) := match rest with
    | point :: after => if point = '.' then Text.takeRun CodePoint.isDigit after else ([], rest)
    | [] => ([], [])
  let digits := whole ++ fraction
  if [txt "inf", txt "infinity"].contains unsigned then .ok (Binary64.infinity negative)
  else if unsigned == txt "nan" then .ok Binary64.notANumber
  else
    match if digits.isEmpty then none else exponentOf? power with
    | some exponent =>
      .ok (Binary64.ofDecimal negative (Decimal.toNat digits) (exponent - fraction.length))
    | none => .error (.unreadable (txt "could not convert string to float: " ++ s.quoted))

/-- The double of groups of base sixty. -/
def sumOfGroups (parts : List Float) : Float :=
  (parts.reverse.foldl (fun (total, base) part => (total + part * base, base * 60)) (0.0, 1.0)).1

/-- The double of a spelling. -/
def floatOf (s : Text) : Except ReadError Float :=
  let s := (withoutMarks s).map CodePoint.toLower
  let unsigned := dropSign s
  let signed := fun (x : Float) => if isNegated s then -x else x
  if s.isEmpty then .error .noNumber
  else if unsigned == txt ".inf" then .ok (Binary64.infinity (isNegated s))
  else if unsigned == txt ".nan" then .ok Binary64.notANumber
  else if unsigned.contains (CodePoint.ofChar ':') then do
    return signed (sumOfGroups (← (groups unsigned).mapM doubleOf))
  else do
    return signed (← doubleOf unsigned)

/-! ## Dates -/

/-- The numbers that stand in a text, in order. The fuel is the length of the text. -/
def numbersIn : Nat → Text → List Nat
  | 0, _ => []
  | fuel + 1, s =>
    let (digits, rest) := Text.takeRun CodePoint.isDigit (s.dropWhile fun c => !c.isDigit)
    if digits.isEmpty then [] else Decimal.toNat digits :: numbersIn fuel rest

/-- The days of a month, February having one more in every leap year. -/
def daysOf (year month : Nat) : Nat :=
  let leaps := year % 4 = 0 ∧ (year % 100 ≠ 0 ∨ year % 400 = 0)
  if month = 2 then (if leaps then 29 else 28)
  else if month = 4 ∨ month = 6 ∨ month = 9 ∨ month = 11 then 30
  else 31

/-- What is wrong with a day. -/
def dayProblem? (year month day : Nat) : Option Text :=
  if year = 0 then some (txt "year 0 is out of range")
  else if month = 0 ∨ 12 < month then some (txt "month must be in 1..12")
  else if day = 0 ∨ daysOf year month < day then some (txt "day is out of range for month")
  else none

/-- What is wrong with a time of the day. -/
def timeProblem? (hour minute second : Nat) : Option Text :=
  if 24 ≤ hour then some (txt "hour must be in 0..23")
  else if 60 ≤ minute then some (txt "minute must be in 0..59")
  else if 60 ≤ second then some (txt "second must be in 0..59")
  else none

/-- What is wrong with a date that is spelled as one. -/
def dateProblem? (s : Text) : Option Text :=
  match numbersIn s.length s with
  | year :: month :: day :: time =>
    (dayProblem? year month day).or
      (match time with
      | hour :: minute :: second :: _ => timeProblem? hour minute second
      | _ => none)
  | _ => none

/-- Whether a text is spelled as a day, the month and the day of one digit or two. -/
def isDay (s : Text) : Bool :=
  let rest := do
    let rest ← afterCount? 4 s
    let rest ← afterPoint? '-' rest
    let rest ← afterOneOrTwo? rest
    let rest ← afterPoint? '-' rest
    afterOneOrTwo? rest
  (rest.map List.isEmpty).getD false

/-- Why a date is not read. -/
def dateError (s : Text) : ReadError :=
  if isDay s || isTimestamp s then
    match dateProblem? s with
    | some reason => .unreadable reason
    | none => .notData
  else .noDate

end Mixfix.Yaml
