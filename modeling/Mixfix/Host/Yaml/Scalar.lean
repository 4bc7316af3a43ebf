import Mixfix.Value.Display

/-!
# Plain scalars of YAML

A scalar without quotation marks is what it looks like: a truth value, a number, null, a date, a merge
key, or else a text. The spellings are those of YAML 1.1, where numbers may have underscores, may be
written in base two, eight or sixteen, or in groups of base sixty as times of the day are.
-/

set_option autoImplicit false

namespace Mixfix.Yaml

/-- What a plain scalar looks like. -/
inductive Looks
  | bool
  | float
  | int
  | merge
  | null
  | timestamp
  | value
  | text
  deriving DecidableEq

/-- The spellings of true. -/
def trueWords : List Text :=
  ["yes", "Yes", "YES", "true", "True", "TRUE", "on", "On", "ON"]

/-- The spellings of false. -/
def falseWords : List Text :=
  ["no", "No", "NO", "false", "False", "FALSE", "off", "Off", "OFF"]

/-- The spellings of null. -/
def nullWords : List Text :=
  ["~", "null", "Null", "NULL", ""]

/-- A plus or a minus sign. -/
def isSign (c : CodePoint) : Bool :=
  c == '+' || c == '-'

/-- A digit or an underscore. -/
def isDigitMark (c : CodePoint) : Bool :=
  c.isDigit || c == '_'

/-- A text without a sign at its front. -/
def dropSign (s : Text) : Text :=
  match s with
  | c :: rest => if isSign c then rest else s
  | [] => []

/-- The text after a digit and any number of digits and underscores. -/
def afterDigits? (s : Text) : Option Text :=
  match s with
  | c :: rest => if c.isDigit then some (rest.dropWhile isDigitMark) else none
  | [] => none

/-- The text after groups of base sixty, each a colon and a number below sixty. The fuel is the
length of the text. -/
def afterGroups : Nat → Text → Text
  | 0, s => s
  | fuel + 1, s =>
    match s with
    | colon :: d :: rest =>
      if colon = ':' && d.isDigit then
        match rest with
        | e :: after =>
          if e.isDigit && d.between '0' '5' then afterGroups fuel after else afterGroups fuel rest
        | [] => []
      else s
    | _ => s

/-- The text after at least one group of base sixty. -/
def afterSomeGroups? (s : Text) : Option Text :=
  let rest := afterGroups s.length s
  if rest.length < s.length then some rest else none

/-- Whether a text is nothing or an exponent with a sign. -/
def isExponentOrEmpty : Text → Bool
  | [] => true
  | e :: sign :: d :: rest => (e == 'e' || e == 'E') && isSign sign && (d :: rest).all CodePoint.isDigit
  | _ => false

/-- Whether a text is a point with digits and an exponent after it. -/
def isPointTail (needDigit : Bool) : Text → Bool
  | p :: rest =>
    p == '.' && (!needDigit || (rest.head?.map CodePoint.isDigit).getD false) &&
      isExponentOrEmpty (rest.dropWhile isDigitMark)
  | [] => false

/-- Whether a text is a point and then digits up to its end. -/
def isGroupTail : Text → Bool
  | p :: rest => p == '.' && rest.all isDigitMark
  | [] => false

/-- Whether a text is spelled as a double. -/
def isFloat (s : Text) : Bool :=
  let unsigned := dropSign s
  (match afterDigits? unsigned with
    | some rest =>
      isPointTail false rest || ((afterSomeGroups? rest).map isGroupTail).getD false
    | none => false) ||
  isPointTail true s ||
  [txt ".inf", ".Inf", ".INF"].contains unsigned ||
  [txt ".nan", ".NaN", ".NAN"].contains s

/-- Whether a text is one or more code points with a property. -/
def isRunOf (p : CodePoint → Bool) (s : Text) : Bool :=
  !s.isEmpty && s.all p

/-- Whether a text is spelled as an integer. -/
def isInt (s : Text) : Bool :=
  match dropSign s with
  | [] => false
  | c :: rest =>
    if c = '0' then
      rest.isEmpty || isRunOf (fun c => c.between '0' '7' || c == '_') rest ||
        (match rest with
          | b :: digits =>
            (b == 'b' && isRunOf (fun c => c.between '0' '1' || c == '_') digits) ||
              (b == 'x' && isRunOf (fun c => c.isHexDigit || c == '_') digits)
          | [] => false)
    else
      c.isDigit &&
        let rest := rest.dropWhile isDigitMark
        rest.isEmpty || ((afterSomeGroups? rest).map List.isEmpty).getD false

/-- The text after one or two digits. -/
def afterOneOrTwo? (s : Text) : Option Text :=
  match s with
  | a :: b :: rest =>
    if a.isDigit then some (if b.isDigit then rest else b :: rest) else none
  | [a] => if a.isDigit then some [] else none
  | [] => none

/-- The text after a number of digits. -/
def afterCount? (count : Nat) (s : Text) : Option Text :=
  if (s.take count).length = count && (s.take count).all CodePoint.isDigit then some (s.drop count)
  else none

/-- The text after a given code point. -/
def afterPoint? (c : CodePoint) (s : Text) : Option Text :=
  Text.after? [c] s

/-- A space or a tab. -/
def isSpaceOrTab (c : CodePoint) : Bool :=
  c == ' ' || c == '\t'

/-- Whether a text is nothing or a time zone. -/
def isZone (s : Text) : Bool :=
  let zone := s.dropWhile isSpaceOrTab
  s.isEmpty || zone == txt "Z" ||
    match zone with
    | [] => false
    | sign :: rest =>
      isSign sign &&
        match afterOneOrTwo? rest with
        | none => false
        | some rest =>
          rest.isEmpty ||
            (((afterPoint? ':' rest).bind (afterCount? 2)).map List.isEmpty).getD false

/-- The text after the mark between a date and a time. -/
def afterDate? (s : Text) : Option Text :=
  match s with
  | [] => none
  | c :: rest =>
    if c = 'T' || c = 't' then some rest
    else if isSpaceOrTab c then some (rest.dropWhile isSpaceOrTab)
    else none

/-- Whether a text is spelled as a date, with or without a time. -/
def isTimestamp (s : Text) : Bool :=
  let date := do
    let rest ← afterCount? 4 s
    let rest ← afterPoint? '-' rest
    let rest ← afterCount? 2 rest
    let rest ← afterPoint? '-' rest
    afterCount? 2 rest
  let time := do
    let rest ← afterCount? 4 s
    let rest ← afterPoint? '-' rest
    let rest ← afterOneOrTwo? rest
    let rest ← afterPoint? '-' rest
    let rest ← afterOneOrTwo? rest
    let rest ← afterDate? rest
    let rest ← afterOneOrTwo? rest
    let rest ← afterPoint? ':' rest
    let rest ← afterCount? 2 rest
    let rest ← afterPoint? ':' rest
    let rest ← afterCount? 2 rest
    return match afterPoint? '.' rest with
      | some fraction => fraction.dropWhile CodePoint.isDigit
      | none => rest
  (date.map List.isEmpty).getD false || (time.map isZone).getD false

/-- What a plain scalar looks like. -/
def looks (s : Text) : Looks :=
  if trueWords.contains s || falseWords.contains s then .bool
  else if isFloat s then .float
  else if isInt s then .int
  else if s == txt "<<" then .merge
  else if nullWords.contains s then .null
  else if isTimestamp s then .timestamp
  else if s == txt "=" then .value
  else .text

/-- Doubles in YAML. -/
def doubleStyle : Binary64.Style :=
  { messageStyle with
    pointBeforeExponent := true
    nan := txt ".nan", infinity := txt ".inf", negativeInfinity := txt "-.inf" }

end Mixfix.Yaml
