import Mixfix.Host.Domain.Mapping
import Mixfix.Host.Domain.Letter
import Mixfix.Host.Domain.Bidi
import Mixfix.Host.Domain.Punycode
import Mixfix.Text.Joining
import Mixfix.Text.Quoted

/-!
# Labels of registered host names

A host name is its labels with periods between them. The labels of names that can be registered consist
of letters, digits, marks and hyphens, with a few more code points next to letters that they belong to.
Labels beyond ASCII are written in ASCII after `xn--`.
-/

set_option autoImplicit false

namespace Mixfix.Domain

/-- What is wrong with a label. -/
inductive LabelProblem
  | empty
  | tooLong
  /-- Hyphens in the third and fourth place. -/
  | reservedHyphens
  /-- A hyphen at one of the ends. -/
  | hyphenAtEnd
  | initialMark
  /-- A code point that no label has. -/
  | codePoint (c : CodePoint) (position : Nat) (label : Text)
  /-- A joiner that joins nothing. -/
  | joiner (c : CodePoint) (position : Nat) (label : Text)
  /-- A code point that is not next to what it belongs to. -/
  | context (c : CodePoint) (position : Nat) (label : Text)
  | bidi (problem : BidiProblem) (label : Text)
  /-- Nothing after `xn--`. -/
  | nothingWritten
  | writtenHyphen
  /-- What is after `xn--` writes no label. -/
  | notWritten

/-- The number of a code point as messages show it. -/
def shownNumber (c : CodePoint) : Text :=
  let digits := (Text.shortHex c.val).map CodePoint.toUpper
  txt "U+" ++ List.replicate (4 - digits.length) (CodePoint.ofChar '0') ++ digits

/-- The wording of a code point that is out of place. -/
def misplaced (kind : String) (c : CodePoint) (position : Nat) (label : Text) : Text :=
  txt kind ++ txt " " ++ shownNumber c ++ txt " not allowed at position " ++ Decimal.ofNat position ++
    txt " in " ++ label.quoted

/-- The wording of a problem. -/
def LabelProblem.text : LabelProblem → Text
  | .empty => txt "Empty Label"
  | .tooLong => txt "Label too long"
  | .reservedHyphens => txt "Label has disallowed hyphens in 3rd and 4th position"
  | .hyphenAtEnd => txt "Label must not start or end with a hyphen"
  | .initialMark => txt "Label begins with an illegal combining character"
  | .codePoint c position label =>
    txt "Codepoint " ++ shownNumber c ++ txt " at position " ++ Decimal.ofNat position ++ txt " of " ++
      label.quoted ++ txt " not allowed"
  | .joiner c position label => misplaced "Joiner" c position label
  | .context c position label => misplaced "Codepoint" c position label
  | .bidi problem label => problem.text label.quoted
  | .nothingWritten => txt "Malformed A-label, no Punycode eligible content found"
  | .writtenHyphen => txt "A-label must not end with a hyphen"
  | .notWritten => txt "Invalid A-label"

/-- The joiner that keeps letters apart. -/
def nonJoiner : CodePoint := CodePoint.ofNat 0x200C

/-- The joiner that joins letters. -/
def joiner : CodePoint := CodePoint.ofNat 0x200D

/-- Whether a code point is a joiner. -/
def isJoiner (c : CodePoint) : Bool :=
  c == nonJoiner || c == joiner

/-- Whether a joiner may stand between two parts of a label, the first of them backwards. -/
def mayJoin (c : CodePoint) (before after : Text) : Bool :=
  let visible := fun (s : Text) => s.find? fun d => !d.isTransparent
  ((before.head?.map CodePoint.isVirama).getD false) ||
    (c == nonJoiner && ((visible before).map CodePoint.joinsNext).getD false &&
      ((visible after).map CodePoint.joinsPrevious).getD false)

/-- The ten digits from `first` on. -/
def isDigitFrom (first : Nat) (c : CodePoint) : Bool :=
  first ≤ c.val && c.val < first + 10

/-- The digits of Arabic. -/
def arabicDigits : Nat := 0x660

/-- The digits of Persian and Urdu. -/
def easternDigits : Nat := 0x6F0

/-- Whether a code point may stand between two parts of a label, the first of them backwards, if there is
a rule for it: a middle dot between two `l`, a Greek numeral sign before Greek, Hebrew punctuation after
Hebrew, the dot of Katakana in Japanese, and one kind of Arabic digits. -/
def mayStand? (c : CodePoint) (before after : Text) : Option Bool :=
  let next := fun (ranges : List (Nat × Nat)) (s : Text) =>
    (s.head?.map fun d => CodePoint.inRanges d.val ranges).getD false
  let l : Option CodePoint := some 'l'
  if c.val = 0xB7 then some (before.head? == l && after.head? == l)
  else if c.val = 0x375 then some (next greekRanges after)
  else if c.val = 0x5F3 || c.val = 0x5F4 then some (next hebrewRanges before)
  else if c.val = 0x30FB then
    some ((before ++ after).any fun d => d != c && CodePoint.inRanges d.val japaneseRanges)
  else if isDigitFrom arabicDigits c then some (!(before ++ after).any (isDigitFrom easternDigits))
  else if isDigitFrom easternDigits c then some (!(before ++ after).any (isDigitFrom arabicDigits))
  else none

/-- Whether a code point is a letter, a digit, a mark or the hyphen. -/
def isLetter (c : CodePoint) : Bool :=
  mapped? c == some [c] && !isSymbol c

/-- What is wrong with the code points of a label after a part of it, which is given backwards. -/
def codePointProblem? (label before : Text) : Text → Option LabelProblem
  | [] => none
  | c :: rest =>
    let position := before.length + 1
    if isJoiner c then
      if mayJoin c before rest then codePointProblem? label (c :: before) rest
      else some (.joiner c position label)
    else
      match mayStand? c before rest with
      | some true => codePointProblem? label (c :: before) rest
      | some false => some (.context c position label)
      | none =>
        if isLetter c then codePointProblem? label (c :: before) rest
        else some (.codePoint c position label)

/-- The longest label in ASCII. -/
def longestLabel : Nat := 63

/-- The longest label that is looked at. -/
def longestRead : Nat := 254

/-- A hyphen. -/
def hyphen : CodePoint := '-'

/-- What is wrong with a label, which is not written in ASCII unless it is ASCII. -/
def labelProblem? (label : Text) : Option LabelProblem :=
  if label.isEmpty then some .empty
  else if longestRead < label.length then some .tooLong
  else if (label.drop 2).take 2 == [hyphen, hyphen] then some .reservedHyphens
  else if label.head? == some hyphen || label.getLast? == some hyphen then some .hyphenAtEnd
  else if (label.head?.map CodePoint.isMark).getD false then some .initialMark
  else
    match codePointProblem? label [] label with
    | some problem => some problem
    | none =>
      if hasRightToLeft label then (bidiProblem? label).map fun problem => .bidi problem label
      else none

/-- What labels beyond ASCII begin with in ASCII. -/
def asciiMark : Text := "xn--"

/-- A label that is as it should be. -/
def checkedLabel (label : Text) : Except LabelProblem Text :=
  match labelProblem? label with
  | some problem => .error problem
  | none => .ok label

/-- The label that a label in ASCII is or writes. -/
def readLabel (label : Text) : Except LabelProblem Text :=
  let lower := label.map CodePoint.toLower
  match Text.after? asciiMark lower with
  | none => checkedLabel lower
  | some written =>
    if written.isEmpty then .error .nothingWritten
    else if written.getLast? == some hyphen then .error .writtenHyphen
    else
      match Punycode.decode? written with
      | some label => checkedLabel label
      | none => .error .notWritten

/-- Whether a text is ASCII. -/
def isAscii (s : Text) : Bool :=
  s.all fun c => c.val < 0x80

/-- A label in ASCII, whatever it is. -/
def writtenLabel (label : Text) : Text :=
  if isAscii label then label else asciiMark ++ Punycode.encode label

/-- A label in ASCII. -/
def writeLabel (label : Text) : Except LabelProblem Text := do
  let _ ← if isAscii label then readLabel label else checkedLabel label
  let written := writtenLabel label
  if longestLabel < written.length then throw .tooLong else return written

end Mixfix.Domain
