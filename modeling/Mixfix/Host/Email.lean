import Mixfix.Host.Email.Parts
import Mixfix.Host.Domain
import Mixfix.Text.Utf8

/-!
# Email addresses

The part before the sign is made of letters, digits and some punctuation, with single periods among them.
It may have code points beyond ASCII. In quotation marks it may have nearly anything, but no address with
quotation marks is accepted, nor one with an address of a host in brackets.

The part after the sign is a host name with at least one period, and within a top-level domain that mail
can be sent to. It is mapped first, and its labels have to be such as can be registered. Labels, host
names and whole addresses have limited lengths, those of addresses in bytes.
-/

set_option autoImplicit false

namespace Mixfix.Email

/-- The longest text that is looked at. -/
def longestText : Nat := 2048

/-- The longest host name that is mapped. -/
def longestMapped : Nat := 1024

/-- The longest host name. -/
def longestDomain : Nat := 253

/-- The longest address, in bytes. -/
def longestAddress : Nat := 254

/-- Names that no mail is sent to. -/
def reservedDomains : List Text :=
  ["arpa", "invalid", "local", "localhost", "onion", "test"]

/-- Whether two code points stand next to each other in a text. -/
def adjacent (a b : CodePoint) (s : Text) : Bool :=
  (s.zip (s.drop 1)).contains (a, b)

/-- Whether a host name ends in a name, as its last part or as all of it. -/
def within (name s : Text) : Bool :=
  s == name || (period :: name).isSuffixOf s

/-- What is wrong with the periods of the part before the sign. -/
def localPeriodProblem? (s : Text) : Option Problem :=
  if s.getLast? == some period then some (.localEdge false)
  else if s.head? == some period then some (.localEdge true)
  else if adjacent period period s then some .twoPeriods
  else none

/-- The code points of a text that a test refuses. -/
def others (isFine : CodePoint → Bool) (s : Text) : List CodePoint :=
  s.filter fun c => !isFine c

/-- The sign of the end of a question in Greek. It is the same as a semicolon. -/
def questionMark : CodePoint := CodePoint.ofNat 0x37E

/-- Checks the part before the sign. -/
def checkLocal (s : Text) (isQuoted : Bool) : Except Problem Unit := do
  let isPlain := s.all inLocal && (localPeriodProblem? s).isNone
  if s.isEmpty then throw .emptyLocal
  else if isPlain then expectNone .unsafeCharacters (unsafeCharacters false s)
  else if isQuoted then
    expectNone .quotedCharacters (others (fun c => 0x20 ≤ c.val && c.val != 0x7F) s)
    expectNone .unsafeCharacters (unsafeCharacters true s)
  else
    expectNone .localCharacters (others inLocal s)
    match localPeriodProblem? s with
    | some problem => throw problem
    | none => pure ()
  if isQuoted then throw .quotedLocal
  else if s.contains questionMark then throw (.normalizedLocal [';'])
  else pure ()

/-- What is wrong with the periods and hyphens of a host name. -/
def domainPeriodProblem? (s : Text) : Option Problem :=
  if s.getLast? == some period then some (.domainEdge false false)
  else if s.head? == some period then some (.domainEdge true false)
  else if adjacent period period s then some .twoPeriods
  else if s.getLast? == some Domain.hyphen then some (.domainEdge false true)
  else if s.head? == some Domain.hyphen then some (.domainEdge true true)
  else if adjacent period Domain.hyphen s || adjacent Domain.hyphen period s then some .periodAndHyphen
  else none

/-- Whether a label has hyphens in the third and fourth place and does not begin as labels in ASCII do. -/
def hasReservedHyphens (label : Text) : Bool :=
  (label.drop 2).take 2 == [Domain.hyphen, Domain.hyphen] && label.take 2 != txt "xn"

/-- A host name after the mapping. -/
def mappedDomain (s : Text) : Except Problem Text := do
  expectNone .domainCharacters (others inDomain s)
  expectNone .unsafeCharacters (unsafeCharacters false s)
  if longestMapped < s.length then throw .domainTooLong
  else
    match Domain.mapName 1 s with
    | .error (c, position) => throw (.refusedCharacter c position s)
    | .ok mapped => do
      expectNone .mappedCharacters (others inDomain mapped)
      return mapped

/-- Labels in ASCII, if each of them can be registered. -/
def writtenLabels (labels : List Text) : Except Problem (List Text) :=
  if labels.all Domain.isAscii then .ok labels
  else labels.mapM fun label =>
    match Domain.writeLabel label with
    | .ok written => .ok written
    | .error problem => .error (.label problem)

/-- Labels as they are read from ASCII. -/
def readLabels (labels : List Text) : Except Problem (List Text) :=
  labels.mapM fun label =>
    match Domain.readLabel label with
    | .ok read => .ok read
    | .error problem => .error (.writtenLabel problem)

/-- What is wrong with a host name in ASCII as one that mail is sent to. -/
def deliveryProblem? (s : Text) : Option Problem :=
  if !s.contains period then some .noPeriod
  else if !((s.getLast?.map CodePoint.isLetter).getD false) then some .notTopLevel
  else if reservedDomains.any fun name => within name s then some .reservedDomain
  else none

/-- A host name in ASCII and as it is read, or what is wrong with it. -/
def checkDomain (s : Text) : Except Problem (Text × Text) := do
  let mapped ← mappedDomain s
  let labels := Text.splitOn period mapped
  match domainPeriodProblem? mapped with
  | some problem => throw problem
  | none => pure ()
  if labels.any hasReservedHyphens then throw .reservedHyphens
  let written ← writtenLabels labels
  let ascii := Text.join [period] written
  if longestDomain < ascii.length then throw (.longDomain (ascii.length - longestDomain) (ascii != s))
  match written.find? fun label => Domain.longestLabel < label.length with
  | some label => throw (.longLabel (label.length - Domain.longestLabel))
  | none => pure ()
  match deliveryProblem? ascii with
  | some problem => throw problem
  | none => pure ()
  let read ← readLabels written
  return (ascii, Text.join [period] read)

/-- Checks the length of an address in bytes. -/
def checkLength (form : Nat → LongForm) (s : Text) : Except Problem Unit :=
  let bytes := s.utf8Length
  if longestAddress < bytes then .error (.long (form (bytes - longestAddress))) else .ok ()

/-- How many characters too many an address has that is so many bytes too long. -/
def givenExcess (s : Text) (bytes : Nat) : LongForm :=
  let widest := (s.map Text.utf8Size).foldl max 1
  .given (max 1 (bytes / widest)) bytes

/-- Checks the part after the sign, and the length of the address. -/
def checkAddress (parts : Parts) : Except Problem Unit := do
  let domain := parts.domain
  let inBrackets := domain.head? == some (CodePoint.ofChar '[') &&
    domain.getLast? == some (CodePoint.ofChar ']')
  let whole := fun (domain : Text) => parts.localPart ++ [sign] ++ domain
  if domain.isEmpty then throw .emptyDomain
  else if inBrackets then
    match literalProblem? (domain.drop 1).dropLast with
    | some problem => throw (.literal problem)
    | none => throw .literalNotAllowed
  else
    let (ascii, read) ← checkDomain domain
    checkLength (givenExcess (whole domain)) (whole domain)
    checkLength .normalized (whole read)
    checkLength .ascii (whole ascii)

/-- Checks a text as an email address. -/
def check (s : Text) : Except Problem Unit := do
  if longestText < s.length then throw .longText
  else if s.contains '\r' || s.contains '\n' then throw .lineBreak
  else
    let parts ← Parts.ofText (address s)
    checkLocal parts.localPart parts.isQuoted
    checkAddress parts
    if parts.inBrackets then throw .nameNotAllowed else return ()

/-- What is wrong with a text as an email address. -/
def problem? (s : Text) : Option Problem :=
  match check s with
  | .ok () => none
  | .error problem => some problem

end Mixfix.Email
