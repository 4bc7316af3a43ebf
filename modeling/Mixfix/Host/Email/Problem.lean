import Mixfix.Host.Domain.Label
import Mixfix.Host.Email.Literal

/-!
# Problems of email addresses

What can be wrong with an email address, and how messages say it.
-/

set_option autoImplicit false

namespace Mixfix.Email

/-- Which form of an address is too long. -/
inductive LongForm
  /-- As it is given, by so many characters at least and at most. -/
  | given (least most : Nat)
  | normalized (bytes : Nat)
  /-- With the host name in ASCII. -/
  | ascii (bytes : Nat)

/-- What is wrong with an address. -/
inductive Problem
  | lineBreak
  | longText
  | noSign
  /-- A name before the address. -/
  | nameCharacters (characters : List CodePoint)
  | noCloseBracket
  | afterBracket
  | nameNotAllowed
  | afterQuote (characters : List CodePoint)
  | unsafeCharacters (characters : List CodePoint)
  | emptyLocal
  | localCharacters (characters : List CodePoint)
  | quotedCharacters (characters : List CodePoint)
  | localEdge (atStart : Bool)
  | twoPeriods
  /-- The part before the sign is wrong after it is normalized. -/
  | normalizedLocal (characters : List CodePoint)
  | quotedLocal
  | emptyDomain
  | literal (problem : LiteralProblem)
  | literalNotAllowed
  | domainCharacters (characters : List CodePoint)
  | domainTooLong
  | refusedCharacter (c : CodePoint) (position : Nat) (domain : Text)
  | mappedCharacters (characters : List CodePoint)
  | domainEdge (atStart : Bool) (hyphen : Bool)
  | periodAndHyphen
  | reservedHyphens
  | label (problem : Domain.LabelProblem)
  | longDomain (excess : Nat) (mapped : Bool)
  | longLabel (excess : Nat)
  | noPeriod
  | notTopLevel
  | reservedDomain
  /-- A label in ASCII writes none. -/
  | writtenLabel (problem : Domain.LabelProblem)
  | long (form : LongForm)

/-- A number of things too many. -/
def excess (thing : String) (n : Nat) : Text :=
  Decimal.ofNat n ++ txt " " ++ txt thing ++ (if n = 1 then txt " too many" else txt "s too many")

/-- The wording of the length of an address. -/
def LongForm.text : LongForm → Text
  | .given least most =>
    if least = most then txt "(" ++ excess "character" most ++ txt ")"
    else txt "(" ++ Decimal.ofNat least ++ txt "-" ++ excess "character" most ++ txt ")"
  | .normalized bytes => txt "after normalization (" ++ excess "byte" bytes ++ txt ")"
  | .ascii bytes =>
    txt "when the part after the @-sign is converted to IDNA ASCII (" ++ excess "byte" bytes ++ txt ")"

/-- The wording of a problem. -/
def Problem.text : Problem → Text
  | .lineBreak => txt "Carriage return and line feed characters are not allowed"
  | .longText => txt "Length must not exceed 2048 characters"
  | .noSign => txt "An email address must have an @-sign."
  | .nameCharacters cs =>
    txt "The display name contains invalid characters when not quoted: " ++
      CodePoint.displayedSet cs ++ txt "."
  | .noCloseBracket => txt <| "An open angle bracket at the start of the email address has to be " ++
      "followed by a close angle bracket at the end."
  | .afterBracket => txt "There can't be anything after the email address."
  | .nameNotAllowed => txt <| "A display name and angle brackets around the email address are not " ++
      "permitted here."
  | .afterQuote cs =>
    txt "Extra character(s) found after close quote: " ++ CodePoint.displayedList cs
  | .unsafeCharacters cs =>
    txt "The email address contains unsafe characters: " ++ CodePoint.displayedAscending cs ++ txt "."
  | .emptyLocal => txt "There must be something before the @-sign."
  | .localCharacters cs =>
    txt "The email address contains invalid characters before the @-sign: " ++
      CodePoint.displayedSet cs ++ txt "."
  | .quotedCharacters cs =>
    txt "The email address contains invalid characters in quotes before the @-sign: " ++
      CodePoint.displayedSet cs ++ txt "."
  | .localEdge true => txt "An email address cannot start with a period."
  | .localEdge false => txt "An email address cannot have a period immediately before the @-sign."
  | .twoPeriods => txt "An email address cannot have two periods in a row."
  | .normalizedLocal cs =>
    txt "After Unicode normalization: The email address contains invalid characters before the " ++
      txt "@-sign: " ++ CodePoint.displayedSet cs ++ txt "."
  | .quotedLocal => txt "Quoting the part before the @-sign is not allowed here."
  | .emptyDomain => txt "There must be something after the @-sign."
  | .literal problem => problem.text
  | .literalNotAllowed => txt "A bracketed IP address after the @-sign is not allowed here."
  | .domainCharacters cs =>
    txt "The part after the @-sign contains invalid characters: " ++ CodePoint.displayedSet cs ++
      txt "."
  | .domainTooLong => txt "The part after the @-sign contains invalid characters (Domain too long)."
  | .refusedCharacter c position domain =>
    txt "The part after the @-sign contains invalid characters (" ++
      Domain.misplaced "Codepoint" c position domain ++ txt ")."
  | .mappedCharacters cs =>
    txt "The part after the @-sign contains invalid characters after Unicode normalization: " ++
      CodePoint.displayedSet cs ++ txt "."
  | .domainEdge true false => txt "An email address cannot have a period immediately after the @-sign."
  | .domainEdge true true => txt "An email address cannot have a hyphen immediately after the @-sign."
  | .domainEdge false false => txt "An email address cannot end with a period."
  | .domainEdge false true => txt "An email address cannot end with a hyphen."
  | .periodAndHyphen =>
    txt "An email address cannot have a period and a hyphen next to each other."
  | .reservedHyphens => txt <| "An email address cannot have two letters followed by two dashes " ++
      "immediately after the @-sign or after a period, except Punycode."
  | .label problem => txt "The part after the @-sign is invalid (" ++ problem.text ++ txt ")."
  | .longDomain n false =>
    txt "The email address is too long after the @-sign (" ++ excess "character" n ++ txt ")."
  | .longDomain n true =>
    txt "The email address is too long after the @-sign (" ++ excess "byte" n ++
      txt " after IDNA encoding)."
  | .longLabel n =>
    txt "After the @-sign, periods cannot be separated by so many characters (" ++
      excess "character" n ++ txt ")."
  | .noPeriod => txt "The part after the @-sign is not valid. It should have a period."
  | .notTopLevel =>
    txt "The part after the @-sign is not valid. It is not within a valid top-level domain."
  | .reservedDomain => txt <| "The part after the @-sign is a special-use or reserved name that " ++
      "cannot be used with email."
  | .writtenLabel problem =>
    txt "The part after the @-sign is not valid IDNA (" ++ problem.text ++ txt ")."
  | .long form => txt "The email address is too long " ++ form.text ++ txt "."

end Mixfix.Email
