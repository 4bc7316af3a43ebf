import Mixfix.Host.Domain
import Mixfix.Host.Domain.Address
import Mixfix.Text.Utf8

/-!
# Hosts of URLs

Where the scheme of a URL is one of the web, its host is an address or a host name, which may have bytes in
hexadecimal digits after percent signs. Any other scheme says itself what a host is. Then all that matters
is that the host has none of the code points that mean something else in a URL.
-/

set_option autoImplicit false

namespace Mixfix.Url

/-- What is wrong with a host. -/
inductive HostProblem
  | empty
  | invalidName
  | invalidBytes
  | invalidWords
  | forbiddenCharacter

/-- The value of a byte as a hexadecimal digit. -/
def hexByte? (byte : Nat) : Option Nat :=
  let c := CodePoint.ofNat byte
  if c.isHexDigit then some c.hexValue else none

/-- The bytes of a host after so many bytes that belong to what is before. -/
def decodedBytes (skipped : Nat) : List Nat → List Nat
  | [] => []
  | byte :: rest =>
    match skipped with
    | skipped + 1 => decodedBytes skipped rest
    | 0 =>
      match if byte = '%'.toNat then rest.take 2 else [] with
      | [high, low] =>
        match hexByte? high, hexByte? low with
        | some h, some l => (16 * h + l) :: decodedBytes 2 rest
        | _, _ => byte :: decodedBytes 0 rest
      | _ => byte :: decodedBytes 0 rest

/-- What is wrong with a host in brackets, if it is one. -/
def bracketsProblem? (s : Text) : Option (Option HostProblem) :=
  match s with
  | [] => none
  | c :: rest =>
    if c = '[' then
      if rest.getLast? == some (CodePoint.ofChar ']') && Domain.isWordAddress rest.dropLast then some none
      else some (some .invalidWords)
    else none

/-- What is wrong with a host of the web. -/
def webHostProblem? (s : Text) : Option HostProblem :=
  match bracketsProblem? s with
  | some problem => problem
  | none =>
    match (Text.ofUtf8? (decodedBytes 0 s.utf8)).bind Domain.hostName? with
    | none => some .invalidName
    | some name =>
      if name.isEmpty then some .empty
      else if Domain.endsInNumber name && !Domain.isNumberAddress name then some .invalidBytes
      else none

/-- Whether a code point means something else in a URL than a part of a host. -/
def isReserved (c : CodePoint) : Bool :=
  c.val == 0 || (txt "\t\n\r #/:<>?@[\\]^|").contains c

/-- What is wrong with a host of a scheme that is none of the web. -/
def otherHostProblem? (s : Text) : Option HostProblem :=
  match bracketsProblem? s with
  | some problem => problem
  | none => if s.any isReserved then some .forbiddenCharacter else none

end Mixfix.Url
