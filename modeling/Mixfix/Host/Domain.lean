import Mixfix.Host.Domain.Label

/-!
# Host names

Host names as they are taken where nothing is registered: symbols are allowed, labels may be empty and of
any length. A name is mapped first. Then each label has to be what the mapping leaves alone, whether it is
there as it is or written in ASCII. Some ASCII code points stand for other parts of an address, and no
name has these.
-/

set_option autoImplicit false

namespace Mixfix.Domain

/-- Whether an ASCII code point is one that no host name has. -/
def isForbidden (c : CodePoint) : Bool :=
  c.val ≤ 0x20 || c.val == 0x7F || (txt "%#/:<>?@[\\]^|").contains c

/-- A name after the mapping, or the first code point that is refused and its position. -/
def mapName (position : Nat) : Text → Except (CodePoint × Nat) Text
  | [] => .ok []
  | c :: rest =>
    match mapped? c with
    | none => .error (c, position)
    | some s => (mapName (position + 1) rest).map (s ++ ·)

/-- The label that a mapped label is or writes, if it writes one. -/
def label? (s : Text) : Option Text :=
  match Text.after? asciiMark s with
  | none => some s
  | some written =>
    match Punycode.decode? written with
    | none => none
    | some label =>
      if isAscii written && !isAscii label && label.all fun c => mapped? c == some [c] then some label
      else none

/-- Whether every joiner of a label joins something. The part before is given backwards. -/
def areJoined (before : Text) : Text → Bool
  | [] => true
  | c :: rest => (!isJoiner c || mayJoin c before rest) && areJoined (c :: before) rest

/-- Whether a label can be part of a name. -/
def isLabel (label : Text) : Bool :=
  !(label.head?.map CodePoint.isMark).getD false && areJoined [] label

/-- A host name in ASCII, if the text is one. -/
def hostName? (s : Text) : Option Text := do
  let name ← (mapName 1 s).toOption
  if name.any isForbidden then none
  else
    let labels ← (Text.splitOn '.' name).mapM label?
    let fits := fun label => (bidiProblem? label).isNone
    if labels.all isLabel && (!labels.any hasRightToLeft || labels.all fits) then
      some (Text.join (txt ".") (labels.map writtenLabel))
    else none

end Mixfix.Domain
