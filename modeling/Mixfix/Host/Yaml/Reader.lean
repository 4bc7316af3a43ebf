import Mixfix.Json.Writer
import Mixfix.Value.Compare
import Mixfix.Host.Yaml.Node

/-!
# Reading YAML

A YAML document as a value. The last of two equal keys wins, numbers and truth values being equal as
values are, and keys that are no text are then read as the text that JSON has for them. A merge key adds
the entries of the map or maps under it that are not there otherwise. A map in the place of a scalar is
the scalar under its key `=`. Pairs are read as lists of two values. Dates, sets and bytes are not plain
data, so a document that holds any is not read.
-/

set_option autoImplicit false

namespace Mixfix.Yaml

/-- The truth value of a word, of which the case says nothing. -/
def boolOf (s : Text) : Except ReadError Value :=
  let word := s.map CodePoint.toLower
  if trueWords.contains word then .ok (.bool true)
  else if falseWords.contains word then .ok (.bool false)
  else .error .noTruthValue

/-- The value of a scalar. -/
def scalarValue (tag : Tag) (s : Text) : Except ReadError Value :=
  match tag with
  | .scalar .bool => boolOf s
  | .scalar .float => do
    let x ← floatOf s
    return if x.isNaN then .nan .yaml else .float x
  | .scalar .int => do return .int (← intOf s)
  | .scalar .null => .ok .null
  | .scalar .timestamp => .error (dateError s)
  | .scalar .text => .ok (.str s)
  | .bytes => .error (if s.all fun c => c.val < 0x80 then .notData else .malformed)
  | .scalar .merge | .scalar .value | .list | .map | .pairs | .set | .unknown => .error .malformed

/-- The entries of a map before its keys are named. -/
abbrev Pairs := List (Value × Value)

/-- Whether a value can be a key. -/
def isKey : Value → Bool
  | .list _ | .map _ => false
  | _ => true

/-- The name of a key. -/
def keyName : Value → Text
  | .str s => s
  | .bool b => if b then txt "true" else txt "false"
  | .int n => Decimal.ofInt n
  | .float x => Json.doubleStyle.write x
  | .nan _ => Json.doubleStyle.nan
  | _ => txt "null"

/-- Puts a value under a key: in the place of the entry of an equal key, or at the end. -/
def putPair (key value : Value) : Pairs → Pairs
  | [] => [(key, value)]
  | (other, old) :: rest =>
    if other.equal true key then (other, value) :: rest else (other, old) :: putPair key value rest

/-- The map of some entries. -/
def mapOf (pairs : Pairs) : Value :=
  let distinct := pairs.foldl (fun made pair => putPair pair.1 pair.2 made) []
  .map (Entries.ofList (distinct.map fun pair => (keyName pair.1, pair.2)))

mutual
/-- The text of a node in the place of a scalar. -/
def Content.text? : Content → Option Text
  | .scalar _ s => some s
  | .list .. => none
  | .map _ entries => entriesText? entries

/-- The text under the key `=`. -/
def entriesText? : List (Content × Content) → Option Text
  | [] => none
  | (key, value) :: rest =>
    if key.tag = .scalar .value then value.text? else entriesText? rest
end

/-- The entries of a map: those of its merge keys, and its own. -/
structure Parts where
  merged : Pairs
  own : Pairs

/-- The entries of a map in the order in which they are put into it. -/
def Parts.all (parts : Parts) : Pairs :=
  parts.merged ++ parts.own

/-- The value of a scalar, if there is one. -/
def scalarOr (tag : Tag) : Option Text → Except ReadError Value
  | some s => scalarValue tag s
  | none => .error .malformed

mutual
/-- The value of a node. -/
def Content.value : Content → Except ReadError Value
  | .scalar tag s => scalarValue tag s
  | .list tag items =>
    match tag with
    | .list => do return .list (← itemValues items)
    | .pairs => do return .list (← pairValues items)
    | _ => .error .malformed
  | .map tag entries =>
    match tag with
    | .map => do return mapOf (← entryParts entries).all
    | .set => do
      let _ ← entryParts entries
      throw .notData
    | tag => scalarOr tag (entriesText? entries)

/-- The values of the items of a list. -/
def itemValues : List Content → Except ReadError (List Value)
  | [] => .ok []
  | item :: rest => do
    let first ← item.value
    return first :: (← itemValues rest)

/-- The pairs of a list of maps of one entry each. -/
def pairValues : List Content → Except ReadError (List Value)
  | [] => .ok []
  | item :: rest => do
    let first ← item.pairValue
    return first :: (← pairValues rest)

/-- The key and the value of a map of one entry. -/
def Content.pairValue : Content → Except ReadError Value
  | .map _ [(key, value)] => do return .list [← key.value, ← value.value]
  | _ => .error .malformed

/-- The entries of a map. A key `=` is read as that text. -/
def entryParts : List (Content × Content) → Except ReadError Parts
  | [] => .ok ⟨[], []⟩
  | (key, value) :: rest =>
    if key.tag = .scalar .merge then do
      let added ← value.mergedEntries
      let parts ← entryParts rest
      return { parts with merged := added ++ parts.merged }
    else do
      let key ← if key.tag = .scalar .value then scalarOr (.scalar .text) key.text? else key.value
      if !isKey key then throw .malformed
      let first ← value.value
      let parts ← entryParts rest
      return { parts with own := (key, first) :: parts.own }

/-- The entries that a node adds under a merge key: those of a map, or of the maps of a list, of which
the first ones win. -/
def Content.mergedEntries : Content → Except ReadError Pairs
  | .map _ entries => do return (← entryParts entries).all
  | .list _ items => itemEntries items
  | .scalar .. => .error .malformed

/-- The entries of the maps of a list, the last map first. -/
def itemEntries : List Content → Except ReadError Pairs
  | [] => .ok []
  | item :: rest => do
    let first ← item.ownEntries
    return (← itemEntries rest) ++ first

/-- The entries of a node that is a map. -/
def Content.ownEntries : Content → Except ReadError Pairs
  | .map _ entries => do return (← entryParts entries).all
  | _ => .error .malformed
end

/-- The value of a YAML text that holds one document. An empty text is null. -/
def read (s : Text) : Except ReadError Value := do
  match ← document? (lexemes s) with
  | some document => document.value
  | none => return .null

/-- The codec of the program. -/
instance : Codec where
  dump := write
  load := read

end Mixfix.Yaml
