import Mixfix.Text

/-!
# Entries

A finite map from names, written as the list of its entries in the order in which the names came.
Putting a value under a name that is there keeps the place of the name, so the last value wins and
the first place stays.
-/

set_option autoImplicit false

namespace Mixfix

/-- A map from names as the list of its entries. -/
abbrev Entries (α : Type) := List (Text × α)

namespace Entries

variable {α β : Type}

/-- The value under a name. -/
def find? (name : Text) : Entries α → Option α
  | [] => none
  | (key, value) :: rest => if key = name then some value else find? name rest

/-- Whether there is an entry of a name. -/
def has (name : Text) (entries : Entries α) : Bool :=
  (find? name entries).isSome

/-- Puts a value under a name: in the place of the entry of that name, or at the end. -/
def put (name : Text) (value : α) : Entries α → Entries α
  | [] => [(name, value)]
  | (key, old) :: rest => if key = name then (name, value) :: rest else (key, old) :: put name value rest

/-- The entries of other names. -/
def erase (name : Text) (entries : Entries α) : Entries α :=
  entries.filter fun entry => !(entry.1 == name)

/-- The names in order. -/
def names (entries : Entries α) : List Text :=
  entries.map Prod.fst

/-- Puts every entry of a list in turn. -/
def putAll (base added : Entries α) : Entries α :=
  added.foldl (fun entries entry => put entry.1 entry.2 entries) base

/-- The map that a list of entries describes, the last of one name winning. -/
def ofList (entries : List (Text × α)) : Entries α :=
  putAll [] entries

end Entries

end Mixfix
