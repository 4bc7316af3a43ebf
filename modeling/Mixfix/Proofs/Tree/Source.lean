import Mixfix.Proofs.Entries
import Mixfix.Proofs.Except
import Mixfix.Tree.Document

/-!
# Source texts that cannot be made up

A literal that comes without its source text gets one from its value. That fails for an integer with too many digits,
and so does a source text that is given as such an integer. Nothing else keeps a document from being read but what is
wrong with its shape: where there is no such integer in a document, it is read or it is invalid
(`not_convertible_of_ofDocument`).
-/

set_option autoImplicit false

namespace Mixfix

theorem convertibleEntries_eq_all (entries : List (Text × Value)) :
    convertibleEntries entries = entries.all fun entry => entry.2.convertible := by
  induction entries with
  | nil => rfl
  | cons entry entries ih => rw [convertibleEntries, List.all_cons, ih]

namespace Tree

variable {value : Value} {entries : List (Text × Value)}

/-- A map is not convertible where an entry is not. -/
theorem not_convertible_of_find? {name : Text} (hfind : Entries.find? name entries = some value)
    (h : value.convertible = false) : convertibleEntries entries = false := by
  rw [convertibleEntries_eq_all, List.all_eq_false]
  exact ⟨_, Entries.mem_of_find? hfind, by simp [h]⟩

theorem not_convertible_of_plainSource (h : plainSource value = .error .tooManyDigits) :
    value.convertible = false := by
  unfold plainSource at h
  split at h
  · cases h
  · rename_i hconvertible
    exact Bool.not_eq_true _ ▸ hconvertible

theorem not_convertible_of_literalSource (h : literalSource value = .error .tooManyDigits) :
    value.convertible = false := by
  unfold literalSource at h
  split at h
  · cases h
  · split at h
    · cases h
    · exact not_convertible_of_plainSource h

/-- The heading of a map needs source texts only for what is in the map. -/
theorem not_convertible_of_headingOf (h : headingOf entries = .error .tooManyDigits) :
    convertibleEntries entries = false := by
  unfold headingOf at h
  dsimp only at h
  split at h
  · split at h
    · rcases bind_eq_error.mp (map_eq_error.mp h) with hvalue | ⟨value, hvalue, h⟩
      · unfold valueOf at hvalue
        split at hvalue
        · cases hvalue
        · split at hvalue <;> cases hvalue
      · rcases bind_eq_error.mp h with hsource | ⟨raw, -, h⟩
        · unfold sourceOf at hsource
          unfold valueOf at hvalue
          split at hvalue
          · rename_i given hgiven
            cases hvalue
            split at hsource
            · exact not_convertible_of_find? hgiven (not_convertible_of_literalSource hsource)
            · exact not_convertible_of_find? hgiven (not_convertible_of_literalSource hsource)
            · rename_i hraw
              exact not_convertible_of_find? hraw (not_convertible_of_plainSource hsource)
          · split at hvalue <;> cases hvalue
            split at hsource
            · cases hsource
            · cases hsource
            · rename_i hraw
              exact not_convertible_of_find? hraw (not_convertible_of_plainSource hsource)
        · cases h
    · split at h
      · split at h <;> cases h
      · split at h <;> cases h
  · cases h

mutual

theorem not_convertible_of_fieldValue (value : Value) (h : fieldValue value = .error .tooManyDigits) :
    value.convertible = false := by
  cases value with
  | map entries =>
    rw [fieldValue] at h
    rw [Value.convertible]
    split at h
    · rcases bind_eq_error.mp h with hheading | ⟨heading, -, h⟩
      · exact not_convertible_of_headingOf hheading
      · cases heading with
        | leaf node => cases h
        | composite rule schema =>
          rcases bind_eq_error.mp h with hfields | ⟨fields, -, h⟩
          · exact not_convertible_of_fieldsOf entries hfields
          · cases h
    · cases h
  | list items =>
    rw [fieldValue] at h
    rw [Value.convertible]
    rcases bind_eq_error.mp h with hitems | ⟨values, -, h⟩
    · exact not_convertible_of_itemsOf items hitems
    · cases h
  | _ => cases h

theorem not_convertible_of_itemsOf (items : List Value) (h : itemsOf items = .error .tooManyDigits) :
    convertibleItems items = false := by
  cases items with
  | nil => cases h
  | cons value items =>
    rw [itemsOf] at h
    rw [convertibleItems, Bool.and_eq_false_iff]
    rcases bind_eq_error.mp h with hvalue | ⟨first, -, h⟩
    · exact .inl (not_convertible_of_fieldValue value hvalue)
    · rcases bind_eq_error.mp h with hitems | ⟨rest, -, h⟩
      · exact .inr (not_convertible_of_itemsOf items hitems)
      · cases h

theorem not_convertible_of_fieldsOf (entries : List (Text × Value)) (h : fieldsOf entries = .error .tooManyDigits) :
    convertibleEntries entries = false := by
  cases entries with
  | nil => cases h
  | cons entry entries =>
    rw [fieldsOf] at h
    rw [convertibleEntries, Bool.and_eq_false_iff]
    split at h
    · exact .inr (not_convertible_of_fieldsOf entries h)
    · rcases bind_eq_error.mp h with hvalue | ⟨first, -, h⟩
      · exact .inl (not_convertible_of_fieldValue entry.2 hvalue)
      · rcases bind_eq_error.mp h with hfields | ⟨rest, -, h⟩
        · exact .inr (not_convertible_of_fieldsOf entries hfields)
        · cases h

end

/-- **A document that is not read for its digits** has an integer with too many of them. -/
theorem not_convertible_of_ofDocument (h : ofDocument value = .error .tooManyDigits) :
    value.convertible = false := by
  cases value with
  | map entries =>
    rw [ofDocument] at h
    rcases bind_eq_error.mp h with hheading | ⟨heading, -, h⟩
    · exact not_convertible_of_headingOf hheading
    · cases heading with
      | leaf node => cases h
      | composite rule schema =>
        rcases bind_eq_error.mp h with hfields | ⟨fields, -, h⟩
        · exact not_convertible_of_fieldsOf entries hfields
        · cases h
  | _ => cases h

end Tree

end Mixfix
