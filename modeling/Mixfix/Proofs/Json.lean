import Mixfix.Json.Reader
import Mixfix.Json.Writer
import Mixfix.Proofs.Entries
import Mixfix.Proofs.Except

/-!
# Data

Data are the values that JSON has a notation for. Reading a JSON text gives data (`Json.isData_of_read`), and
data can be written, unless an integer in it is too long (`Json.writeAt_eq_error`).
-/

set_option autoImplicit false

namespace Mixfix

/-- A value without undefined parts and nodes. -/
inductive Value.IsData : Value → Prop
  | null : IsData .null
  | bool (b : Bool) : IsData (.bool b)
  | int (n : Int) : IsData (.int n)
  | float (x : Float) : IsData (.float x)
  | nan (occurrence : Occurrence) : IsData (.nan occurrence)
  | str (s : Text) : IsData (.str s)
  | list {items : List Value} : (∀ v ∈ items, IsData v) → IsData (.list items)
  | map {entries : List (Text × Value)} : (∀ entry ∈ entries, IsData entry.2) → IsData (.map entries)

namespace Json

/-! ## Writing -/

section

variable {layout : Layout} {depth : Nat} {e : WriteError}

/-- Items fail to be written where one of them does. -/
theorem writeItems_eq_error {items : List Value} (h : writeItems layout depth items = .error e) :
    ∃ v ∈ items, writeAt layout depth v = .error e := by
  induction items with
  | nil => cases h
  | cons v items ih =>
    rw [writeItems] at h
    rcases bind_eq_error.mp h with hfirst | ⟨first, -, h⟩
    · exact ⟨v, List.mem_cons_self, hfirst⟩
    · rcases bind_eq_error.mp h with hrest | ⟨others, -, h⟩
      · obtain ⟨w, hw, hfails⟩ := ih hrest
        exact ⟨w, List.mem_cons_of_mem _ hw, hfails⟩
      · cases h

/-- Entries fail to be written where the value of one of them does. -/
theorem writeEntries_eq_error {entries : List (Text × Value)}
    (h : writeEntries layout depth entries = .error e) :
    ∃ entry ∈ entries, writeAt layout depth entry.2 = .error e := by
  induction entries with
  | nil => cases h
  | cons entry entries ih =>
    rw [writeEntries] at h
    rcases bind_eq_error.mp h with hfirst | ⟨first, -, h⟩
    · exact ⟨entry, List.mem_cons_self, hfirst⟩
    · rcases bind_eq_error.mp h with hrest | ⟨others, -, h⟩
      · obtain ⟨other, hother, hfails⟩ := ih hrest
        exact ⟨other, List.mem_cons_of_mem _ hother, hfails⟩
      · cases h

/-- **Data is written**, unless an integer in it is too long. -/
theorem writeAt_eq_error {v : Value} (hv : v.IsData) (h : writeAt layout depth v = .error e) :
    e = .tooManyDigits := by
  induction hv generalizing depth with
  | null | bool | float | nan | str =>
    rw [writeAt] at h
    cases h
  | int n =>
    rw [writeAt, writeInteger] at h
    split at h
    · cases h
    · cases h
      rfl
  | list _ ih =>
    rw [writeAt] at h
    rcases bind_eq_error.mp h with h | ⟨written, -, h⟩
    · obtain ⟨v, hv, hfails⟩ := writeItems_eq_error h
      exact ih v hv hfails
    · cases h
  | map _ ih =>
    rw [writeAt] at h
    rcases bind_eq_error.mp h with h | ⟨written, -, h⟩
    · obtain ⟨entry, hentry, hfails⟩ := writeEntries_eq_error h
      exact ih entry hentry hfails
    · cases h

end

/-! ## Reading -/

variable {s rest : Text} {v : Value}

theorem isData_of_unsigned {negative : Bool} (h : unsigned negative s = .ok (v, rest)) : v.IsData := by
  unfold unsigned at h
  split at h
  · cases h
  · dsimp only at h
    split at h
    · split at h
      · cases h
        exact .int _
      · cases h
    · cases h
      exact .float _

theorem isData_of_mem_words {entry : Text × Value} (h : entry ∈ words) : entry.2.IsData := by
  simp only [words, List.mem_cons, List.not_mem_nil, or_false] at h
  rcases h with rfl | rfl | rfl | rfl | rfl | rfl
  · exact .null
  · exact .bool true
  · exact .bool false
  · exact .nan .json
  · exact .float _
  · exact .float _

theorem isData_of_scalar (h : scalar s = .ok (v, rest)) : v.IsData := by
  unfold scalar at h
  split at h
  · rename_i reading hword
    obtain ⟨entry, hentry, hread⟩ := List.exists_of_findSome?_eq_some hword
    obtain ⟨left, -, rfl⟩ := Option.map_eq_some_iff.mp hread
    cases h
    exact isData_of_mem_words hentry
  · split at h
    · exact isData_of_unsigned h
    · exact isData_of_unsigned h

/-- What a fuel reads: values, items of lists and entries of objects. -/
structure ReadsData (fuel : Nat) : Prop where
  value : ∀ {s v rest}, readValue fuel s = .ok (v, rest) → v.IsData
  items : ∀ {s values rest}, readItems fuel s = .ok (values, rest) → ∀ v ∈ values, v.IsData
  entries : ∀ {s entries rest}, readEntries fuel s = .ok (entries, rest) →
    ∀ entry ∈ entries, Value.IsData entry.2

theorem readsData_zero : ReadsData 0 where
  value h := by cases h
  items h := by cases h
  entries h := by cases h

namespace ReadsData

variable {fuel : Nat}

theorem value_succ (ih : ReadsData fuel) (h : readValue (fuel + 1) s = .ok (v, rest)) : v.IsData := by
  cases s with
  | nil => cases h
  | cons c s =>
    unfold readValue at h
    split at h
    · obtain ⟨⟨text, _⟩, -, h⟩ := bind_eq_ok.mp h
      cases h
      exact .str text
    · split at h
      · split at h
        · cases h
        · split at h
          · cases h
            exact .list fun v hv => absurd hv List.not_mem_nil
          · obtain ⟨⟨values, _⟩, hitems, h⟩ := bind_eq_ok.mp h
            cases h
            exact .list (ih.items hitems)
      · split at h
        · split at h
          · cases h
          · split at h
            · cases h
              exact .map fun entry hentry => absurd hentry List.not_mem_nil
            · obtain ⟨⟨entries, _⟩, hentries, h⟩ := bind_eq_ok.mp h
              cases h
              exact .map fun entry hentry => ih.entries hentries entry (Entries.mem_of_mem_ofList hentry)
        · exact isData_of_scalar h

theorem items_succ (ih : ReadsData fuel) {values : List Value}
    (h : readItems (fuel + 1) s = .ok (values, rest)) : ∀ v ∈ values, v.IsData := by
  unfold readItems at h
  obtain ⟨⟨first, left⟩, hfirst, h⟩ := bind_eq_ok.mp h
  have hdata := ih.value hfirst
  dsimp only at h
  split at h
  · cases h
  · split at h
    · cases h
      exact List.forall_mem_singleton.mpr hdata
    · split at h
      · obtain ⟨⟨others, _⟩, hothers, h⟩ := bind_eq_ok.mp h
        cases h
        exact List.forall_mem_cons.mpr ⟨hdata, ih.items hothers⟩
      · cases h

theorem entries_succ (ih : ReadsData fuel) {entries : List (Text × Value)}
    (h : readEntries (fuel + 1) s = .ok (entries, rest)) : ∀ entry ∈ entries, Value.IsData entry.2 := by
  cases s with
  | nil => cases h
  | cons q s =>
    unfold readEntries at h
    split at h
    · cases h
    · obtain ⟨⟨key, left⟩, -, h⟩ := bind_eq_ok.mp h
      dsimp only at h
      split at h
      · cases h
      · split at h
        · cases h
        · obtain ⟨⟨first, left⟩, hfirst, h⟩ := bind_eq_ok.mp h
          have hdata := ih.value hfirst
          dsimp only at h
          split at h
          · cases h
          · split at h
            · cases h
              exact List.forall_mem_singleton.mpr hdata
            · split at h
              · obtain ⟨⟨others, _⟩, hothers, h⟩ := bind_eq_ok.mp h
                cases h
                exact List.forall_mem_cons.mpr ⟨hdata, ih.entries hothers⟩
              · cases h

end ReadsData

theorem readsData (fuel : Nat) : ReadsData fuel := by
  induction fuel with
  | zero => exact readsData_zero
  | succ fuel ih => exact ⟨ih.value_succ, ih.items_succ, ih.entries_succ⟩

/-- **A JSON text is data.** -/
theorem isData_of_read (h : read s = .ok v) : v.IsData := by
  unfold read at h
  obtain ⟨⟨value, rest⟩, hvalue, h⟩ := bind_eq_ok.mp h
  dsimp only at h
  split at h
  · cases h
    exact (readsData _).value hvalue
  · cases h

end Json

end Mixfix
