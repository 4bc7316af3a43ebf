import Mathlib.Data.List.Nodup
import Mixfix.Entries

/-!
# Maps of names

What is put under a name is found there (`find?_put`), and what is found is the value of an entry
(`mem_of_find?`).

Entries whose names differ describe themselves: to put them one after the other keeps their list, and a
name is looked up to the value that stands beside it.
-/

set_option autoImplicit false

namespace Mixfix

namespace Entries

variable {α β : Type}

/-- A value that is put is found under its name, and nothing changes under the others. -/
theorem find?_put (name : Text) (value : α) (key : Text) (entries : Entries α) :
    (entries.put name value).find? key = if name = key then some value else entries.find? key := by
  induction entries with
  | nil => rfl
  | cons entry entries ih =>
    obtain ⟨first, old⟩ := entry
    unfold put
    by_cases hfirst : first = name
    · subst hfirst
      by_cases hkey : first = key <;> simp [find?, hkey]
    · rw [if_neg hfirst]
      by_cases hkey : first = key
      · have hname : name ≠ key := fun heq => hfirst (hkey.trans heq.symm)
        simp [find?, hkey, hname]
      · simp only [find?, if_neg hkey, ih]

/-- Where every value is mapped, so is what is found. -/
theorem find?_map (f : α → β) (name : Text) (entries : Entries α) :
    find? name (entries.map fun entry => (entry.1, f entry.2)) = (entries.find? name).map f := by
  induction entries with
  | nil => rfl
  | cons entry entries ih =>
    obtain ⟨key, value⟩ := entry
    by_cases hkey : key = name <;> simp [find?, hkey, ih]

/-- What is found is the value of an entry. -/
theorem mem_of_find? {name : Text} {value : α} {entries : Entries α} (h : entries.find? name = some value) :
    (name, value) ∈ entries := by
  induction entries with
  | nil => cases h
  | cons entry entries ih =>
    obtain ⟨key, first⟩ := entry
    unfold find? at h
    split at h
    · rename_i hkey
      cases h
      exact hkey ▸ List.mem_cons_self
    · exact List.mem_cons_of_mem _ (ih h)

/-- Nothing is found under a name that no entry has. -/
theorem find?_eq_none {name : Text} {entries : Entries α} :
    entries.find? name = none ↔ name ∉ entries.names := by
  induction entries with
  | nil => simp [find?, names]
  | cons entry entries ih =>
    obtain ⟨key, value⟩ := entry
    change find? name ((key, value) :: entries) = none ↔ name ∉ key :: Entries.names entries
    rw [find?, List.mem_cons, not_or, ← ih]
    by_cases hkey : key = name
    · simp [hkey]
    · simp [hkey, Ne.symm hkey]

/-- An erased name is not found, and nothing changes under the others. -/
theorem find?_erase (name key : Text) (entries : Entries α) :
    (Entries.erase name entries).find? key = if name = key then none else entries.find? key := by
  induction entries with
  | nil => exact (ite_self none).symm
  | cons entry entries ih =>
    obtain ⟨first, value⟩ := entry
    by_cases hfirst : first = name
    · subst hfirst
      have hskip : erase first ((first, value) :: entries) = erase first entries := by simp [erase]
      rw [hskip, ih]
      by_cases hkey : first = key <;> simp [find?, hkey]
    · have hkeep : erase name ((first, value) :: entries) = (first, value) :: erase name entries := by
        simp [erase, hfirst]
      rw [hkeep, find?, find?, ih]
      by_cases hkey : first = key
      · rw [if_pos hkey, if_pos hkey, if_neg fun heq => hfirst (hkey.trans heq.symm)]
      · rw [if_neg hkey, if_neg hkey]

/-- An entry after something was put is that or was there before. -/
theorem mem_put {name : Text} {value : α} {entries : Entries α} {entry : Text × α}
    (h : entry ∈ entries.put name value) : entry = (name, value) ∨ entry ∈ entries := by
  induction entries with
  | nil => exact .inl (List.mem_singleton.mp h)
  | cons first entries ih =>
    obtain ⟨key, old⟩ := first
    unfold put at h
    split at h
    · exact (List.mem_cons.mp h).imp_right (List.mem_cons_of_mem _)
    · rcases List.mem_cons.mp h with h | h
      · exact .inr (h ▸ List.mem_cons_self)
      · exact (ih h).imp_right (List.mem_cons_of_mem _)

/-- An entry after others were put is one of these or was there before. -/
theorem mem_putAll {base added : Entries α} {entry : Text × α} (h : entry ∈ base.putAll added) :
    entry ∈ added ∨ entry ∈ base := by
  induction added generalizing base with
  | nil => exact .inr h
  | cons first added ih =>
    rcases @ih (base.put first.1 first.2) h with h | h
    · exact .inl (List.mem_cons_of_mem _ h)
    · rcases mem_put h with rfl | h
      · exact .inl List.mem_cons_self
      · exact .inr h

/-- The entries of a map are among those that describe it. -/
theorem mem_of_mem_ofList {entries : List (Text × α)} {entry : Text × α} (h : entry ∈ ofList entries) :
    entry ∈ entries :=
  (mem_putAll h).resolve_right List.not_mem_nil

/-- What is put under a new name goes to the end. -/
theorem put_of_not_mem {name : Text} {value : α} {entries : Entries α} (h : name ∉ entries.names) :
    entries.put name value = entries ++ [(name, value)] := by
  induction entries with
  | nil => rfl
  | cons entry entries ih =>
    obtain ⟨key, old⟩ := entry
    have hkey : key ≠ name := fun heq => h (heq ▸ List.mem_cons_self)
    rw [put, if_neg hkey, ih fun hmem => h (List.mem_cons_of_mem _ hmem)]
    rfl

theorem names_put_of_not_mem {name : Text} {entries : Entries α} (h : name ∉ entries.names) (value : α) :
    (entries.put name value).names = entries.names ++ [name] := by
  rw [put_of_not_mem h]
  exact List.map_append

/-- Names stay distinct where something is put under a new one. -/
theorem nodup_names_put {name : Text} {entries : Entries α} (h : entries.names.Nodup)
    (hnew : name ∉ entries.names) (value : α) : (entries.put name value).names.Nodup := by
  rw [names_put_of_not_mem hnew]
  exact List.nodup_append_comm.mp (List.nodup_cons.mpr ⟨hnew, h⟩)

/-- Names stay distinct where one is erased. -/
theorem nodup_names_erase {entries : Entries α} (h : entries.names.Nodup) (name : Text) :
    (names (erase name entries)).Nodup :=
  h.sublist (List.filter_sublist.map Prod.fst)

/-- Entries of new and distinct names go to the end in their order. -/
theorem putAll_of_nodup {base added : Entries α} (h : (base ++ added).names.Nodup) :
    base.putAll added = base ++ added := by
  induction added generalizing base with
  | nil => exact (List.append_nil base).symm
  | cons entry added ih =>
    have hnew : entry.1 ∉ base.names := by
      rw [names, List.map_append, List.map_cons] at h
      exact fun hmem => List.disjoint_of_nodup_append h hmem List.mem_cons_self
    have hsplit : base ++ entry :: added = (base ++ [entry]) ++ added := by
      rw [List.append_assoc, List.singleton_append]
    rw [hsplit] at h ⊢
    rw [← ih h, ← put_of_not_mem hnew]
    rfl

/-- Entries of distinct names are their own map. -/
theorem ofList_of_nodup {entries : List (Text × α)} (h : (names entries).Nodup) :
    ofList entries = entries :=
  putAll_of_nodup h

/-- What is looked up is the value of an entry, the only one of its name. -/
theorem find?_eq_some {name : Text} {value : α} {entries : Entries α} (h : entries.names.Nodup) :
    entries.find? name = some value ↔ (name, value) ∈ entries := by
  induction entries with
  | nil => simp [find?]
  | cons entry entries ih =>
    obtain ⟨key, first⟩ := entry
    obtain ⟨hkey, hrest⟩ := List.nodup_cons.mp h
    unfold find?
    by_cases heq : key = name
    · subst heq
      have hnot : (key, value) ∉ entries := fun hmem => hkey (List.mem_map.mpr ⟨_, hmem, rfl⟩)
      simp [hnot, eq_comm]
    · rw [if_neg heq, ih hrest, List.mem_cons, Prod.mk.injEq]
      exact (or_iff_right fun hpair => heq hpair.1.symm).symm

/-- Where names differ, one name has one value. -/
theorem eq_of_mem {name : Text} {value other : α} {entries : Entries α} (h : entries.names.Nodup)
    (hvalue : (name, value) ∈ entries) (hother : (name, other) ∈ entries) : value = other := by
  rw [← find?_eq_some h] at hvalue hother
  rw [hvalue] at hother
  exact Option.some.inj hother

end Entries

end Mixfix
