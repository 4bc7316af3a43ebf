import Mathlib.Data.List.Nodup
import Mixfix.Text

/-!
# Ascending lists of texts

`Text.sortedSet` ascends (`Text.pairwise_sortedSet`) and has the texts of its list
(`Text.mem_sortedSet`). In an ascending list no text occurs twice, and its texts tell the list
(`Text.eq_of_pairwise`).
-/

set_option autoImplicit false

namespace Mixfix

namespace Text

/-- Texts are compared in one way or the other. -/
theorem lt_of_not_lt_of_ne {s t : Text} (h : ¬ s < t) (hne : s ≠ t) : t < s :=
  (Std.lt_trichotomy s t).resolve_left h |>.resolve_left hne

theorem mem_insertSorted {s t : Text} {texts : List Text} :
    t ∈ insertSorted s texts ↔ t = s ∨ t ∈ texts := by
  induction texts with
  | nil => simp [insertSorted]
  | cons first texts ih =>
    unfold insertSorted
    split
    · simp
    · split
      · rename_i heq
        simp [heq]
      · rw [List.mem_cons, ih, List.mem_cons]
        exact or_left_comm

theorem pairwise_insertSorted {s : Text} {texts : List Text} (h : texts.Pairwise (· < ·)) :
    (insertSorted s texts).Pairwise (· < ·) := by
  induction texts with
  | nil => exact List.pairwise_singleton _ _
  | cons first texts ih =>
    obtain ⟨hfirst, hrest⟩ := List.pairwise_cons.mp h
    unfold insertSorted
    split
    · rename_i hlt
      refine List.pairwise_cons.mpr ⟨fun t ht => ?_, h⟩
      rcases List.mem_cons.mp ht with rfl | ht
      · exact hlt
      · exact List.lt_trans hlt (hfirst t ht)
    · split
      · exact h
      · rename_i hlt hne
        refine List.pairwise_cons.mpr ⟨fun t ht => ?_, ih hrest⟩
        rcases mem_insertSorted.mp ht with rfl | ht
        · exact lt_of_not_lt_of_ne hlt hne
        · exact hfirst t ht

/-- The sorted set has the texts of the list. -/
@[simp] theorem mem_sortedSet {t : Text} {texts : List Text} : t ∈ sortedSet texts ↔ t ∈ texts := by
  induction texts with
  | nil => exact Iff.rfl
  | cons s texts ih =>
    change t ∈ insertSorted s (sortedSet texts) ↔ t ∈ s :: texts
    rw [mem_insertSorted, ih, List.mem_cons]

/-- The sorted set ascends. -/
theorem pairwise_sortedSet (texts : List Text) : (sortedSet texts).Pairwise (· < ·) := by
  induction texts with
  | nil => exact List.Pairwise.nil
  | cons s texts ih => exact pairwise_insertSorted ih

/-- In an ascending list no text occurs twice. -/
theorem nodup_of_pairwise {texts : List Text} (h : texts.Pairwise (· < ·)) : texts.Nodup :=
  h.imp fun {s t} hlt (heq : s = t) => List.lt_irrefl t (heq ▸ hlt)

/-- Two ascending lists of the same texts are one list. -/
theorem eq_of_pairwise {texts others : List Text} (h : texts.Pairwise (· < ·)) (h' : others.Pairwise (· < ·))
    (hmem : ∀ t, t ∈ texts ↔ t ∈ others) : texts = others := by
  have hperm : texts.Perm others :=
    (List.perm_ext_iff_of_nodup (nodup_of_pairwise h) (nodup_of_pairwise h')).mpr hmem
  apply hperm.eq_of_pairwise _ h h'
  intro s t _ _ hlt hgt
  exact absurd hgt (List.lt_asymm hlt)

/-- Where no text occurs twice, the sorted set leaves out none. -/
theorem length_sortedSet {texts : List Text} (h : texts.Nodup) : (sortedSet texts).length = texts.length := by
  have hsorted : (sortedSet texts).Nodup := nodup_of_pairwise (pairwise_sortedSet texts)
  have hperm : (sortedSet texts).Perm texts :=
    (List.perm_ext_iff_of_nodup hsorted h).mpr fun _ => mem_sortedSet
  exact hperm.length_eq

end Text

end Mixfix
