import Mathlib.Algebra.GroupWithZero.Nat
import Mixfix.Proofs.Source

/-!
# Positions and offsets

The line and the column of an offset lead back to the offset: it is as far behind the lines before its own, each
counted with its line feed, as the column says (`SourcePosition.locates_ofOffset`). The column does not go beyond the
end of the line. So a later offset has a later position, and no two offsets of a text share one
(`SourcePosition.Locates.precedes`).
-/

set_option autoImplicit false

namespace Mixfix

namespace Text

/-! ## Parts between separators -/

section

variable {c : CodePoint}

theorem splitOn_ne_nil (s : Text) : splitOn c s ≠ [] := by
  cases s with
  | nil => exact List.cons_ne_nil _ _
  | cons d s =>
    unfold splitOn
    split
    · exact List.cons_ne_nil _ _
    · split <;> exact List.cons_ne_nil _ _

theorem splitOn_cons_self (s : Text) : splitOn c (c :: s) = [] :: splitOn c s := by
  rw [splitOn, if_pos rfl]

theorem splitOn_cons_of_ne {d : CodePoint} (h : d ≠ c) (s : Text) :
    splitOn c (d :: s) = (splitOn c s).modifyHead (d :: ·) := by
  rw [splitOn, if_neg h]
  cases hs : splitOn c s with
  | nil => exact absurd hs (splitOn_ne_nil s)
  | cons first parts => rfl

/-- The parts around a separator are those before it and those after it. -/
theorem splitOn_append_cons (s t : Text) : splitOn c (s ++ c :: t) = splitOn c s ++ splitOn c t := by
  induction s with
  | nil => exact splitOn_cons_self t
  | cons d s ih =>
    rw [List.cons_append]
    by_cases hd : d = c
    · subst hd
      rw [splitOn_cons_self, splitOn_cons_self, ih, List.cons_append]
    · obtain ⟨first, parts, hs⟩ := List.exists_cons_of_ne_nil (splitOn_ne_nil (c := c) s)
      rw [splitOn_cons_of_ne hd, splitOn_cons_of_ne hd, ih, hs]
      rfl

/-- A front without separators belongs to the first part. -/
theorem splitOn_append_of_not_mem {front : Text} (h : c ∉ front) (t : Text) :
    splitOn c (front ++ t) = (splitOn c t).modifyHead (front ++ ·) := by
  induction front with
  | nil =>
    obtain ⟨first, parts, ht⟩ := List.exists_cons_of_ne_nil (splitOn_ne_nil (c := c) t)
    rw [List.nil_append, ht]
    rfl
  | cons d front ih =>
    rw [List.mem_cons, not_or] at h
    rw [List.cons_append, splitOn_cons_of_ne (Ne.symm h.1), ih h.2, List.modifyHead_modifyHead]
    rfl

theorem length_splitOn (s : Text) : (splitOn c s).length = s.count c + 1 := by
  induction s with
  | nil => rfl
  | cons d s ih =>
    by_cases hd : d = c
    · subst hd
      rw [splitOn_cons_self, List.length_cons, ih, List.count_cons_self]
    · rw [splitOn_cons_of_ne hd, List.length_modifyHead, ih, List.count_cons_of_ne hd]

/-- The parts are as long as the text together, with one more for each separator. -/
theorem sum_splitOn (s : Text) : ((splitOn c s).map fun part => part.length + 1).sum = s.length + 1 := by
  induction s with
  | nil => rfl
  | cons d s ih =>
    by_cases hd : d = c
    · subst hd
      rw [splitOn_cons_self, List.map_cons, List.sum_cons, ih, List.length_cons, List.length_nil]
      omega
    · rw [splitOn_cons_of_ne hd, List.length_cons, ← ih]
      obtain ⟨first, parts, hs⟩ := List.exists_cons_of_ne_nil (splitOn_ne_nil (c := c) s)
      rw [hs]
      simp only [List.modifyHead_cons, List.map_cons, List.sum_cons, List.length_cons]
      omega

end

/-! ## Lines -/

/-- The lines of a text, without their line feeds. -/
def lines (s : Text) : List Text :=
  splitOn (CodePoint.ofChar '\n') s

/-- The length of the first lines of a text, with their line feeds. -/
def lengthOfLines (s : Text) (count : Nat) : Nat :=
  ((s.lines.take count).map fun line => line.length + 1).sum

theorem lengthOfLines_succ {s line : Text} {count : Nat} (h : s.lines[count]? = some line) :
    s.lengthOfLines (count + 1) = s.lengthOfLines count + (line.length + 1) := by
  unfold lengthOfLines
  rw [List.take_add_one, h]
  simp

theorem lengthOfLines_mono (s : Text) {count more : Nat} (h : count ≤ more) :
    s.lengthOfLines count ≤ s.lengthOfLines more := by
  unfold lengthOfLines
  obtain ⟨extra, rfl⟩ := Nat.exists_eq_add_of_le h
  rw [List.take_add, List.map_append, List.sum_append]
  exact Nat.le_add_right _ _

/-- Whole lines at the front of a text are its first lines. -/
theorem exists_lines_append {whole : Text} (h : whole = [] ∨ whole.getLast? = some (CodePoint.ofChar '\n'))
    (t : Text) :
    ∃ first : List Text, lines (whole ++ t) = first ++ lines t ∧
      first.length = whole.count (CodePoint.ofChar '\n') ∧
      (first.map fun line => line.length + 1).sum = whole.length := by
  rcases h with rfl | hlast
  · exact ⟨[], rfl, rfl, rfl⟩
  · obtain ⟨front, rfl⟩ := List.getLast?_eq_some_iff.mp hlast
    refine ⟨lines front, ?_, ?_, ?_⟩
    · rw [List.append_assoc]
      exact splitOn_append_cons front t
    · rw [lines, length_splitOn, List.count_append, List.count_singleton_self]
    · rw [lines, sum_splitOn, List.length_append, List.length_singleton]

end Text

namespace SourcePosition

/-- A position is where an offset of a text is: its line is there and reaches as far as its column, and the offset is
this far behind the lines before. -/
structure Locates (s : Text) (offset : Nat) (position : SourcePosition) : Prop where
  line_pos : 1 ≤ position.line
  column_pos : 1 ≤ position.column
  inside : ∃ line, s.lines[position.line - 1]? = some line ∧ position.column - 1 ≤ line.length
  offset_eq : (offset : Int) = s.lengthOfLines (position.line - 1) + (position.column - 1)

/-- A position is on an earlier line than another one, or further in front on the same line. -/
def Precedes (a b : SourcePosition) : Prop :=
  a.line < b.line ∨ a.line = b.line ∧ a.column < b.column

variable {s : Text}

/-- The line and the column of an offset lead back to it. -/
theorem locates_ofOffset {offset : Nat} (h : offset ≤ s.length) : Locates s offset (ofOffset s offset) := by
  obtain ⟨whole, front, hsplit, hwhole, hfront, hline, hcolumn⟩ := exists_lines h
  obtain ⟨first, hfirst, hcount, hsum⟩ := Text.exists_lines_append hwhole (front ++ s.drop offset)
  have hs : s = whole ++ (front ++ s.drop offset) := by
    rw [← List.append_assoc, ← hsplit, List.take_append_drop]
  have hlength : offset = whole.length + front.length := by
    rw [← List.length_append, ← hsplit, List.length_take]
    omega
  rw [← hs] at hfirst
  have hindex : (ofOffset s offset).line - 1 = first.length := by
    rw [hline, hcount, Nat.add_sub_cancel]
  -- the line of the offset begins with what stands before it on the line
  obtain ⟨rest, later, hlines⟩ := List.exists_cons_of_ne_nil (Text.splitOn_ne_nil (c := '\n') (s.drop offset))
  have hline' : Text.lines (front ++ s.drop offset) = (front ++ rest) :: later := by
    rw [Text.lines, Text.splitOn_append_of_not_mem hfront, hlines, List.modifyHead_cons]
  rw [hline'] at hfirst
  refine ⟨?_, ?_, ⟨front ++ rest, ?_, ?_⟩, ?_⟩
  · rw [hline]
    exact Nat.le_add_left 1 _
  · rw [hcolumn]
    omega
  · rw [hindex, hfirst, List.getElem?_append_right (Nat.le_refl _), Nat.sub_self, List.getElem?_cons_zero]
  · rw [hcolumn, List.length_append]
    omega
  · rw [hindex, Text.lengthOfLines, hfirst, List.take_left, hsum, hcolumn, hlength]
    omega

/-- The offset of a position is before the line feed that ends its line, and so before the next line. -/
theorem Locates.lt_lengthOfLines {offset : Nat} {position : SourcePosition} (h : Locates s offset position) :
    offset < s.lengthOfLines position.line := by
  obtain ⟨line, hline, hcolumn⟩ := h.inside
  have hend := Text.lengthOfLines_succ hline
  rw [Nat.sub_add_cancel h.line_pos] at hend
  have hoffset := h.offset_eq
  omega

/-- **A later offset has a later position.** -/
theorem Locates.precedes {i j : Nat} {a b : SourcePosition} (ha : Locates s i a) (hb : Locates s j b) (hij : i < j) :
    a.Precedes b := by
  rcases Nat.lt_trichotomy a.line b.line with hlt | heq | hgt
  · exact .inl hlt
  · have hi := ha.offset_eq
    have hj := hb.offset_eq
    rw [heq] at hi
    exact .inr ⟨heq, by omega⟩
  · -- the later offset would be on a line that ends before the line of the other begins
    have hend := hb.lt_lengthOfLines
    have hbetween := s.lengthOfLines_mono (show b.line ≤ a.line - 1 by omega)
    have hi := ha.offset_eq
    have hcolumn := ha.column_pos
    omega

/-- **Positions identify offsets.** The line and the column of an offset of a text tell where it is, and those of an
earlier offset come before those of a later one. -/
theorem ofOffset_identifies {i j : Nat} (hij : i < j) (hj : j ≤ s.length) :
    Locates s i (ofOffset s i) ∧ Locates s j (ofOffset s j) ∧ (ofOffset s i).Precedes (ofOffset s j) := by
  have hfirst : Locates s i (ofOffset s i) := locates_ofOffset (Nat.le_of_lt (Nat.lt_of_lt_of_le hij hj))
  have hsecond : Locates s j (ofOffset s j) := locates_ofOffset hj
  exact ⟨hfirst, hsecond, hfirst.precedes hsecond hij⟩

/-- The end of a line, and the beginning of the line after an empty one. -/
theorem ofOffset_identifies_ends :
    let s := txt "ab\n\ncd"
    2 < 4 ∧ 4 ≤ s.length ∧ ofOffset s 2 = ⟨2, 1, 3⟩ ∧ ofOffset s 4 = ⟨4, 3, 1⟩ ∧
      s.lines = [txt "ab", [], txt "cd"] ∧ Locates s 2 ⟨2, 1, 3⟩ ∧ Locates s 4 ⟨4, 3, 1⟩ := by
  intro s
  have hfirst : ofOffset s 2 = ⟨2, 1, 3⟩ := by decide
  have hsecond : ofOffset s 4 = ⟨4, 3, 1⟩ := by decide
  have hboth := ofOffset_identifies (s := s) (i := 2) (j := 4) (by decide) (by decide)
  rw [show ((2 : Nat) : Int) = 2 from rfl, show ((4 : Nat) : Int) = 4 from rfl, hfirst, hsecond] at hboth
  exact ⟨by decide, by decide, hfirst, hsecond, by decide, hboth.1, hboth.2.1⟩

end SourcePosition

end Mixfix
