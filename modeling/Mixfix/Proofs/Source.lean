import Mathlib.Data.List.TakeWhile
import Mixfix.Proofs.Text
import Mixfix.Source

/-!
# Places in a source text

An offset inside of a text cuts it there. Its line and column tell what stands before the cut: whole lines,
each with its line feed, and then the front of one line (`SourcePosition.exists_lines`). A snippet shows the
mark, and always stands on one line.

Offsets below zero and beyond the end are not considered.
-/

set_option autoImplicit false

namespace Mixfix

namespace Text

variable {s : Text} {offset : Nat}

/-! ## Cuts -/

theorem cutAt_ofNat (h : offset ≤ s.length) : s.cutAt (offset : Int) = offset := by
  unfold cutAt
  rw [if_neg (by omega)]
  omega

theorem before_ofNat (h : offset ≤ s.length) : s.before (offset : Int) = s.take offset := by
  rw [before, cutAt_ofNat h]

/-- An end of a text is what the text leaves from the offset where it begins. -/
theorem drop_of_suffix {rest : Text} (h : rest <:+ s) : s.drop (s.length - rest.length) = rest :=
  (List.suffix_iff_eq_drop.mp h).symm

/-- What an end of a text is without its leading blanks is an end of the text. -/
theorem drop_trimStart {rest : Text} (h : rest <:+ s) :
    s.drop (s.length - rest.trimStart.length) = rest.trimStart :=
  drop_of_suffix ((List.dropWhile_suffix _).trans h)

/-- No blank stands where the leading blanks of an end of a text are over. -/
theorem isBlank_of_drop_eq_trimStart {rest : Text} (h : s.drop offset = rest.trimStart) {c : CodePoint}
    (hc : s[offset]? = some c) : c.isBlank = false := by
  obtain ⟨hlt, rfl⟩ := List.getElem?_eq_some_iff.mp hc
  rw [List.drop_eq_getElem_cons hlt] at h
  exact isBlank_of_trimStart_eq_cons h.symm

/-! ## One line -/

theorem onOneLine_append (s t : Text) : onOneLine (s ++ t) = onOneLine s ++ onOneLine t :=
  List.flatMap_append

/-- What breaks a line, or the layout of one. -/
def breaksLine (c : CodePoint) : Bool :=
  c == CodePoint.ofChar '\n' || c == CodePoint.ofChar '\t' || c == CodePoint.ofChar '\r'

/-- Whether nothing in a text breaks a line. -/
def isOneLine (s : Text) : Bool :=
  s.all fun c => !breaksLine c

theorem isOneLine_append (s t : Text) : isOneLine (s ++ t) = (isOneLine s && isOneLine t) :=
  List.all_append

/-- A text in which nothing breaks a line is on one line as it is. -/
theorem onOneLine_of_isOneLine (h : isOneLine s = true) : onOneLine s = s := by
  induction s with
  | nil => rfl
  | cons c s ih =>
    obtain ⟨hc, hs⟩ := Bool.and_eq_true_iff.mp h
    simp only [breaksLine, Bool.not_eq_true', Bool.or_eq_false_iff, beq_eq_false_iff_ne] at hc
    obtain ⟨⟨hline, htab⟩, hreturn⟩ := hc
    unfold onOneLine at ih ⊢
    rw [List.flatMap_cons, ih hs, if_neg hline, if_neg htab, if_neg hreturn]
    rfl

/-- Nothing breaks a line in a text on one line: the escapes do not, and nothing else is put in. -/
theorem isOneLine_onOneLine (s : Text) : isOneLine (onOneLine s) = true := by
  induction s with
  | nil => rfl
  | cons c s ih =>
    unfold onOneLine at ih ⊢
    rw [List.flatMap_cons, isOneLine_append, ih, Bool.and_true]
    split
    · decide
    · split
      · decide
      · split
        · decide
        · rename_i hline htab hreturn
          simp [isOneLine, breaksLine, hline, htab, hreturn]

end Text

/-! ## Lines and columns -/

namespace SourcePosition

/-- **The line and the column of an offset.** Before the offset stand whole lines, one less than its line, and
then the front of a line, one shorter than its column. -/
theorem exists_lines {s : Text} {offset : Nat} (h : offset ≤ s.length) :
    ∃ lines front : Text, s.take offset = lines ++ front ∧
      (lines = [] ∨ lines.getLast? = some (CodePoint.ofChar '\n')) ∧ CodePoint.ofChar '\n' ∉ front ∧
      (ofOffset s offset).line = lines.count (CodePoint.ofChar '\n') + 1 ∧
      (ofOffset s offset).column = front.length + 1 := by
  -- Read backwards, the text before the offset is the front of its line up to the first line feed.
  let feeds : CodePoint → Bool := fun c => !(c == CodePoint.ofChar '\n')
  let front := ((s.take offset).reverse.takeWhile feeds).reverse
  let lines := ((s.take offset).reverse.dropWhile feeds).reverse
  have hsplit : s.take offset = lines ++ front := by
    rw [← List.reverse_append, List.takeWhile_append_dropWhile, List.reverse_reverse]
  have hfront : CodePoint.ofChar '\n' ∉ front := by
    intro hmem
    have hfeeds : feeds (CodePoint.ofChar '\n') = true := List.mem_takeWhile_imp (List.mem_reverse.mp hmem)
    simp [feeds] at hfeeds
  refine ⟨lines, front, hsplit, ?_, hfront, ?_, ?_⟩
  · cases hlines : (s.take offset).reverse.dropWhile feeds with
    | nil => exact .inl (by simp [lines, hlines])
    | cons c rest =>
      have hc := Text.begins_dropWhile feeds (s.take offset).reverse
      rw [hlines, Text.begins_cons] at hc
      right
      simpa [lines, hlines, feeds] using hc
  · simp only [ofOffset, Text.before_ofNat h]
    rw [hsplit, List.count_append, List.count_eq_zero.mpr hfront, Nat.add_zero]
  · have hlength : (s.take offset).length = offset := by
      rw [List.length_take]
      omega
    have htail : ((s.take offset).reverse.takeWhile feeds).length = front.length :=
      List.length_reverse.symm
    simp only [ofOffset, Text.before_ofNat h, lastLineFeed, hlength]
    change (offset : Int) - (offset - ((s.take offset).reverse.takeWhile feeds).length - 1) = _
    rw [htail]
    omega

end SourcePosition

/-! ## Snippets -/

section

variable {s mark : Text} {offset reach : Int}

/-- A snippet shows its mark. -/
theorem mark_infix_snippet (hs : s ≠ []) (hmark : mark.isOneLine = true) :
    mark <:+: snippet s offset reach mark := by
  have hempty : s.isEmpty = false := by simpa using hs
  unfold snippet
  rw [hempty, if_neg Bool.false_ne_true]
  simp only [Text.onOneLine_append, Text.onOneLine_of_isOneLine hmark]
  rw [List.append_assoc]
  exact List.infix_append _ _ _

/-- A snippet stands on one line. -/
theorem isOneLine_snippet (hs : s ≠ []) : (snippet s offset reach mark).isOneLine = true := by
  have hempty : s.isEmpty = false := by simpa using hs
  unfold snippet
  rw [hempty, if_neg Bool.false_ne_true]
  exact Text.isOneLine_onOneLine _

end

end Mixfix
