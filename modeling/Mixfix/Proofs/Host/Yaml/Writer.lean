import Mixfix.Proofs.Host.Yaml.Cursor

/-!
# What the YAML writer puts on a line

The writer keeps its text in reverse, so to write something is to put its reverse before what there is. A text is
written run by run: `Writer.IsRuns` says that runs are those of a text, where two that are next to each other are of
different kinds.
-/

set_option autoImplicit false

namespace Mixfix.Yaml

variable {s t : Text}

/-! ## Neighbours -/

theorem meetsNext_cons (p q : CodePoint → Bool) (c d : CodePoint) (s : Text) :
    meetsNext p q (c :: d :: s) = (p c && q d || meetsNext p q (d :: s)) := rfl

/-- What does not meet does not meet in an end of a text, nor where the end begins. -/
theorem meetsNext_append {p q : CodePoint → Bool} (hne : t ≠ []) (hall : t.all p = true)
    (h : meetsNext p q (t ++ s) = false) : s.begins q = false := by
  induction t with
  | nil => exact absurd rfl hne
  | cons c t ih =>
    rw [List.all_cons, Bool.and_eq_true] at hall
    cases t with
    | nil =>
      cases s with
      | nil => rfl
      | cons d s =>
        rw [List.singleton_append, meetsNext_cons, hall.1, Bool.true_and, Bool.or_eq_false_iff] at h
        exact h.1
    | cons d t =>
      rw [List.cons_append, List.cons_append, meetsNext_cons, Bool.or_eq_false_iff] at h
      exact ih (List.cons_ne_nil d t) hall.2 h.2

theorem meetsNext_of_append {p q : CodePoint → Bool} (h : meetsNext p q (t ++ s) = false) :
    meetsNext p q s = false := by
  induction t with
  | nil => exact h
  | cons c t ih =>
    apply ih
    cases hts : t ++ s with
    | nil => rfl
    | cons d rest =>
      rw [List.cons_append, hts, meetsNext_cons, Bool.or_eq_false_iff] at h
      exact h.2

namespace Writer

variable {w : Writer} {s : Text} {rs : List Run} {indent n : Nat}

/-! ## Indentation -/

/-- A line that is not fresh or already too long is broken. -/
theorem indentTo_break (h : w.fresh = false ∨ indent < w.column) :
    w.indentTo indent = ⟨(lineStart indent).reverse ++ w.reversed, indent, true, true⟩ := by
  have hbreak : (!w.fresh || decide (indent < w.column) || (w.column == indent && !w.spaced)) = true := by
    rcases h with h | h
    · simp [h]
    · simp [h]
  unfold indentTo
  rw [if_pos hbreak]
  cases indent with
  | zero => rfl
  | succ n => simp [lineBreak, put, lineStart, spaces]

/-- A fresh line is filled up with spaces. -/
theorem indentTo_fresh (hfresh : w.fresh = true) (hcolumn : w.column < indent) :
    w.indentTo indent = ⟨spaces (indent - w.column) ++ w.reversed, indent, true, true⟩ := by
  have hsame : (!w.fresh || decide (indent < w.column) || (w.column == indent && !w.spaced)) = false := by
    have hne : w.column ≠ indent := by omega
    have hnot : ¬indent < w.column := by omega
    simp [hfresh, hne, hnot]
  have hlength : w.column + (indent - w.column) = indent := by omega
  unfold indentTo
  dsimp only
  rw [hsame, if_neg Bool.false_ne_true, if_pos hcolumn, put, List.length_replicate, hlength, List.reverse_replicate,
    hfresh]
  rfl

/-- What is written first to separate what comes next. -/
def separator (w : Writer) : Text :=
  if w.spaced then [] else txt " "

theorem mark_reversed (s : String) (leavesSpace keepsFresh : Bool) (w : Writer) :
    (w.mark s true leavesSpace keepsFresh).reversed = (w.separator ++ txt s).reverse ++ w.reversed := by
  cases hspaced : w.spaced <;> simp [mark, separator, put, hspaced]

theorem mark_reversed_close (s : String) (leavesSpace keepsFresh : Bool) (w : Writer) :
    (w.mark s false leavesSpace keepsFresh).reversed = (txt s).reverse ++ w.reversed := by
  simp only [mark, put, Bool.not_false, Bool.or_true, if_true]

/-- A text was written, and something separates it from what comes next. -/
structure Wrote (w : Writer) (t : Text) (w' : Writer) : Prop where
  reversed : w'.reversed = t.reverse ++ w.reversed
  spaced : w'.spaced = false
  fresh : w'.fresh = false

theorem Wrote.prepend {w w' w'' : Writer} {t t' : Text} (h : Wrote w' t' w'')
    (hfirst : w'.reversed = t.reverse ++ w.reversed) :
    Wrote w (t ++ t') w'' := by
  refine ⟨?_, h.spaced, h.fresh⟩
  rw [h.reversed, hfirst, List.reverse_append, List.append_assoc]

/-! ## Runs -/

/-- A code point of a solid run. -/
def isInner (c : CodePoint) : Bool :=
  !(isSpace c || isBreak c)

theorem isSolid_of_isInner {c : CodePoint} (hplain : isPlainPoint c = true) (h : isInner c = true) :
    isSolid c = true := by
  simp only [isInner, Bool.not_eq_true', Bool.or_eq_false_iff] at h
  exact isSolid_iff.mpr ⟨hplain, h⟩

/-- The runs of a text, each as long as it can be. -/
inductive IsRuns : List Run → Text → Prop
  | nil : IsRuns [] []
  | spaces (n : Nat) {rs : List Run} {s : Text} : IsRuns rs s → s.begins isSpace = false →
      IsRuns (.spaces (n + 1) :: rs) (Yaml.spaces (n + 1) ++ s)
  | breaks {run : Text} {rs : List Run} {s : Text} : run ≠ [] → run.all isBreak = true → IsRuns rs s →
      s.begins isBreak = false → IsRuns (.breaks run :: rs) (run ++ s)
  | solid {run : Text} {rs : List Run} {s : Text} : run ≠ [] → run.all isInner = true → IsRuns rs s →
      s.begins isInner = false → IsRuns (.solid run :: rs) (run ++ s)

theorem isBreak_of_isSpace {c : CodePoint} (h : isSpace c = true) : isBreak c = false := by
  rw [isSpace_iff] at h
  rw [← Bool.not_eq_true, isBreak_iff]
  omega

theorem isRuns_single {c : CodePoint} (h : IsRuns rs s) (hspace : isSpace c = true → s.begins isSpace = false)
    (hbreak : isBreak c = true → s.begins isBreak = false) (hinner : isInner c = true → s.begins isInner = false) :
    IsRuns (runs.single c :: rs) (c :: s) := by
  unfold runs.single
  split
  · rename_i hc
    obtain rfl : c = CodePoint.ofChar ' ' := beq_iff_eq.mp hc
    exact .spaces 0 h (hspace hc)
  · split
    · rename_i hc
      exact .breaks (List.cons_ne_nil c []) (by simpa using hc) h (hbreak hc)
    · rename_i hnot hc
      have hc : isInner c = true := by simp [isInner, hnot, hc]
      exact .solid (List.cons_ne_nil c []) (by simpa using hc) h (hinner hc)

/-- **The runs of a text are its runs.** -/
theorem isRuns_runs (s : Text) : IsRuns (runs s) s := by
  induction s with
  | nil => exact .nil
  | cons c s ih =>
    unfold runs
    generalize hrs : runs s = rs at ih ⊢
    cases ih with
    | nil => exact isRuns_single .nil (fun _ => rfl) (fun _ => rfl) fun _ => rfl
    | @spaces n rs' s' hs' hbegins =>
      dsimp only
      split
      · rename_i hc
        obtain rfl : c = CodePoint.ofChar ' ' := beq_iff_eq.mp hc
        exact .spaces (n + 1) hs' hbegins
      · rename_i hc
        exact isRuns_single (.spaces n hs' hbegins) (fun h => absurd h hc) (fun _ => rfl) fun _ => rfl
    | @breaks run rs' s' hne hall hs' hbegins =>
      obtain ⟨d, run, rfl⟩ := List.exists_cons_of_ne_nil hne
      have hd : isBreak d = true := (Bool.and_eq_true_iff.mp hall).1
      dsimp only
      split
      · rename_i hc
        exact .breaks (List.cons_ne_nil c _) (by rw [List.all_cons, hc, hall]; rfl) hs' hbegins
      · rename_i hc
        apply isRuns_single (.breaks hne hall hs' hbegins)
        · intro _
          rw [← Bool.not_eq_true]
          intro hspace
          rw [isBreak_of_isSpace hspace] at hd
          cases hd
        · exact fun h => absurd h hc
        · intro _
          simp [isInner, hd]
    | @solid run rs' s' hne hall hs' hbegins =>
      obtain ⟨d, run, rfl⟩ := List.exists_cons_of_ne_nil hne
      have hd : isInner d = true := (Bool.and_eq_true_iff.mp hall).1
      simp only [isInner, Bool.not_eq_true', Bool.or_eq_false_iff] at hd
      dsimp only
      split
      · rename_i hc
        apply isRuns_single (.solid hne hall hs' hbegins) (fun _ => hd.1) (fun _ => hd.2)
        intro hinner
        simp [isInner, hc] at hinner
      · rename_i hc
        refine .solid (List.cons_ne_nil c _) ?_ hs' hbegins
        rw [List.all_cons, hall]
        simpa [isInner] using hc

end Writer

end Mixfix.Yaml
