import Mixfix.Proofs.Host.Yaml.Quoted
import Mixfix.Proofs.Host.Yaml.Writer

/-!
# Scalars between apostrophes, there and back

Between apostrophes a line feed is written twice where it begins a run of breaks, an apostrophe always, and any single
space inside of the text may be written as a line break (`Apostrophized`). All of this reads back as the text
(`Apostrophized.reads`), but for its breaks, which are folded (`foldBreaks`).
-/

set_option autoImplicit false

namespace Mixfix.Yaml

open Writer (Run IsRuns isInner isSolid_of_isInner)

variable {c : CodePoint} {s t before after : Text} {indent n : Nat}

/-! ## What is written -/

/-- Line breaks as they are written between apostrophes: a line feed that begins them is doubled. -/
def writtenBreaks (run : Text) : Text :=
  if run.head? == some (CodePoint.ofChar '\n') then CodePoint.ofChar '\n' :: run else run

/-- What is written between apostrophes, and what it is read as: apostrophes are doubled, a single space may be a line
break, and line breaks that begin with a line feed have one more. -/
inductive Apostrophized (indent : Nat) : Text → Text → Prop
  | nil : Apostrophized indent [] []
  | point {c : CodePoint} {t s : Text} : isQuotable false c = true → Apostrophized indent t s →
      Apostrophized indent (c :: t) (c :: s)
  | doubled {t s : Text} : Apostrophized indent t s →
      Apostrophized indent (CodePoint.ofChar '\'' :: CodePoint.ofChar '\'' :: t) (CodePoint.ofChar '\'' :: s)
  | same (n : Nat) {t s : Text} : Apostrophized indent t s → t.begins isGap = false →
      Apostrophized indent (spaces n ++ t) (spaces n ++ s)
  | next {t s : Text} : Apostrophized indent t s → t.begins isGap = false →
      Apostrophized indent (lineStart indent ++ t) (CodePoint.ofChar ' ' :: s)
  | breaks {run t s : Text} : run ≠ [] → (∀ c ∈ run, isBreak c = true) → Apostrophized indent t s →
      t.begins isGap = false →
      Apostrophized indent (writtenBreaks run ++ (spaces indent ++ t)) (foldBreaks false run ++ s)

theorem mem_writtenBreaks {run : Text} (h : c ∈ writtenBreaks run) : c = CodePoint.ofChar '\n' ∨ c ∈ run := by
  unfold writtenBreaks at h
  split at h
  · exact List.mem_cons.mp h
  · exact .inr h

theorem Apostrophized.written (h : Apostrophized indent t s) : ∀ c ∈ t, isPlainPoint c = true := by
  induction h with
  | nil => exact fun _ => nofun
  | point hc _ ih =>
    rw [isQuotable, Bool.and_eq_true] at hc
    exact List.forall_mem_cons.mpr ⟨(isSolid_iff.mp hc.1).1, ih⟩
  | doubled _ ih => exact List.forall_mem_cons.mpr ⟨rfl, List.forall_mem_cons.mpr ⟨rfl, ih⟩⟩
  | same n _ _ ih =>
    intro c hc
    rcases List.mem_append.mp hc with hc | hc
    · exact isPlainPoint_of_mem_spaces hc
    · exact ih c hc
  | next _ _ ih =>
    intro c hc
    rcases List.mem_append.mp hc with hc | hc
    · exact isPlainPoint_of_mem_lineStart hc
    · exact ih c hc
  | breaks _ hrun _ _ ih =>
    intro c hc
    simp only [List.mem_append] at hc
    rcases hc with hc | hc | hc
    · rcases mem_writtenBreaks hc with rfl | hc
      · rfl
      · exact isPlainPoint_of_isBreak (hrun c hc)
    · exact isPlainPoint_of_mem_spaces hc
    · exact ih c hc

theorem readBreak_of_isNextLine (h : isNextLine c = true) : readBreak c = '\n' :=
  if_pos (isNextLine_iff.mp h)

theorem readBreak_of_not_isNextLine (h : isNextLine c = false) : readBreak c = c :=
  if_neg fun hval => Bool.eq_false_iff.mp h (isNextLine_iff.mpr hval)

/-- Inside of a run each break is read. -/
theorem foldBreaks_true {run : Text} (h : ∀ c ∈ run, isBreak c = true) : foldBreaks true run = run.map readBreak := by
  induction run with
  | nil => rfl
  | cons c run ih =>
    obtain ⟨hc, hrun⟩ := List.forall_mem_cons.mp h
    cases hnext : isNextLine c with
    | true => rw [foldBreaks, hnext, if_pos rfl, if_pos rfl, ih hrun, List.map_cons, readBreak_of_isNextLine hnext]
    | false =>
      rw [foldBreaks, hnext, if_neg Bool.false_ne_true, hc, ih hrun, List.map_cons, readBreak_of_not_isNextLine hnext]

/-- A run of breaks is read as a first break that may be a space, and those after it. -/
theorem foldBreaks_run {run : Text} (h : ∀ d ∈ c :: run, isBreak d = true) (hfeed : c ≠ CodePoint.ofChar '\n') :
    foldBreaks false (c :: run) = foldedBreaks (readBreak c) (run.map readBreak) := by
  obtain ⟨hc, hrun⟩ := List.forall_mem_cons.mp h
  cases hnext : isNextLine c with
  | true =>
    rw [readBreak_of_isNextLine hnext, foldBreaks, hnext, if_pos rfl, if_neg Bool.false_ne_true]
    cases run with
    | nil => rfl
    | cons d run =>
      have hbegins : Text.begins isBreak (d :: run) = true := hrun d List.mem_cons_self
      rw [hbegins, if_pos rfl, foldBreaks_true hrun]
      rfl
  | false =>
    rw [readBreak_of_not_isNextLine hnext, foldBreaks, hnext, if_neg Bool.false_ne_true, hc, foldBreaks_true hrun,
      foldedBreaks, if_pos hfeed]

/-- **Line breaks are read as they are folded.** A line feed that begins them is written twice, and so it is read. -/
theorem exists_writtenBreaks {run : Text} (hne : run ≠ []) (h : ∀ c ∈ run, isBreak c = true) :
    ∃ c others, writtenBreaks run = c :: others ∧ (∀ d ∈ c :: others, isBreak d = true) ∧
      foldedBreaks (readBreak c) (others.map readBreak) = foldBreaks false run := by
  obtain ⟨c, run, rfl⟩ := List.exists_cons_of_ne_nil hne
  by_cases hfeed : c = CodePoint.ofChar '\n'
  · subst hfeed
    refine ⟨CodePoint.ofChar '\n', CodePoint.ofChar '\n' :: run, rfl, List.forall_mem_cons.mpr ⟨rfl, h⟩, ?_⟩
    have hrun := foldBreaks_true (List.forall_mem_cons.mp h).2
    change CodePoint.ofChar '\n' :: run.map readBreak = CodePoint.ofChar '\n' :: foldBreaks true run
    rw [hrun]
  · have hwritten : writtenBreaks (c :: run) = c :: run := by
      rw [writtenBreaks, List.head?_cons, Option.some_beq_some, beq_eq_false_iff_ne.mpr hfeed,
        if_neg Bool.false_ne_true]
    exact ⟨c, run, hwritten, h, (foldBreaks_run h hfeed).symm⟩

/-- **What is written between apostrophes is read back**, up to the closing one. -/
theorem Apostrophized.reads (h : Apostrophized indent t s) (hpos : 0 < indent)
    (hafter : after.head? ≠ some (CodePoint.ofChar '\'')) (before : Text) :
    ReadsQuoted false before (t ++ CodePoint.ofChar '\'' :: after) s
      (Cursor.place (CodePoint.ofChar '\'' :: (t.reverse ++ before)) after) := by
  have hbegins : ∀ {t : Text}, t.begins isGap = false →
      Text.begins isSpaceOrTab (t ++ CodePoint.ofChar '\'' :: after) = false ∧
        Text.begins startsBreak (t ++ CodePoint.ofChar '\'' :: after) = false := by
    intro t ht
    cases t with
    | nil => exact ⟨rfl, rfl⟩
    | cons c t =>
      simp only [Text.begins_cons, isGap, Bool.or_eq_false_iff] at ht
      obtain ⟨⟨⟨⟨hbreak, hspace⟩, htab⟩, hreturn⟩, -⟩ := ht
      simp only [List.cons_append, Text.begins_cons, isSpaceOrTab, startsBreak, hbreak, hspace, htab, hreturn]
      exact ⟨rfl, rfl⟩
  induction h generalizing before with
  | nil => exact readsQuoted_apostrophe hafter
  | @point c t s hc _ ih =>
    have hrest := ih (c :: before)
    rw [List.reverse_cons, List.append_assoc]
    exact hrest.cons hc
  | @doubled t s _ ih =>
    have hrest := ih (CodePoint.ofChar '\'' :: CodePoint.ofChar '\'' :: before)
    rw [List.reverse_cons, List.reverse_cons, List.append_assoc, List.append_assoc]
    exact hrest.doubled
  | @same n t s _ ht ih =>
    have hrest := ih (spaces n ++ before)
    obtain ⟨hspace, hbreak⟩ := hbegins ht
    rw [List.append_assoc, List.reverse_append, List.append_assoc, reverse_spaces]
    exact hrest.spaces n hspace hbreak
  | @next t s _ ht ih =>
    have hrest := ih ((lineStart indent).reverse ++ before)
    obtain ⟨hspace, hbreak⟩ := hbegins ht
    rw [reverse_lineStart, List.append_assoc] at hrest
    have hfeed : ∀ d ∈ [CodePoint.ofChar '\n'], isBreak d = true := by
      intro d hd
      rw [List.mem_singleton.mp hd]
      rfl
    have hread := ReadsQuoted.breaks [] hrest hfeed hpos hspace hbreak
    rw [List.append_assoc, List.reverse_append, reverse_lineStart, List.append_assoc, List.append_assoc]
    exact hread
  | @breaks run t s hne hrun _ ht ih =>
    obtain ⟨c, others, hwritten, hbreaks, hfolded⟩ := exists_writtenBreaks hne hrun
    have hrest := ih (spaces indent ++ ((c :: others).reverse ++ before))
    obtain ⟨hspace, hbreak⟩ := hbegins ht
    have hread := hrest.breaks others hbreaks hpos hspace hbreak
    rw [hfolded] at hread
    rw [hwritten, List.append_assoc, List.append_assoc, List.reverse_append, List.reverse_append, reverse_spaces,
      List.append_assoc, List.append_assoc]
    exact hread

/-! ## Runs -/

/-- A text with its apostrophes doubled. -/
def doubled (run : Text) : Text :=
  run.flatMap fun (c : CodePoint) => if c = '\'' then [c, c] else [c]

theorem doubled_cons (c : CodePoint) (run : Text) :
    doubled (c :: run) = (if c = '\'' then [c, c] else [c]) ++ doubled run := rfl

theorem mem_doubled {run : Text} : c ∈ doubled run ↔ c ∈ run := by
  have hmem : ∀ d : CodePoint, c ∈ (if d = '\'' then [d, d] else [d]) ↔ c = d := by
    intro d
    split <;> simp
  simp only [doubled, List.mem_flatMap, hmem, exists_eq_right']

theorem doubled_ne_nil {run : Text} (h : run ≠ []) : doubled run ≠ [] := by
  obtain ⟨c, run, rfl⟩ := List.exists_cons_of_ne_nil h
  exact List.ne_nil_of_mem (mem_doubled.mpr List.mem_cons_self)

theorem length_doubled_le (run : Text) : (doubled run).length ≤ 2 * run.length := by
  induction run with
  | nil => exact Nat.le_refl 0
  | cons c run ih =>
    have hfirst : (if c = '\'' then [c, c] else [c]).length ≤ 2 := by split <;> simp
    rw [doubled_cons, List.length_append, List.length_cons]
    omega

/-- A solid run as it is written between apostrophes. -/
theorem Apostrophized.doubled_append {run : Text} (hrun : ∀ c ∈ run, isSolid c = true) (h : Apostrophized indent t s) :
    Apostrophized indent (Yaml.doubled run ++ t) (run ++ s) := by
  induction run with
  | nil => exact h
  | cons c run ih =>
    obtain ⟨hc, hrest⟩ := List.forall_mem_cons.mp hrun
    rw [doubled_cons, List.append_assoc]
    by_cases happ : c = CodePoint.ofChar '\''
    · subst happ
      exact .doubled (ih hrest)
    · rw [if_neg happ]
      exact .point (by rw [isQuotable, hc, Bool.true_and]; simpa using happ) (ih hrest)

theorem foldl_lineBreak {run : Text} (hne : run ≠ []) (w : Writer) :
    run.foldl (fun w c => Writer.lineBreak c w) w = ⟨run.reverse ++ w.reversed, 0, true, true⟩ := by
  induction run generalizing w with
  | nil => exact absurd rfl hne
  | cons c run ih =>
    cases run with
    | nil => rfl
    | cons d run =>
      rw [List.foldl_cons, ih (List.cons_ne_nil d run), List.reverse_cons (a := c), List.append_assoc]
      rfl

theorem putBreaks_eq {run : Text} (hne : run ≠ []) (hpos : 0 < indent) (w : Writer) :
    w.putBreaks indent run = ⟨(writtenBreaks run ++ spaces indent).reverse ++ w.reversed, indent, true, true⟩ := by
  have hbreaks : ∀ w : Writer,
      run.foldl (fun w c => Writer.lineBreak c w) w = ⟨run.reverse ++ w.reversed, 0, true, true⟩ :=
    foldl_lineBreak hne
  have hindent : ∀ reversed : Text, (Writer.mk reversed 0 true true).indentTo indent =
      ⟨spaces indent ++ reversed, indent, true, true⟩ := fun reversed => Writer.indentTo_fresh rfl hpos
  unfold Writer.putBreaks
  dsimp only
  rw [hbreaks, hindent, writtenBreaks, List.reverse_append, reverse_spaces, List.append_assoc]
  split
  · rw [List.reverse_cons, List.append_assoc]
    rfl
  · rfl

/-- A gap of what is written begins with a space or a break. -/
theorem begins_isGap (hplain : ∀ c ∈ s, isPlainPoint c = true) (hspace : s.begins isSpace = false)
    (hbreak : s.begins isBreak = false) : s.begins isGap = false := by
  cases s with
  | nil => rfl
  | cons c s =>
    rw [Text.begins_cons] at hspace hbreak ⊢
    rw [isGap_eq (hplain c List.mem_cons_self), hspace, hbreak]
    rfl

/-- A text as it is written between apostrophes from some run on, and read with its breaks folded. It does not begin
with a gap where the text does not, and it is a single line if no line is broken and the text is one. -/
structure WrittenRuns (indent : Nat) (fold : Bool) (t s : Text) : Prop where
  reads : Apostrophized indent t (foldBreaks false s)
  begins : s.begins isGap = false → t.begins isGap = false
  line : fold = false → (∀ c ∈ s, isBreak c = false) → (∀ c ∈ t, isBreak c = false) ∧ t.length ≤ 2 * s.length

namespace WrittenRuns

variable {fold : Bool}

theorem nil : WrittenRuns indent fold [] [] :=
  ⟨.nil, fun _ => rfl, fun _ _ => ⟨fun _ => nofun, Nat.le_refl 0⟩⟩

theorem next (h : WrittenRuns indent true t s) (hgap : s.begins isGap = false) :
    WrittenRuns indent true (lineStart indent ++ t) (CodePoint.ofChar ' ' :: s) := by
  refine ⟨?_, nofun, nofun⟩
  exact .next h.reads (h.begins hgap)

theorem same (n : Nat) (h : WrittenRuns indent fold t s) (hgap : s.begins isGap = false) :
    WrittenRuns indent fold (spaces (n + 1) ++ t) (spaces (n + 1) ++ s) := by
  have hreads := Apostrophized.same (n + 1) h.reads (h.begins hgap)
  rw [← foldBreaks_append_of_line fun c hc => isBreak_of_mem_spaces hc] at hreads
  refine ⟨hreads, nofun, fun hnot hline => ?_⟩
  obtain ⟨htline, hlength⟩ := h.line hnot fun c hc => hline c (List.mem_append_right _ hc)
  refine ⟨fun c hc => ?_, ?_⟩
  · rcases List.mem_append.mp hc with hc | hc
    · exact isBreak_of_mem_spaces hc
    · exact htline c hc
  · simp only [List.length_append]
    omega

theorem breaks {run : Text} (hne : run ≠ []) (hrun : ∀ c ∈ run, isBreak c = true) (h : WrittenRuns indent fold t s)
    (hgap : s.begins isGap = false) (hbreak : s.begins isBreak = false) :
    WrittenRuns indent fold (writtenBreaks run ++ (spaces indent ++ t)) (run ++ s) := by
  have hreads := Apostrophized.breaks hne hrun h.reads (h.begins hgap)
  rw [← foldBreaks_append hbreak] at hreads
  obtain ⟨c, run, rfl⟩ := List.exists_cons_of_ne_nil hne
  have hc := hrun c List.mem_cons_self
  refine ⟨hreads, fun hnot => ?_, fun _ hline => ?_⟩
  · rw [List.cons_append, Text.begins_cons, isGap, hc] at hnot
    cases hnot
  · rw [hline c List.mem_cons_self] at hc
    cases hc

theorem solid {run : Text} (hne : run ≠ []) (hsolid : ∀ c ∈ run, isSolid c = true) (h : WrittenRuns indent fold t s) :
    WrittenRuns indent fold (doubled run ++ t) (run ++ s) := by
  have hreads := h.reads.doubled_append hsolid
  rw [← foldBreaks_append_of_line fun c hc => (isSolid_iff.mp (hsolid c hc)).2.2] at hreads
  refine ⟨hreads, fun _ => ?_, fun hnot hline => ?_⟩
  · obtain ⟨c, tail, hc⟩ := List.exists_cons_of_ne_nil (doubled_ne_nil hne)
    have hmem : c ∈ doubled run := hc ▸ List.mem_cons_self
    rw [hc, List.cons_append, Text.begins_cons]
    exact not_isGap_of_isSolid (hsolid c (mem_doubled.mp hmem))
  · have hlength := length_doubled_le run
    obtain ⟨htline, hlengths⟩ := h.line hnot fun c hc => hline c (List.mem_append_right run hc)
    refine ⟨fun c hc => ?_, ?_⟩
    · rcases List.mem_append.mp hc with hc | hc
      · exact hline c (List.mem_append_left s (mem_doubled.mp hc))
      · exact htline c hc
    · simp only [List.length_append]
      omega

end WrittenRuns

/-- The runs of a text are written between apostrophes by every writer that is not on a fresh line, or that is at the
indentation or beyond it, and beyond it where a space comes next. -/
def WritesRuns (indent : Nat) (fold : Bool) (rs : List Run) (s : Text) : Prop :=
  ∀ (first : Bool) {w : Writer},
    w.fresh = false ∨ indent ≤ w.column ∧ (s.begins isSpace = true → indent < w.column) →
    ∃ t, WrittenRuns indent fold t s ∧
      (Writer.apostropheRuns fold indent first rs w).reversed = t.reverse ++ w.reversed

namespace WritesRuns

variable {fold : Bool} {rs : List Run}

/-- Spaces are written, or a line is broken instead of a single one. -/
theorem spaces (n : Nat) (h : WritesRuns indent fold rs s) (hbegins : s.begins isSpace = false)
    (hgap : s.begins isGap = false) : WritesRuns indent fold (.spaces (n + 1) :: rs) (Yaml.spaces (n + 1) ++ s) := by
  intro first w hw
  by_cases hfold : (n + 1 == 1 && fold && (!first && !rs.isEmpty) && decide (lineWidth < w.column)) = true
  · have hput : w.putSpaces fold (!first && !rs.isEmpty) indent (n + 1) =
        ⟨(lineStart indent).reverse ++ w.reversed, indent, true, true⟩ := by
      rw [Writer.putSpaces, if_pos hfold]
      exact Writer.indentTo_break (hw.imp_right fun hw => hw.2 rfl)
    simp only [Bool.and_eq_true, beq_iff_eq, Nat.add_eq_right] at hfold
    obtain ⟨⟨⟨rfl, rfl⟩, -⟩, -⟩ := hfold
    obtain ⟨t, ht, hwrote⟩ := @h false ⟨(lineStart indent).reverse ++ w.reversed, indent, true, true⟩
      (.inr ⟨Nat.le_refl _, fun hs => absurd hs (Bool.eq_false_iff.mp hbegins)⟩)
    refine ⟨lineStart indent ++ t, ht.next hgap, ?_⟩
    rw [Writer.apostropheRuns, hput, hwrote, List.reverse_append, List.append_assoc]
  · have hput : w.putSpaces fold (!first && !rs.isEmpty) indent (n + 1) = w.put (Yaml.spaces (n + 1)) := if_neg hfold
    obtain ⟨t, ht, hwrote⟩ := @h false (w.put (Yaml.spaces (n + 1))) (hw.imp_right fun hw =>
      ⟨Nat.le_add_right_of_le hw.1, fun hs => absurd hs (Bool.eq_false_iff.mp hbegins)⟩)
    refine ⟨Yaml.spaces (n + 1) ++ t, ht.same n hgap, ?_⟩
    rw [Writer.apostropheRuns, hput, hwrote, List.reverse_append, List.append_assoc]
    rfl

theorem breaks {run : Text} (h : WritesRuns indent fold rs s) (hpos : 0 < indent) (hne : run ≠ [])
    (hrun : ∀ c ∈ run, isBreak c = true) (hspace : s.begins isSpace = false) (hgap : s.begins isGap = false)
    (hbreak : s.begins isBreak = false) : WritesRuns indent fold (.breaks run :: rs) (run ++ s) := by
  intro first w _
  obtain ⟨t, ht, hwrote⟩ := @h false
    ⟨(writtenBreaks run ++ Yaml.spaces indent).reverse ++ w.reversed, indent, true, true⟩
    (.inr ⟨Nat.le_refl _, fun hs => absurd hs (Bool.eq_false_iff.mp hspace)⟩)
  refine ⟨writtenBreaks run ++ (Yaml.spaces indent ++ t), ht.breaks hne hrun hgap hbreak, ?_⟩
  rw [Writer.apostropheRuns, putBreaks_eq hne hpos, hwrote]
  simp only [List.reverse_append, List.append_assoc]

theorem solid {run : Text} (h : WritesRuns indent fold rs s) (hne : run ≠ [])
    (hsolid : ∀ c ∈ run, isSolid c = true) : WritesRuns indent fold (.solid run :: rs) (run ++ s) := by
  intro first w hw
  have hpositive := List.length_pos_iff.mpr (doubled_ne_nil hne)
  have hw' : (w.put (doubled run)).fresh = false ∨ indent ≤ (w.put (doubled run)).column ∧
      (s.begins isSpace = true → indent < (w.put (doubled run)).column) := by
    refine hw.imp_right fun hw => ?_
    change indent ≤ w.column + (doubled run).length ∧ (_ → indent < w.column + (doubled run).length)
    omega
  obtain ⟨t, ht, hwrote⟩ := @h false (w.put (doubled run)) hw'
  refine ⟨doubled run ++ t, ht.solid hne hsolid, ?_⟩
  rw [Writer.apostropheRuns]
  change (Writer.apostropheRuns fold indent false rs (w.put (doubled run))).reversed = _
  rw [hwrote, List.reverse_append, List.append_assoc]
  rfl

end WritesRuns

/-- **The runs of a text are written between apostrophes**, where no space meets a break in it. -/
theorem writesRuns {rs : List Run} (h : IsRuns rs s) (hplain : ∀ c ∈ s, isPlainPoint c = true)
    (hspace : meetsNext isSpace isBreak s = false) (hbreak : meetsNext isBreak isSpace s = false) (fold : Bool)
    (hpos : 0 < indent) : WritesRuns indent fold rs s := by
  induction h with
  | nil => exact fun _ _ _ => ⟨[], .nil, rfl⟩
  | @spaces n rs s hruns hbegins ih =>
    have hplain' := fun c hc => hplain c (List.mem_append_right _ hc)
    have hall : (spaces (n + 1)).all isSpace = true := by
      rw [List.all_eq_true]
      intro c hc
      rw [mem_spaces hc]
      rfl
    have hgap := begins_isGap hplain' hbegins (meetsNext_append (spaces_succ_ne_nil n) hall hspace)
    exact (ih hplain' (meetsNext_of_append hspace) (meetsNext_of_append hbreak)).spaces n hbegins hgap
  | @breaks run rs s hne hall hruns hbegins ih =>
    have hplain' := fun c hc => hplain c (List.mem_append_right _ hc)
    have hnospace := meetsNext_append hne hall hbreak
    exact (ih hplain' (meetsNext_of_append hspace) (meetsNext_of_append hbreak)).breaks hpos hne
      (List.all_eq_true.mp hall) hnospace (begins_isGap hplain' hnospace hbegins) hbegins
  | @solid run rs s hne hall hruns hbegins ih =>
    have hsolid : ∀ c ∈ run, isSolid c = true := fun c hc =>
      isSolid_of_isInner (hplain c (List.mem_append_left s hc)) (List.all_eq_true.mp hall c hc)
    exact (ih (fun c hc => hplain c (List.mem_append_right run hc)) (meetsNext_of_append hspace)
      (meetsNext_of_append hbreak)).solid hne hsolid

/-- **A text is written between apostrophes**, on one line if no line is broken and it has no breaks. -/
theorem exists_apostrophes (h : apostrophesAllowed s = true) (fold : Bool) (hpos : 0 < indent) (w : Writer) :
    ∃ t, Apostrophized indent t (foldBreaks false s) ∧
      (fold = false → (∀ c ∈ s, isBreak c = false) → (∀ c ∈ t, isBreak c = false) ∧ t.length ≤ 2 * s.length) ∧
      w.Wrote (w.separator ++ (txt "'" ++ (t ++ txt "'"))) (w.apostrophes fold indent s) := by
  simp only [apostrophesAllowed, Bool.and_eq_true, List.all_eq_true, Bool.not_eq_true'] at h
  obtain ⟨⟨hplain, hbreak⟩, hspace⟩ := h
  let start := w.mark "'" true false false
  have hfresh : start.fresh = false := Bool.and_false _
  obtain ⟨t, ht, hwrote⟩ :=
    writesRuns (Writer.isRuns_runs s) hplain hspace hbreak fold hpos true (.inl hfresh)
  refine ⟨t, ht.reads, ht.line, ?_, rfl, Bool.and_false _⟩
  rw [Writer.apostrophes, Writer.mark_reversed_close, hwrote, Writer.mark_reversed]
  simp only [List.reverse_append, List.append_assoc]

end Mixfix.Yaml
