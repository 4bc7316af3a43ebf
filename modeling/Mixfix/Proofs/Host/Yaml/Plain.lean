import Mixfix.Proofs.Host.Yaml.Writer

/-!
# Plain scalars, there and back

A text that can be written plain is made of words with spaces between them. The writer may put any single one of
these spaces as a line break (`Wrapped`). The reader goes from word to word and reads the same text, wherever the
lines are broken (`plainScalar_plainText`).
-/

set_option autoImplicit false

namespace Mixfix.Yaml

open Writer (Run IsRuns isInner isSolid_of_isInner)

variable {c : CodePoint} {s t u after : Text} {rs : List Run} {indent : Nat}

/-! ## Words -/

/-- A word of a plain scalar: no gap is in it, and no colon at its end. -/
structure IsWord (u : Text) : Prop where
  ne_nil : u ≠ []
  solid : ∀ c ∈ u, isSolid c = true
  last : u.getLast? ≠ some (CodePoint.ofChar ':')

/-- The words after the first one and the spaces before each, with their runs. None is taken for a comment. -/
inductive Words : List Run → Text → Prop
  | nil : Words [] []
  | cons (n : Nat) {u : Text} {rs : List Run} {s : Text} : IsWord u → u.head? ≠ some (CodePoint.ofChar '#') →
      Words rs s → Words (.spaces (n + 1) :: .solid u :: rs) (spaces (n + 1) ++ (u ++ s))

/-- The words after the first one as they are written: with their spaces, or on the next line. -/
inductive Wrapped (indent : Nat) : Text → Text → Prop
  | nil : Wrapped indent [] []
  | same (n : Nat) {u t s : Text} : IsWord u → u.head? ≠ some (CodePoint.ofChar '#') → Wrapped indent t s →
      Wrapped indent (spaces (n + 1) ++ (u ++ t)) (spaces (n + 1) ++ (u ++ s))
  | next {u t s : Text} : IsWord u → u.head? ≠ some (CodePoint.ofChar '#') → Wrapped indent t s →
      Wrapped indent (lineStart indent ++ (u ++ t)) (CodePoint.ofChar ' ' :: (u ++ s))

theorem IsWord.plain (h : IsWord u) : ∀ c ∈ u, isPlainPoint c = true :=
  fun c hc => (isSolid_iff.mp (h.solid c hc)).1

theorem IsWord.line (h : IsWord u) : ∀ c ∈ u, isBreak c = false :=
  fun c hc => (isSolid_iff.mp (h.solid c hc)).2.2

/-- A word is read up to what ends it. -/
theorem plainChunk_word (h : IsWord u) (hafter : plainChunk false after = []) : plainChunk false (u ++ after) = u := by
  obtain ⟨hne, hsolid, hlast⟩ := h
  induction u with
  | nil => exact absurd rfl hne
  | cons c u ih =>
    obtain ⟨hc, hu⟩ := List.forall_mem_cons.mp hsolid
    have hgap := not_isGap_of_isSolid hc
    cases u with
    | nil =>
      have hcolon : (c == CodePoint.ofChar ':') = false := by
        rw [beq_eq_false_iff_ne]
        rintro rfl
        exact hlast rfl
      rw [List.singleton_append, plainChunk]
      simp [hgap, hcolon, hafter]
    | cons d u =>
      have hd : beforeGap (d :: u ++ after) = false := not_isGap_of_isSolid (hu d List.mem_cons_self)
      rw [List.cons_append, plainChunk, ih (List.cons_ne_nil d u) hu hlast, hgap, hd]
      simp

/-- No word begins at a gap. -/
theorem plainChunk_gap (h : isGap c = true) (s : Text) : plainChunk false (c :: s) = [] := by
  rw [plainChunk]
  simp [h]

theorem Wrapped.plainChunk_eq_nil (h : Wrapped indent t s) (hafter : plainChunk false after = []) :
    plainChunk false (t ++ after) = [] := by
  cases h with
  | nil => exact hafter
  | same n => exact plainChunk_gap rfl _
  | next => exact plainChunk_gap rfl _

/-! ## Reading -/

/-- What ends a plain scalar, the place after the scalar and whether it is on a new line. -/
structure Ends (least : Int) (after : Text) (place : Text → Cursor) (onNewLine : Bool) : Prop where
  chunk : plainChunk false after = []
  rest : ∀ before fuel, after.length < fuel →
    plainRest false least fuel (Cursor.place before after) = ⟨[], place before, onNewLine⟩

theorem begins_of_isWord (h : IsWord u) {p : CodePoint → Bool} (hp : ∀ c, isSolid c = true → p c = false) (s : Text) :
    (u ++ s).begins p = false := by
  obtain ⟨c, u, rfl⟩ := List.exists_cons_of_ne_nil h.ne_nil
  exact hp c (h.solid c List.mem_cons_self)

theorem Wrapped.written (h : Wrapped indent t s) : ∀ c ∈ t, isPlainPoint c = true := by
  induction h with
  | nil => exact fun _ => nofun
  | same n hword _ _ ih =>
    intro c hc
    simp only [List.mem_append] at hc
    rcases hc with hc | hc | hc
    · exact isPlainPoint_of_mem_spaces hc
    · exact hword.plain c hc
    · exact ih c hc
  | next hword _ _ ih =>
    intro c hc
    simp only [List.mem_append] at hc
    rcases hc with hc | hc | hc
    · exact isPlainPoint_of_mem_lineStart hc
    · exact hword.plain c hc
    · exact ih c hc

theorem not_isSpace_of_isSolid (c : CodePoint) (h : isSolid c = true) : isSpace c = false :=
  (isSolid_iff.mp h).2.1

theorem not_startsBreak_of_isSolid (c : CodePoint) (h : isSolid c = true) : startsBreak c = false := by
  obtain ⟨hplain, -, hbreak⟩ := isSolid_iff.mp h
  rw [startsBreak_eq hplain, hbreak]

/-- Spaces on a line are read as they are. -/
theorem plainGap_spaces (hspace : after.begins isSpace = false) (hbreak : after.begins startsBreak = false) (n : Nat)
    (before : Text) :
    plainGap (Cursor.place before (spaces n ++ after)) = (spaces n, Cursor.place (spaces n ++ before) after) := by
  have hrun : (Cursor.place before (spaces n ++ after)).rest.takeWhile isSpace = spaces n :=
    takeWhile_spaces rfl hspace n
  have hnone : break? (Cursor.place (spaces n ++ before) after).rest = none := break?_eq_none hbreak
  unfold plainGap
  dsimp only
  rw [hrun, length_spaces, Cursor.forward_spaces, hnone]

/-- A line break and an indentation are read as a space. -/
theorem plainGap_lineStart (hspace : after.begins isSpace = false) (hbreak : after.begins startsBreak = false)
    (indent : Nat) (before : Text) :
    ∃ gap, plainGap (Cursor.place before (lineStart indent ++ after)) =
      (gap, Cursor.place ((lineStart indent).reverse ++ before) after) ∧ (0 < indent → gap = txt " ") := by
  have hfeed : isBreak (CodePoint.ofChar '\n') = true := rfl
  have hrun : (Cursor.place before (lineStart indent ++ after)).rest.takeWhile isSpace = [] := rfl
  have hfirst : break? (Cursor.place before (lineStart indent ++ after)).rest =
      some (CodePoint.ofChar '\n', spaces indent ++ after) := break?_cons hfeed _
  have hline : (Cursor.place before (lineStart indent ++ after)).newLine (spaces indent ++ after) =
      Cursor.place (CodePoint.ofChar '\n' :: before) (spaces indent ++ after) := Cursor.newLine_place hfeed
  have hnone : break? (Cursor.place (spaces indent ++ CodePoint.ofChar '\n' :: before) after).rest = none :=
    break?_eq_none hbreak
  have hlines : breakLines (Cursor.place (CodePoint.ofChar '\n' :: before) (spaces indent ++ after)).fuel
      (Cursor.place (CodePoint.ofChar '\n' :: before) (spaces indent ++ after)) =
      ([], Cursor.place (spaces indent ++ CodePoint.ofChar '\n' :: before) after) := by
    rw [Cursor.fuel_place, breakLines, Cursor.skipRun_spaces rfl hspace, hnone]
  unfold plainGap
  dsimp only
  rw [hrun, List.length_nil, Cursor.forward_zero, hfirst]
  dsimp only
  rw [hline, hlines, reverse_lineStart, List.append_assoc, List.singleton_append]
  cases indent with
  | zero =>
    -- a mark of a document may stand at the front of the line, where no spaces are
    by_cases hedge : (Cursor.place (CodePoint.ofChar '\n' :: before) (spaces 0 ++ after)).atDocumentEdge = true
    · rw [if_pos hedge]
      exact ⟨[], rfl, nofun⟩
    · have hedge' : ¬(Cursor.place (spaces 0 ++ CodePoint.ofChar '\n' :: before) after).atDocumentEdge = true := hedge
      rw [if_neg hedge, if_neg hedge']
      exact ⟨_, rfl, nofun⟩
  | succ n =>
    have hlast : lastLine (spaces (n + 1) ++ CodePoint.ofChar '\n' :: before) ≠ 0 := by
      rw [lastLine_spaces]
      omega
    have hedge : (Cursor.place (CodePoint.ofChar '\n' :: before) (spaces (n + 1) ++ after)).atDocumentEdge = false :=
      Cursor.atDocumentEdge_gap rfl
    rw [hedge, if_neg Bool.false_ne_true, Cursor.atDocumentEdge_column hlast, if_neg Bool.false_ne_true]
    exact ⟨_, rfl, fun _ => rfl⟩

/-- Where a gap and a word are read, the scalar goes on with them. -/
theorem plainRest_word {least : Int} {fuel : Nat} {gap before' : Text} {cur : Cursor} (hgap : gap ≠ [])
    (hread : plainGap cur = (gap, Cursor.place before' (u ++ after))) (h : IsWord u)
    (hhead : u.head? ≠ some (CodePoint.ofChar '#')) (hafter : plainChunk false after = [])
    (hcolumn : least ≤ lastLine before') :
    plainRest false least (fuel + 1) cur =
      { plainRest false least fuel (Cursor.place (u.reverse ++ before') after) with
        text := gap ++ u ++ (plainRest false least fuel (Cursor.place (u.reverse ++ before') after)).text } := by
  have hchunk := plainChunk_word h hafter
  have hforward := Cursor.forward_place before' after h.plain h.line
  have hcomment : (Cursor.place before' (u ++ after)).hasComment = false := by
    obtain ⟨c, u, rfl⟩ := List.exists_cons_of_ne_nil h.ne_nil
    simp only [Cursor.hasComment, Cursor.place, List.cons_append, List.head?_cons] at hhead ⊢
    exact beq_eq_false_iff_ne.mpr hhead
  have hnot : ¬((Cursor.place before' (u ++ after)).column : Int) < least := Int.not_lt.mpr hcolumn
  have hword : u.isEmpty = false := List.isEmpty_eq_false_iff.mpr h.ne_nil
  have hsome : gap.isEmpty = false := List.isEmpty_eq_false_iff.mpr hgap
  conv_lhs => unfold plainRest
  rw [hread]
  dsimp only
  rw [show (Cursor.place before' (u ++ after)).rest = u ++ after from rfl, hchunk, hforward, hcomment, hword, hsome]
  simp only [hnot, decide_false, Bool.and_false, Bool.or_self, Bool.false_eq_true, if_false]

/-- **The words after the first one are read back.** -/
theorem plainRest_wrapped {least : Int} {place : Text → Cursor} {onNewLine : Bool} (h : Wrapped indent t s)
    (hends : Ends least after place onNewLine) (hpos : 0 < indent) (hindent : least ≤ indent) {before : Text}
    (hcolumn : least ≤ lastLine before) {fuel : Nat} (hfuel : (t ++ after).length < fuel) :
    plainRest false least fuel (Cursor.place before (t ++ after)) = ⟨s, place (t.reverse ++ before), onNewLine⟩ := by
  induction h generalizing before fuel with
  | nil => exact hends.rest before fuel hfuel
  | @same n u t s hword hhead hrest ih =>
    obtain ⟨fuel, rfl⟩ := Nat.exists_eq_add_one_of_ne_zero (Nat.ne_zero_of_lt hfuel)
    simp only [List.append_assoc, List.length_append, length_spaces] at hfuel ⊢
    have hgap := plainGap_spaces (begins_of_isWord hword not_isSpace_of_isSolid (t ++ after))
      (begins_of_isWord hword not_startsBreak_of_isSolid (t ++ after)) (n + 1) before
    have hcolumn : least ≤ lastLine (spaces (n + 1) ++ before) := by
      rw [lastLine_spaces]
      omega
    have hnext : least ≤ lastLine (u.reverse ++ (spaces (n + 1) ++ before)) := by
      rw [lastLine_append hword.line]
      omega
    have hfuel : (t ++ after).length < fuel := by
      rw [List.length_append]
      omega
    rw [plainRest_word (spaces_succ_ne_nil n) hgap hword hhead (hrest.plainChunk_eq_nil hends.chunk) hcolumn,
      ih hnext hfuel]
    simp only [List.reverse_append, reverse_spaces, List.append_assoc]
  | @next u t s hword hhead hrest ih =>
    obtain ⟨fuel, rfl⟩ := Nat.exists_eq_add_one_of_ne_zero (Nat.ne_zero_of_lt hfuel)
    simp only [List.append_assoc, List.length_append, length_lineStart] at hfuel ⊢
    obtain ⟨gap, hgap, hsingle⟩ :=
      plainGap_lineStart (begins_of_isWord hword not_isSpace_of_isSolid (t ++ after))
        (begins_of_isWord hword not_startsBreak_of_isSolid (t ++ after)) indent before
    rw [hsingle hpos] at hgap
    have hcolumn : least ≤ lastLine ((lineStart indent).reverse ++ before) := by
      rw [lastLine_lineStart]
      exact hindent
    have hnext : least ≤ lastLine (u.reverse ++ ((lineStart indent).reverse ++ before)) := by
      rw [lastLine_append hword.line]
      omega
    have hfuel : (t ++ after).length < fuel := by
      rw [List.length_append]
      omega
    rw [plainRest_word (List.cons_ne_nil _ _) hgap hword hhead (hrest.plainChunk_eq_nil hends.chunk) hcolumn,
      ih hnext hfuel]
    simp only [List.reverse_append, List.append_assoc]
    rfl

/-! ## Writing -/

/-- **The words after the first one are written** with lines broken between them, at most where there is a single
space. Without folding they are written as they are. -/
theorem exists_wrapped (h : Words rs s) (fold : Bool) (indent : Nat) {w : Writer} (hspaced : w.spaced = false)
    (hfresh : w.fresh = false) :
    ∃ t, Wrapped indent t s ∧ (fold = false → t = s) ∧ w.Wrote t (Writer.plainRuns fold indent rs w) := by
  induction h generalizing w with
  | nil => exact ⟨[], .nil, fun _ => rfl, rfl, hspaced, hfresh⟩
  | @cons n u rs s hword hhead _ ih =>
    obtain ⟨t, hwrapped, hsame, hwrote⟩ := @ih (((w.putSpaces fold true indent (n + 1)).closeScalar).put u) rfl rfl
    by_cases hfold : (n + 1 == 1 && fold && true && decide (lineWidth < w.column)) = true
    · simp only [Bool.and_eq_true, beq_iff_eq, Nat.add_eq_right] at hfold
      obtain ⟨⟨⟨rfl, hfold⟩, -⟩, hcolumn⟩ := hfold
      have hput : w.putSpaces fold true indent (0 + 1) =
          ⟨(lineStart indent).reverse ++ w.reversed, indent, true, true⟩ := by
        rw [Writer.putSpaces, hfold, hcolumn]
        exact Writer.indentTo_break (.inl hfresh)
      refine ⟨lineStart indent ++ (u ++ t), .next hword hhead hwrapped, ?_, ?_⟩
      · intro hnot
        rw [hnot] at hfold
        cases hfold
      · rw [← List.append_assoc]
        apply hwrote.prepend
        rw [hput, List.reverse_append, List.append_assoc]
        rfl
    · have hput : w.putSpaces fold true indent (n + 1) = w.put (List.replicate (n + 1) (CodePoint.ofChar ' ')) :=
        if_neg hfold
      refine ⟨spaces (n + 1) ++ (u ++ t), .same n hword hhead hwrapped, ?_, ?_⟩
      · intro hnot
        rw [hsame hnot]
      · rw [← List.append_assoc]
        apply hwrote.prepend
        rw [hput, List.reverse_append, List.append_assoc]
        rfl

/-! ## Texts that can be written plain -/

theorem hasInnerMark_spaces (afterGap : Bool) (n : Nat) (s : Text) :
    hasInnerMark afterGap (spaces (n + 1) ++ s) = hasInnerMark true s := by
  induction n generalizing afterGap with
  | zero => rfl
  | succ n ih => exact ih true

/-- What is not marked has no colon before a gap and no comment after one. -/
theorem hasInnerMark_append {afterGap : Bool} (hne : u ≠ []) (hsolid : ∀ c ∈ u, isSolid c = true)
    (h : hasInnerMark afterGap (u ++ s) = false) :
    (beforeGap s = true → u.getLast? ≠ some (CodePoint.ofChar ':')) ∧
      (afterGap = true → u.head? ≠ some (CodePoint.ofChar '#')) ∧ hasInnerMark false s = false := by
  induction u generalizing afterGap with
  | nil => exact absurd rfl hne
  | cons c u ih =>
    obtain ⟨hc, hu⟩ := List.forall_mem_cons.mp hsolid
    rw [List.cons_append, hasInnerMark, Bool.or_eq_false_iff, Bool.or_eq_false_iff, not_isGap_of_isSolid hc] at h
    obtain ⟨⟨hcolon, hcomment⟩, hrest⟩ := h
    have hhead : afterGap = true → (c :: u).head? ≠ some (CodePoint.ofChar '#') := by
      rintro rfl
      simpa using hcomment
    cases u with
    | nil =>
      refine ⟨?_, hhead, hrest⟩
      intro hgap
      change beforeGap ([] ++ s) = true at hgap
      rw [hgap] at hcolon
      simpa using hcolon
    | cons d u =>
      obtain ⟨hlast, -, hmore⟩ := ih (List.cons_ne_nil d u) hu hrest
      exact ⟨hlast, hhead, hmore⟩

/-- A line that is not marked and does not end in a space is made of words. -/
theorem words_of_isRuns {afterGap : Bool} (h : IsRuns rs s) (hplain : ∀ c ∈ s, isPlainPoint c = true)
    (hline : ∀ c ∈ s, isBreak c = false) (hlast : s.getLast? ≠ some (CodePoint.ofChar ' '))
    (hmark : hasInnerMark afterGap s = false) :
    (s.begins isInner = false → Words rs s) ∧
      (s.begins isInner = true → ∃ u s' rs', rs = .solid u :: rs' ∧ s = u ++ s' ∧ IsWord u ∧
        (afterGap = true → u.head? ≠ some (CodePoint.ofChar '#')) ∧ Words rs' s') := by
  induction h generalizing afterGap with
  | nil => exact ⟨fun _ => .nil, nofun⟩
  | @spaces n rs s _ hbegins ih =>
    refine ⟨fun _ => ?_, nofun⟩
    rw [hasInnerMark_spaces] at hmark
    have hne : s ≠ [] := by
      rintro rfl
      apply hlast
      rw [List.append_nil, spaces, List.getLast?_replicate, if_neg (Nat.succ_ne_zero n)]
    have hlast' : s.getLast? ≠ some (CodePoint.ofChar ' ') := by
      rwa [List.getLast?_append_of_ne_nil _ hne] at hlast
    have hinner : s.begins isInner = true := by
      obtain ⟨c, s, rfl⟩ := List.exists_cons_of_ne_nil hne
      have hc := hline c (List.mem_append_right _ List.mem_cons_self)
      rw [Text.begins_cons] at hbegins ⊢
      rw [isInner, hbegins, hc]
      rfl
    have hplain' := fun c hc => hplain c (List.mem_append_right _ hc)
    have hline' := fun c hc => hline c (List.mem_append_right _ hc)
    obtain ⟨u, s', rs', rfl, rfl, hword, hhead, hwords⟩ := (ih hplain' hline' hlast' hmark).2 hinner
    exact .cons n hword (hhead rfl) hwords
  | @breaks run rs s hne hall =>
    obtain ⟨c, run, rfl⟩ := List.exists_cons_of_ne_nil hne
    have hc := hline c List.mem_cons_self
    rw [List.all_cons, hc] at hall
    cases hall
  | @solid run rs s hne hall _ hbegins ih =>
    have hbegin : (run ++ s).begins isInner = true := by
      obtain ⟨c, run, rfl⟩ := List.exists_cons_of_ne_nil hne
      exact (Bool.and_eq_true_iff.mp hall).1
    refine ⟨fun hnot => ?_, fun _ => ?_⟩
    · rw [hnot] at hbegin
      cases hbegin
    have hplain' := fun c hc => hplain c (List.mem_append_right run hc)
    have hsolid : ∀ c ∈ run, isSolid c = true := fun c hc =>
      isSolid_of_isInner (hplain c (List.mem_append_left s hc)) (List.all_eq_true.mp hall c hc)
    obtain ⟨hcolon, hhead, hmore⟩ := hasInnerMark_append hne hsolid hmark
    have hgap : beforeGap s = true := by
      cases s with
      | nil => rfl
      | cons c s =>
        rw [Text.begins_cons, isInner, Bool.not_eq_false'] at hbegins
        change isGap c = true
        rw [isGap_eq (hplain' c List.mem_cons_self), Bool.or_comm, hbegins]
    have hlast' : s.getLast? ≠ some (CodePoint.ofChar ' ') := by
      intro hspace
      have hne : s ≠ [] := by
        rintro rfl
        cases hspace
      rw [List.getLast?_append_of_ne_nil _ hne] at hlast
      exact hlast hspace
    have hwords := (ih hplain' (fun c hc => hline c (List.mem_append_right run hc)) hlast' hmore).1 hbegins
    exact ⟨run, s, rs, rfl, rfl, ⟨hne, hsolid, hcolon hgap⟩, hhead, hwords⟩

/-- The first word of a plain scalar: no mark of another token begins with it. -/
structure IsFirstWord (u : Text) : Prop extends IsWord u where
  lead : ∀ c ∈ u.head?, leadingMarks.contains c = false
  mark : ∀ c, u = [c] → (c == '?' || c == ':' || c == '-') = false
  dashes : Text.after? (txt "---") u = none
  dots : Text.after? (txt "...") u = none

/-- A plain scalar as it is written, and its text. -/
inductive PlainText (indent : Nat) : Text → Text → Prop
  | words {u t s : Text} : IsFirstWord u → Wrapped indent t s → PlainText indent (u ++ t) (u ++ s)

theorem PlainText.written (h : PlainText indent t s) : ∀ c ∈ t, isPlainPoint c = true := by
  cases h with
  | @words u t s hfirst hwrapped =>
    intro c hc
    rcases List.mem_append.mp hc with hc | hc
    · exact hfirst.plain c hc
    · exact hwrapped.written c hc

theorem after?_append_eq_none {start u s : Text} (h : Text.after? start (u ++ s) = none) :
    Text.after? start u = none := by
  rw [Option.eq_none_iff_forall_ne_some] at h ⊢
  intro rest hrest
  rw [Text.after?_eq_some] at hrest
  apply h (rest ++ s)
  rw [Text.after?_eq_some, hrest, List.append_assoc]

/-- A text that can be written plain begins with a word. -/
theorem exists_firstWord (hne : s ≠ []) (h : plainAllowed s = true) :
    ∃ u s' rs, Writer.runs s = .solid u :: rs ∧ s = u ++ s' ∧ IsFirstWord u ∧ Words rs s' := by
  obtain ⟨c, rest, rfl⟩ := List.exists_cons_of_ne_nil hne
  have hlast : (c :: rest).getLast? = some ((c :: rest).getLast hne) := List.getLast?_eq_getLast_of_ne_nil hne
  unfold plainAllowed at h
  rw [hlast, List.head?_cons] at h
  simp only [Bool.and_eq_true, Bool.not_eq_true', List.all_eq_true, List.any_eq_false] at h
  obtain ⟨⟨⟨⟨hfirst, hend⟩, hline⟩, hplain⟩, hmark⟩ := h
  have hline : ∀ d ∈ c :: rest, isBreak d = false := fun d hd => Bool.eq_false_iff.mpr (hline d hd)
  unfold hasMark at hmark
  simp only [Bool.or_eq_false_iff, Option.isSome_eq_false_iff, Option.isNone_iff_eq_none] at hmark
  obtain ⟨⟨⟨⟨hdashes, hdots⟩, hlead⟩, hgap⟩, hinner⟩ := hmark
  have hmarks : hasInnerMark true (c :: rest) = false := by
    have hcolon : (c == CodePoint.ofChar ':' && beforeGap rest) = false := by
      rw [Bool.and_eq_false_iff] at hgap ⊢
      refine hgap.imp_left fun h => ?_
      simp only [Bool.or_eq_false_iff] at h
      exact h.1.2
    have hcomment : c ≠ CodePoint.ofChar '#' := by
      rintro rfl
      cases hlead
    rw [hasInnerMark, hcolon, hinner, beq_eq_false_iff_ne.mpr hcomment]
    rfl
  have hspace : (c :: rest).getLast? ≠ some (CodePoint.ofChar ' ') := by
    rw [hlast]
    intro heq
    rw [Option.some.inj heq] at hend
    cases hend
  have hbegins : Text.begins isInner (c :: rest) = true := by
    rw [Text.begins_cons, isInner, hfirst, hline c List.mem_cons_self]
    rfl
  obtain ⟨u, s', rs, hruns, hs, hword, -, hwords⟩ :=
    (words_of_isRuns (Writer.isRuns_runs (c :: rest)) hplain hline hspace hmarks).2 hbegins
  refine ⟨u, s', rs, hruns, hs, ⟨hword, ?_, ?_, ?_, ?_⟩, hwords⟩
  · obtain ⟨d, u, rfl⟩ := List.exists_cons_of_ne_nil hword.ne_nil
    obtain ⟨rfl, -⟩ := List.cons.inj hs
    intro d hd
    cases hd
    exact hlead
  · rintro d rfl
    obtain ⟨rfl, hrest⟩ := List.cons.inj hs
    have hbefore : beforeGap rest = true := by
      rw [hrest]
      cases hwords <;> rfl
    rwa [hbefore, Bool.and_true] at hgap
  · rw [hs] at hdashes
    exact after?_append_eq_none hdashes
  · rw [hs] at hdots
    exact after?_append_eq_none hdots

/-- **A text that can be written plain is written as a plain scalar.** -/
theorem exists_plainText (hne : s ≠ []) (h : plainAllowed s = true) (fold : Bool) (indent : Nat) (w : Writer) :
    ∃ t, PlainText indent t s ∧ (fold = false → t = s) ∧
      w.Wrote (w.separator ++ t) (w.plain fold indent s) := by
  obtain ⟨u, s', rs, hruns, rfl, hfirst, hwords⟩ := exists_firstWord hne h
  let start := if w.spaced then w else w.put (txt " ")
  have hstart : start.reversed = w.separator.reverse ++ w.reversed := by
    cases hspaced : w.spaced <;> simp [start, hspaced, Writer.put, Writer.separator]
  obtain ⟨t, hwrapped, hsame, hwrote⟩ := exists_wrapped (w := start.closeScalar.put u) hwords fold indent rfl rfl
  refine ⟨u ++ t, .words hfirst hwrapped, ?_, ?_⟩
  · intro hnot
    rw [hsame hnot]
  · have hplain : w.plain fold indent (u ++ s') = Writer.plainRuns fold indent rs (start.closeScalar.put u) := by
      have hsome : (u ++ s').isEmpty = false := List.isEmpty_eq_false_iff.mpr hne
      rw [Writer.plain, hsome, if_neg Bool.false_ne_true, hruns]
      rfl
    rw [hplain, ← List.append_assoc]
    apply hwrote.prepend
    rw [List.reverse_append, List.append_assoc, ← hstart]
    rfl

/-! ## Whole scalars -/

/-- **A plain scalar is read back**, up to what ends it. -/
theorem plainScalar_plainText {least : Int} {place : Text → Cursor} {onNewLine : Bool} (h : PlainText indent t s)
    (hends : Ends least after place onNewLine) (hpos : 0 < indent) (hindent : least ≤ indent) (before : Text)
    (hcolumn : least ≤ lastLine before + 1) :
    plainScalar false least (Cursor.place before (t ++ after)) = ⟨s, place (t.reverse ++ before), onNewLine⟩ := by
  cases h with
  | @words u t s hfirst hwrapped =>
    have hword := hfirst.toIsWord
    have hchunk := plainChunk_word hword (hwrapped.plainChunk_eq_nil hends.chunk)
    have hforward := Cursor.forward_place before (t ++ after) hword.plain hword.line
    have hlength := List.length_pos_iff.mpr hword.ne_nil
    have hcolumn : least ≤ lastLine (u.reverse ++ before) := by
      rw [lastLine_append hword.line]
      omega
    have hfuel : (t ++ after).length < (Cursor.place before (u ++ (t ++ after))).fuel := by
      simp only [Cursor.fuel_place, List.length_append]
      omega
    have hrest := plainRest_wrapped hwrapped hends hpos hindent hcolumn hfuel
    rw [List.append_assoc, List.reverse_append, List.append_assoc]
    unfold plainScalar
    dsimp only
    rw [show (Cursor.place before (u ++ (t ++ after))).rest = u ++ (t ++ after) from rfl, hchunk, hforward, hrest]

/-! ## Ends -/

/-- A colon before a gap ends a plain scalar. -/
theorem ends_colon (least : Int) (h : beforeGap s = true) :
    Ends least (CodePoint.ofChar ':' :: s) (fun before => Cursor.place before (CodePoint.ofChar ':' :: s)) false := by
  have hcur : ∀ before, plainGap (Cursor.place before (CodePoint.ofChar ':' :: s)) =
      ([], Cursor.place before (CodePoint.ofChar ':' :: s)) := plainGap_spaces rfl rfl 0
  constructor
  · rw [plainChunk, h]
    rfl
  · intro before fuel hfuel
    obtain ⟨fuel, rfl⟩ := Nat.exists_eq_add_one_of_ne_zero (Nat.ne_zero_of_lt hfuel)
    unfold plainRest
    rw [hcur]
    simp

/-- A line on which nothing is indented enough ends a plain scalar. -/
theorem ends_lineStart {least : Int} (h : Cursor.AtToken after) (hindent : indent < least) :
    Ends least (lineStart indent ++ after) (fun before => Cursor.place ((lineStart indent).reverse ++ before) after)
      true := by
  refine ⟨plainChunk_gap rfl _, fun before fuel hfuel => ?_⟩
  obtain ⟨fuel, rfl⟩ := Nat.exists_eq_add_one_of_ne_zero (Nat.ne_zero_of_lt hfuel)
  obtain ⟨gap, hgap, -⟩ := plainGap_lineStart h.begins_isSpace h.begins_startsBreak indent before
  have hcolumn : ((Cursor.place ((lineStart indent).reverse ++ before) after).column : Int) < least := by
    change (lastLine ((lineStart indent).reverse ++ before) : Int) < least
    rw [lastLine_lineStart]
    exact hindent
  have hline : ((Cursor.place ((lineStart indent).reverse ++ before) after).line !=
      (Cursor.place before (lineStart indent ++ after)).line) = true := by
    rw [Cursor.line_lineStart, bne_iff_ne]
    exact Nat.succ_ne_self _
  unfold plainRest
  rw [hgap]
  dsimp only
  simp only [hline, hcolumn, decide_true, Bool.not_false, Bool.and_self, Bool.or_true, if_true]

end Mixfix.Yaml
