import Mixfix.Proofs.Except
import Mixfix.Proofs.Host.Yaml.Cursor

/-!
# Reading quoted scalars

What a quoted scalar reads as is told from its closing mark backwards: `ReadsQuoted` says that a text is read from a
place in the scalar on, and there is a lemma for every thing that may be put before such a place, be it a code point
that stands for itself, a space, line breaks, or an escape. So the fuel of the reader is dealt with here once.
-/

set_option autoImplicit false

namespace Mixfix.Yaml

variable {c : CodePoint} {s t before after : Text} {double : Bool} {last : Cursor} {indent n : Nat}

/-- From a place in a quoted scalar on, a text is read up to the closing mark. -/
def ReadsQuoted (double : Bool) (before after s : Text) (last : Cursor) : Prop :=
  ∀ fuel, after.length < fuel → quotedRest double fuel (Cursor.place before after) = .ok (s, last)

/-- A code point that stands for itself in a quoted scalar, wherever it stands. -/
def isQuotable (double : Bool) (c : CodePoint) : Bool :=
  isSolid c && !(if double then c == '"' || c == '\\' else c == '\'')

theorem readsQuoted_apostrophe (h : after.head? ≠ some (CodePoint.ofChar '\'')) :
    ReadsQuoted false before (CodePoint.ofChar '\'' :: after) []
      (Cursor.place (CodePoint.ofChar '\'' :: before) after) := by
  intro fuel hfuel
  obtain ⟨fuel, rfl⟩ := Nat.exists_eq_add_one_of_ne_zero (Nat.ne_zero_of_lt hfuel)
  have hforward : (Cursor.place before (CodePoint.ofChar '\'' :: after)).forward 1 = _ := Cursor.forward_one rfl rfl
  rw [← hforward]
  unfold quotedRest
  change (if after.head? == some (CodePoint.ofChar '\'') then _ else _) = _
  rw [beq_eq_false_iff_ne.mpr h, if_neg Bool.false_ne_true]

theorem readsQuoted_quotationMark :
    ReadsQuoted true before (CodePoint.ofChar '"' :: after) []
      (Cursor.place (CodePoint.ofChar '"' :: before) after) := by
  intro fuel hfuel
  obtain ⟨fuel, rfl⟩ := Nat.exists_eq_add_one_of_ne_zero (Nat.ne_zero_of_lt hfuel)
  have hforward : (Cursor.place before (CodePoint.ofChar '"' :: after)).forward 1 = _ := Cursor.forward_one rfl rfl
  rw [← hforward]
  unfold quotedRest
  rfl

/-- A code point that stands for itself is read as itself. -/
theorem ReadsQuoted.cons (h : ReadsQuoted double (c :: before) after s last) (hc : isQuotable double c = true) :
    ReadsQuoted double before (c :: after) (c :: s) last := by
  intro fuel hfuel
  obtain ⟨fuel, rfl⟩ := Nat.exists_eq_add_one_of_ne_zero (Nat.ne_zero_of_lt hfuel)
  rw [isQuotable, Bool.and_eq_true] at hc
  obtain ⟨hsolid, hmark⟩ := hc
  obtain ⟨hplain, hspace, hbreak⟩ := isSolid_iff.mp hsolid
  have hforward : (Cursor.place before (c :: after)).forward 1 = _ := Cursor.forward_one hplain hbreak
  have hgap : (isSpaceOrTab c || startsBreak c) = false := by
    rw [isSpaceOrTab_eq hplain, startsBreak_eq hplain, hspace, hbreak]
    rfl
  have hread := h fuel (Nat.lt_of_succ_lt_succ hfuel)
  have hrest : (Cursor.place before (c :: after)).rest = c :: after := rfl
  conv_lhs => unfold quotedRest
  cases double with
  | false =>
    have hne : c ≠ CodePoint.ofChar '\'' := by simpa using hmark
    simp only [hrest, hgap, hne, hforward, hread, decide_false, Bool.and_false, Bool.false_and, Bool.false_eq_true,
      if_false]
    rfl
  | true =>
    have hne : c ≠ CodePoint.ofChar '"' ∧ c ≠ CodePoint.ofChar '\\' := by simpa using hmark
    simp only [hrest, hgap, hne.1, hne.2, hforward, hread, decide_false, Bool.and_false, Bool.not_true, Bool.false_and,
      Bool.false_eq_true, if_false]
    rfl

theorem quotedRest_doubled (before after : Text) (fuel : Nat) :
    quotedRest false (fuel + 1) (Cursor.place before (CodePoint.ofChar '\'' :: CodePoint.ofChar '\'' :: after)) = (do
      let (more, last) ← quotedRest false fuel
        ((Cursor.place before (CodePoint.ofChar '\'' :: CodePoint.ofChar '\'' :: after)).forward 2)
      return (CodePoint.ofChar '\'' :: more, last)) := by
  conv_lhs => unfold quotedRest
  rfl

/-- Two apostrophes are read as one. -/
theorem ReadsQuoted.doubled
    (h : ReadsQuoted false (CodePoint.ofChar '\'' :: CodePoint.ofChar '\'' :: before) after s last) :
    ReadsQuoted false before (CodePoint.ofChar '\'' :: CodePoint.ofChar '\'' :: after) (CodePoint.ofChar '\'' :: s)
      last := by
  intro fuel hfuel
  obtain ⟨fuel, rfl⟩ := Nat.exists_eq_add_one_of_ne_zero (Nat.ne_zero_of_lt hfuel)
  have hforward : (Cursor.place before (CodePoint.ofChar '\'' :: CodePoint.ofChar '\'' :: after)).forward 2 = _ :=
    Cursor.forward_two rfl rfl rfl
  have hread := h fuel (by simp only [List.length_cons] at hfuel; omega)
  rw [quotedRest_doubled, hforward, hread]
  rfl

/-- Spaces with no break after them are read as they are. -/
theorem quotedRest_spaces {cur : Cursor} (hspace : Text.begins isSpaceOrTab cur.rest = true)
    (hnone : break? (cur.forward (cur.rest.takeWhile isSpaceOrTab).length).rest = none) (fuel : Nat) :
    quotedRest double (fuel + 1) cur = (do
      let (more, last) ← quotedRest double fuel (cur.forward (cur.rest.takeWhile isSpaceOrTab).length)
      return (cur.rest.takeWhile isSpaceOrTab ++ more, last)) := by
  conv_lhs => unfold quotedRest
  cases hrest : cur.rest with
  | nil =>
    rw [hrest] at hspace
    cases hspace
  | cons c s =>
    rw [hrest] at hspace hnone
    rw [Text.begins_cons] at hspace
    simp only [hspace, Bool.true_or, if_true, hnone]

/-- A space is read as itself, if no break follows it and the spaces after it. -/
theorem ReadsQuoted.space (h : ReadsQuoted double (CodePoint.ofChar ' ' :: before) after s last)
    (hafter : Text.begins startsBreak (after.dropWhile isSpaceOrTab) = false) :
    ReadsQuoted double before (CodePoint.ofChar ' ' :: after) (CodePoint.ofChar ' ' :: s) last := by
  intro fuel hfuel
  obtain ⟨fuel, rfl⟩ := Nat.exists_eq_add_one_of_ne_zero (Nat.ne_zero_of_lt hfuel)
  have hfuel := Nat.lt_of_succ_lt_succ hfuel
  let spaced := (Cursor.place (CodePoint.ofChar ' ' :: before) after).forward (after.takeWhile isSpaceOrTab).length
  have hrest : spaced.rest = after.dropWhile isSpaceOrTab := by
    have hsplit : after.takeWhile isSpaceOrTab ++ after.dropWhile isSpaceOrTab = after :=
      List.takeWhile_append_dropWhile
    have hdrop : (after.takeWhile isSpaceOrTab ++ after.dropWhile isSpaceOrTab).drop
        (after.takeWhile isSpaceOrTab).length = after.dropWhile isSpaceOrTab := List.drop_left
    rwa [hsplit] at hdrop
  have hnone : break? spaced.rest = none := by
    rw [hrest]
    exact break?_eq_none hafter
  have hforward : (Cursor.place before (CodePoint.ofChar ' ' :: after)).forward
      ((after.takeWhile isSpaceOrTab).length + 1) = spaced := Cursor.forward_cons rfl rfl _
  -- the spaces that follow are read with this one, or there are none
  obtain ⟨more, hread, rfl⟩ : ∃ more, quotedRest double fuel spaced = .ok (more, last) ∧
      s = after.takeWhile isSpaceOrTab ++ more := by
    cases hspace : Text.begins isSpaceOrTab after with
    | true =>
      have hread := h (fuel + 1) (Nat.lt_succ_of_lt hfuel)
      rw [quotedRest_spaces hspace hnone] at hread
      obtain ⟨⟨more, last'⟩, hmore, hpair⟩ := bind_eq_ok.mp hread
      cases hpair
      exact ⟨more, hmore, rfl⟩
    | false =>
      have hrun : after.takeWhile isSpaceOrTab = [] := takeWhile_spaces rfl hspace 0
      have hspaced : spaced = Cursor.place (CodePoint.ofChar ' ' :: before) after := by
        rw [show spaced = Cursor.forward _ _ from rfl, hrun]
        exact Cursor.forward_zero _ _
      exact ⟨s, by rw [hspaced, h fuel hfuel], by rw [hrun, List.nil_append]⟩
  have hrun : (Cursor.place before (CodePoint.ofChar ' ' :: after)).rest.takeWhile isSpaceOrTab =
      CodePoint.ofChar ' ' :: after.takeWhile isSpaceOrTab := rfl
  rw [quotedRest_spaces rfl (by rw [hrun, List.length_cons, hforward, hnone]), hrun, List.length_cons, hforward, hread]
  rfl

theorem not_isSpaceOrTab_of_isBreak (h : isBreak c = true) : isSpaceOrTab c = false := by
  rw [isBreak_iff] at h
  have hspace : (c == CodePoint.ofChar ' ') = false := CodePoint.beq_ofChar_eq_false (show c.val ≠ 0x20 by omega)
  have htab : (c == CodePoint.ofChar '\t') = false := CodePoint.beq_ofChar_eq_false (show c.val ≠ 0x09 by omega)
  rw [isSpaceOrTab, hspace, htab]
  rfl

/-- Breaks are read up to the indentation of the next line. -/
theorem quotedBreaks_place (before : Text) {run : Text} (hrun : ∀ c ∈ run, isBreak c = true) (hpos : 0 < indent)
    (hspace : after.begins isSpaceOrTab = false) (hbreak : after.begins startsBreak = false) {fuel : Nat}
    (hfuel : run.length < fuel) :
    quotedBreaks fuel (Cursor.place before (run ++ (spaces indent ++ after))) =
      .ok (run.map readBreak, Cursor.place (spaces indent ++ (run.reverse ++ before)) after) := by
  induction run generalizing before fuel with
  | nil =>
    obtain ⟨fuel, rfl⟩ := Nat.exists_eq_add_one_of_ne_zero (Nat.ne_zero_of_lt hfuel)
    have hedge : (Cursor.place before ([] ++ (spaces indent ++ after))).atDocumentEdge = false := by
      obtain ⟨n, rfl⟩ := Nat.exists_eq_add_one_of_ne_zero (Nat.ne_zero_of_lt hpos)
      exact Cursor.atDocumentEdge_gap rfl
    have hnone : break? (Cursor.place (spaces indent ++ before) after).rest = none := break?_eq_none hbreak
    rw [quotedBreaks, hedge, if_neg Bool.false_ne_true, List.nil_append, Cursor.skipRun_spaces rfl hspace]
    dsimp only
    rw [hnone]
    rfl
  | cons c run ih =>
    obtain ⟨fuel, rfl⟩ := Nat.exists_eq_add_one_of_ne_zero (Nat.ne_zero_of_lt hfuel)
    obtain ⟨hc, hrest⟩ := List.forall_mem_cons.mp hrun
    have hgap : isGap c = true := by simp only [isGap, hc, Bool.true_or]
    have hedge : (Cursor.place before (c :: run ++ (spaces indent ++ after))).atDocumentEdge = false := by
      apply Cursor.atDocumentEdge_gap
      rw [List.cons_append, Text.begins_cons, hgap]
      rfl
    have hnospace : Text.begins isSpaceOrTab (c :: run ++ (spaces indent ++ after)) = false :=
      not_isSpaceOrTab_of_isBreak hc
    have hskip : (Cursor.place before (c :: run ++ (spaces indent ++ after))).skipRun isSpaceOrTab =
        Cursor.place before (c :: run ++ (spaces indent ++ after)) := Cursor.skipRun_spaces rfl hnospace 0
    have hfirst : break? (Cursor.place before (c :: run ++ (spaces indent ++ after))).rest =
        some (readBreak c, run ++ (spaces indent ++ after)) := break?_cons hc _
    have hline : (Cursor.place before (c :: run ++ (spaces indent ++ after))).newLine
        (run ++ (spaces indent ++ after)) = _ := Cursor.newLine_place hc
    rw [quotedBreaks, hedge, if_neg Bool.false_ne_true, hskip]
    dsimp only
    rw [hfirst]
    dsimp only
    rw [hline, ih _ hrest (Nat.lt_of_succ_lt_succ hfuel), ok_bind, List.reverse_cons, List.append_assoc]
    rfl

/-- **Line breaks are read** with the indentation after them. -/
theorem ReadsQuoted.breaks (run : Text)
    (h : ReadsQuoted double (spaces indent ++ ((c :: run).reverse ++ before)) after s last)
    (hrun : ∀ d ∈ c :: run, isBreak d = true) (hpos : 0 < indent) (hspace : after.begins isSpaceOrTab = false)
    (hbreak : after.begins startsBreak = false) :
    ReadsQuoted double before (c :: run ++ (spaces indent ++ after))
      (foldedBreaks (readBreak c) (run.map readBreak) ++ s) last := by
  intro fuel hfuel
  obtain ⟨fuel, rfl⟩ := Nat.exists_eq_add_one_of_ne_zero (Nat.ne_zero_of_lt hfuel)
  obtain ⟨hc, hrest⟩ := List.forall_mem_cons.mp hrun
  have hcur : (Cursor.place before (c :: run ++ (spaces indent ++ after))).rest =
      c :: (run ++ (spaces indent ++ after)) := rfl
  have hstarts : (isSpaceOrTab c || startsBreak c) = true := by simp only [startsBreak, hc, Bool.true_or, Bool.or_true]
  have hnospace : (c :: (run ++ (spaces indent ++ after))).takeWhile isSpaceOrTab = [] :=
    List.takeWhile_cons_of_neg (by simp [not_isSpaceOrTab_of_isBreak hc])
  have hline : (Cursor.place before (c :: run ++ (spaces indent ++ after))).newLine
      (run ++ (spaces indent ++ after)) = _ := Cursor.newLine_place hc
  have henough : run.length < (Cursor.place before (c :: run ++ (spaces indent ++ after))).fuel := by
    simp only [Cursor.fuel_place, List.length_append, List.length_cons]
    omega
  have hbreaks := quotedBreaks_place (c :: before) hrest hpos hspace hbreak henough
  have hread := h fuel (by simp only [List.cons_append, List.length_cons, List.length_append] at hfuel; omega)
  rw [List.reverse_cons, List.append_assoc, List.singleton_append] at hread
  conv_lhs => unfold quotedRest
  rw [hcur]
  dsimp only
  rw [if_pos hstarts, hnospace, List.length_nil, Cursor.forward_zero, hcur, break?_cons hc]
  dsimp only
  rw [hline, hbreaks, ok_bind]
  dsimp only
  rw [hread]
  rfl

/-- What a backslash and a code point after it stand for is read from their escape. -/
theorem quotedRest_escape {e : CodePoint} (fuel : Nat) :
    quotedRest true (fuel + 1) (Cursor.place before (CodePoint.ofChar '\\' :: e :: after)) =
      match readEscape? e, escapeLength? e with
      | some d, _ => do
        let (more, last) ← quotedRest true fuel ((Cursor.place before (CodePoint.ofChar '\\' :: e :: after)).forward 2)
        return (d :: more, last)
      | none, some count =>
        let digits := after.take count
        if digits.length = count && digits.all CodePoint.isHexDigit then
          let n := ofBase 16 digits
          if h : n < 0x110000 then do
            let (more, last) ← quotedRest true fuel
              ((Cursor.place before (CodePoint.ofChar '\\' :: e :: after)).forward (count + 2))
            return (⟨n, h⟩ :: more, last)
          else if n < 0x80000000 then .error (.unreadable (txt "chr() arg not in range(0x110000)"))
          else .error .tooLarge
        else .error .malformed
      | none, none =>
        match break? (e :: after) with
        | none => .error .malformed
        | some (_, rest) => do
          let (breaks, cur) ← quotedBreaks (Cursor.place before (CodePoint.ofChar '\\' :: e :: after)).fuel
            ((Cursor.place before (CodePoint.ofChar '\\' :: e :: after)).newLine rest)
          let (more, last) ← quotedRest true fuel cur
          return (breaks ++ more, last) := by
  conv_lhs => unfold quotedRest
  rfl

/-- **A line break after a backslash is not read**, nor is the indentation of the next line. -/
theorem ReadsQuoted.continued
    (h : ReadsQuoted true (spaces indent ++ CodePoint.ofChar '\n' :: CodePoint.ofChar '\\' :: before) after s last)
    (hpos : 0 < indent) (hspace : after.begins isSpaceOrTab = false) (hbreak : after.begins startsBreak = false) :
    ReadsQuoted true before (CodePoint.ofChar '\\' :: (lineStart indent ++ after)) s last := by
  intro fuel hfuel
  obtain ⟨fuel, rfl⟩ := Nat.exists_eq_add_one_of_ne_zero (Nat.ne_zero_of_lt hfuel)
  have hline : (Cursor.place before (CodePoint.ofChar '\\' :: (lineStart indent ++ after))).newLine
      (spaces indent ++ after) =
      Cursor.place (CodePoint.ofChar '\n' :: CodePoint.ofChar '\\' :: before) (spaces indent ++ after) := by
    have hbackslash : isBreak (CodePoint.ofChar '\\') = false := rfl
    have hfeed : isBreak (CodePoint.ofChar '\n') = true := rfl
    rw [Cursor.newLine_cons hbackslash, lineStart, List.cons_append, Cursor.newLine_place hfeed]
  have hbreaks := quotedBreaks_place (CodePoint.ofChar '\n' :: CodePoint.ofChar '\\' :: before)
    (List.forall_mem_nil _) hpos hspace hbreak
    (Nat.succ_pos (before.length + (CodePoint.ofChar '\\' :: (lineStart indent ++ after)).length))
  have hread := h fuel (by simp only [List.length_cons, List.length_append, length_lineStart] at hfuel; omega)
  rw [List.nil_append, ← hline] at hbreaks
  refine (quotedRest_escape fuel).trans ?_
  change (do
    let (breaks, cur) ← quotedBreaks (before.length + (CodePoint.ofChar '\\' :: (lineStart indent ++ after)).length + 1)
      ((Cursor.place before (CodePoint.ofChar '\\' :: (lineStart indent ++ after))).newLine (spaces indent ++ after))
    let (more, last) ← quotedRest true fuel cur
    return (breaks ++ more, last)) = _
  rw [hbreaks, ok_bind]
  dsimp only
  rw [List.reverse_nil, List.nil_append, hread]
  rfl

/-- An escape of one letter is read. -/
theorem ReadsQuoted.letter {d e : CodePoint}
    (h : ReadsQuoted true (e :: CodePoint.ofChar '\\' :: before) after s last) (he : readEscape? e = some d)
    (hplain : isPlainPoint e = true) (hline : isBreak e = false) :
    ReadsQuoted true before (CodePoint.ofChar '\\' :: e :: after) (d :: s) last := by
  intro fuel hfuel
  obtain ⟨fuel, rfl⟩ := Nat.exists_eq_add_one_of_ne_zero (Nat.ne_zero_of_lt hfuel)
  have hforward : (Cursor.place before (CodePoint.ofChar '\\' :: e :: after)).forward 2 = _ :=
    Cursor.forward_two rfl hplain hline
  have hread := h fuel (by simp only [List.length_cons] at hfuel; omega)
  rw [quotedRest_escape, he]
  dsimp only
  rw [hforward, hread]
  rfl

theorem isSolid_of_isHexDigit (h : c.isHexDigit = true) : isSolid c = true := by
  simp only [CodePoint.isHexDigit, CodePoint.isDigit, CodePoint.between, Bool.or_eq_true, Bool.and_eq_true,
    decide_eq_true_eq] at h
  change ((48 ≤ c.val ∧ c.val ≤ 57) ∨ 65 ≤ c.val ∧ c.val ≤ 70) ∨ 97 ≤ c.val ∧ c.val ≤ 102 at h
  rw [isSolid_iff, isPlainPoint_iff, ← Bool.not_eq_true, ← Bool.not_eq_true, isSpace_iff, isBreak_iff]
  omega

/-- An escape of hexadecimal digits is read. -/
theorem ReadsQuoted.number {e : CodePoint} {count : Nat} {digits : Text}
    (h : ReadsQuoted true (digits.reverse ++ e :: CodePoint.ofChar '\\' :: before) after s last)
    (hnone : readEscape? e = none) (hsome : escapeLength? e = some count) (he : isSolid e = true)
    (hlength : digits.length = count) (hdigits : digits.all CodePoint.isHexDigit = true)
    (hc : ofBase 16 digits = c.val) :
    ReadsQuoted true before (CodePoint.ofChar '\\' :: e :: (digits ++ after)) (c :: s) last := by
  intro fuel hfuel
  obtain ⟨fuel, rfl⟩ := Nat.exists_eq_add_one_of_ne_zero (Nat.ne_zero_of_lt hfuel)
  have hpoints : ∀ d ∈ CodePoint.ofChar '\\' :: e :: digits, isSolid d = true := by
    intro d hd
    rcases List.mem_cons.mp hd with rfl | hd
    · rfl
    rcases List.mem_cons.mp hd with rfl | hd
    · exact he
    · exact isSolid_of_isHexDigit (List.all_eq_true.mp hdigits d hd)
  have hforward := Cursor.forward_place before after
    (fun d hd => (isSolid_iff.mp (hpoints d hd)).1) fun d hd => (isSolid_iff.mp (hpoints d hd)).2.2
  have hread := h fuel (by simp only [List.length_cons, List.length_append] at hfuel; omega)
  have htake : (digits ++ after).take count = digits := by rw [← hlength, List.take_left]
  have hlt : ofBase 16 digits < 0x110000 := hc ▸ c.isLt
  have hpoint : (⟨ofBase 16 digits, hlt⟩ : CodePoint) = c := Fin.ext hc
  rw [quotedRest_escape, hnone, hsome]
  dsimp only
  have hcursor : (Cursor.place before (CodePoint.ofChar '\\' :: e :: (digits ++ after))).forward (count + 2) =
      Cursor.place (digits.reverse ++ e :: CodePoint.ofChar '\\' :: before) after := by
    rw [List.length_cons, List.length_cons, hlength, List.reverse_cons, List.reverse_cons, List.append_assoc,
      List.append_assoc] at hforward
    exact hforward
  rw [htake, hlength, hdigits, Bool.and_true, if_pos (decide_eq_true rfl), dif_pos hlt, hpoint, hcursor, hread]
  rfl

theorem ReadsQuoted.spaces (n : Nat) (h : ReadsQuoted double (Yaml.spaces n ++ before) after s last)
    (hspace : after.begins isSpaceOrTab = false) (hbreak : after.begins startsBreak = false) :
    ReadsQuoted double before (Yaml.spaces n ++ after) (Yaml.spaces n ++ s) last := by
  induction n generalizing before with
  | zero => exact h
  | succ n ih =>
    have hswap : Yaml.spaces (n + 1) ++ before = Yaml.spaces n ++ CodePoint.ofChar ' ' :: before := by
      rw [Yaml.spaces, List.replicate_succ', List.append_assoc, List.singleton_append, Yaml.spaces]
    rw [hswap] at h
    apply ReadsQuoted.space (ih h)
    rwa [dropWhile_spaces rfl hspace]

end Mixfix.Yaml
