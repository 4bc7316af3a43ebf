import Mixfix.Proofs.Host.Yaml.Scan

/-!
# Maps in block layout, there and back

What stands after a colon (`ReadsValue`) and the entries of a map (`ReadsEntries`) are read as their lexemes up to the
next line, whatever stands on it. That line is not indented more than the map around, so that the reader knows there
that a scalar or a map has ended. Entries are put together from values, and values of entries.

A key on the line of its value is only known to be one at its colon, so it must not be too far away (`leads_key`).
-/

set_option autoImplicit false

namespace Mixfix.Yaml

open Yaml.Scan (ReadsAt Leads Enters outside innermost)

variable {c : CodePoint} {s t before after rest : Text} {indent m k : Nat} {isPlain allowed : Bool}
  {read read' ls : List Lexeme} {columns columns' : List Nat} {σ : Scan}

/-! ## Texts of scalars -/

theorem ScalarText.exists_cons (h : ScalarText indent isPlain t s) :
    ∃ c t', t = c :: t' ∧ Cursor.isStart c = true := by
  cases h with
  | plain h =>
    cases h with
    | @words u t s hfirst _ =>
      obtain ⟨c, u, rfl⟩ := List.exists_cons_of_ne_nil hfirst.ne_nil
      have hsolid := hfirst.solid c List.mem_cons_self
      have hne := hfirst.ne_mark '#' (by decide)
      refine ⟨c, u ++ t, rfl, ?_⟩
      rw [Cursor.isStart, not_isSpace_of_isSolid c hsolid, not_startsBreak_of_isSolid c hsolid, bne_iff_ne.mpr hne]
      rfl
  | apostrophes => exact ⟨_, _, rfl, rfl⟩
  | quotationMarks => exact ⟨_, _, rfl, rfl⟩

theorem atToken_append (h : ∃ c t', t = c :: t' ∧ Cursor.isStart c = true) (after : Text) :
    Cursor.AtToken (t ++ after) := by
  obtain ⟨c, t, rfl, hc⟩ := h
  rintro d hd
  cases hd
  exact hc

/-! ## Scalars -/

theorem lapses_offered (h : innermost columns < lastLine before) (s : Text) (read : List Lexeme) (allowed : Bool)
    (t : Text) :
    Scan.Lapses (Scan.offered (Cursor.place before s) read columns allowed) (t ++ before) := by
  intro c hc
  unfold Scan.offered at hc
  split at hc
  · cases hc
    constructor
    · exact beq_eq_false_iff_ne.mpr (Int.ne_of_lt h)
    · change before.countP isBreak ≤ (t ++ before).countP isBreak
      rw [List.countP_append]
      exact Nat.le_add_left _ _
  · cases hc

/-- **A scalar is read up to the next line**, which is not indented more than the map around it. -/
theorem leads_scalar (h : ReadsAt σ before (t ++ (lineStart k ++ rest)) read columns none allowed)
    (ht : ScalarText indent isPlain t s) (hindent : innermost columns < indent)
    (hcolumn : innermost columns < lastLine before)
    (hpos : 0 < indent) (hk : (k : Int) ≤ innermost columns) (hrest : Cursor.AtToken rest) :
    ∃ σ', Leads σ σ' ∧ ReadsAt σ' ((lineStart k).reverse ++ (t.reverse ++ before)) rest (.scalar isPlain s :: read)
      columns none true := by
  have hends := ends_lineStart hrest (Int.lt_add_one_of_le hk)
  have hquote : some (CodePoint.ofChar '\n') ≠ some (CodePoint.ofChar '\'') := by decide
  have hstep := h.step_scalar ht hends hquote hindent (Int.le_of_lt hcolumn) hpos
  have hlapses := lapses_offered hcolumn (t ++ (lineStart k ++ rest)) read allowed t.reverse
  obtain ⟨c, t', rfl, -⟩ := ht.exists_cons
  have hlength := h.length
  simp only [List.length_append, List.length_cons, length_lineStart] at hlength
  refine ⟨_, .of_step hstep nofun ?_, ?_⟩
  · cases isPlain with
    | true =>
      change rest.length < _
      omega
    | false =>
      change (lineStart k ++ rest).length < _
      rw [List.length_append, length_lineStart]
      omega
  · cases isPlain with
    | true =>
      apply Scan.readsAt_here hrest
      apply Scan.unexpired_of_lapses hlapses
      rw [Cursor.line_lineStart]
      exact Nat.lt_succ_self _
    | false => exact Scan.readsAt_lineStart hrest hlapses

/-! ## Keys -/

/-- **A key with its colon** is read, where its line is not too long. -/
theorem leads_key (h : ReadsAt σ before (t ++ CodePoint.ofChar ':' :: after) read columns none true)
    (ht : ScalarText indent isPlain t s) (hline : ∀ c ∈ t, isBreak c = false) (hreach : t.length ≤ keyReach)
    (henters : Enters (lastLine before) read columns read' columns') (hgap : beforeGap after = true)
    (hindent : lastLine before < indent) :
    Leads σ (outside (Cursor.place (CodePoint.ofChar ':' :: (t.reverse ++ before)) after)
      (.value :: .scalar isPlain s :: .key :: read') (lastLine before :: columns') none false) := by
  have hinnermost := henters.innermost_le
  have hquote : some (CodePoint.ofChar ':') ≠ some (CodePoint.ofChar '\'') := by decide
  let place := Cursor.place before (t ++ CodePoint.ofChar ':' :: after)
  let candidate : Candidate := ⟨read.length, innermost columns == (place.column : Int), place⟩
  let next := outside (Cursor.place (t.reverse ++ before) (CodePoint.ofChar ':' :: after)) (.scalar isPlain s :: read)
    columns (some candidate) false
  have hscalar : σ.step = .ok next := by
    rw [h.step_scalar ht (ends_colon _ hgap) hquote (by omega) hinnermost (by omega)]
    cases isPlain <;> rfl
  have hsame : place.line = (Cursor.place (t.reverse ++ before) (CodePoint.ofChar ':' :: after)).line := by
    have hbreaks : t.reverse.countP isBreak = 0 := by
      rw [List.countP_eq_zero]
      intro c hc
      rw [hline c (List.mem_reverse.mp hc)]
      exact Bool.false_ne_true
    change before.countP isBreak = (t.reverse ++ before).countP isBreak
    rw [List.countP_append, hbreaks, Nat.zero_add]
  have hlast : lastLine (t.reverse ++ before) = lastLine before + t.length := lastLine_append hline
  have hwithin :
      (Cursor.place (t.reverse ++ before) (CodePoint.ofChar ':' :: after)).offset ≤ place.offset + keyReach := by
    change lastLine (t.reverse ++ before) ≤ lastLine before + keyReach
    omega
  have hcolon : Cursor.AtToken (CodePoint.ofChar ':' :: after) := by
    rintro d hd
    cases hd
    rfl
  have hnext : ReadsAt next (t.reverse ++ before) (CodePoint.ofChar ':' :: after) (.scalar isPlain s :: read) columns
      (some candidate) false := Scan.readsAt_here hcolon (Scan.unexpired_of_reach hsame hwithin)
  have hvalue : next.step = .ok (outside (Cursor.place (CodePoint.ofChar ':' :: (t.reverse ++ before)) after)
      (.value :: .scalar isPlain s :: .key :: read') (lastLine before :: columns') none false) := by
    rw [hnext.step (by rw [hlast]; omega)]
    exact Scan.readAt_colon_candidate (.scalar isPlain s) henters hgap
  obtain ⟨c, t', rfl, -⟩ := ht.exists_cons
  have hlength := h.length
  refine (Leads.of_step hscalar nofun ?_).trans (.of_step hvalue nofun (Nat.lt_succ_self _))
  simp only [List.length_append, List.length_cons] at hlength
  change (CodePoint.ofChar ':' :: after).length < _
  rw [List.length_cons]
  omega

/-! ## Entries -/

/-- After a colon, a text is read as the lexemes of a value of a map at a column, up to the next line. The flag says
that the colon stands at the front of its line, and not after a key. -/
structure ReadsValue (m : Nat) (inFront : Bool) (t : Text) (ls : List Lexeme) : Prop where
  gap : t.begins isGap = true
  written : ∀ c ∈ t, isPlainPoint c = true
  reads : ∀ (before : Text) (read : List Lexeme) (columns : List Nat) {rest : Text} {k : Nat}, k ≤ m →
    Cursor.AtToken rest → m < lastLine before → (inFront = true → lastLine before = m + 1) →
    ∃ σ', Leads (outside (Cursor.place before (t ++ (lineStart k ++ rest))) read (m :: columns) none inFront) σ' ∧
      ReadsAt σ' ((lineStart k).reverse ++ (t.reverse ++ before)) rest (ls.reverse ++ read) (m :: columns) none true

/-- At a column, a text is read as the lexemes of entries of a map, up to the next line. -/
structure ReadsEntries (m : Nat) (t : Text) (ls : List Lexeme) : Prop where
  start : ∃ c t', t = c :: t' ∧ Cursor.isStart c = true
  written : ∀ c ∈ t, isPlainPoint c = true
  reads : ∀ {σ : Scan} {before rest : Text} {read read' : List Lexeme} {columns columns' : List Nat} {k : Nat}, k ≤ m →
    Cursor.AtToken rest → lastLine before = m → Enters m read columns read' columns' →
    ReadsAt σ before (t ++ (lineStart k ++ rest)) read columns none true →
    ∃ σ', Leads σ σ' ∧
      ReadsAt σ' ((lineStart k).reverse ++ (t.reverse ++ before)) rest (ls.reverse ++ read') (m :: columns') none true

theorem ReadsValue.beforeGap {inFront : Bool} (h : ReadsValue m inFront t ls) (after : Text) :
    Yaml.beforeGap (t ++ after) = true := by
  cases t with
  | nil => cases h.gap
  | cons c t => exact h.gap

/-- A scalar after a colon. -/
theorem ReadsValue.scalar (ht : ScalarText (m + 2) isPlain t s) (inFront : Bool) :
    ReadsValue m inFront (CodePoint.ofChar ' ' :: t) [.scalar isPlain s] := by
  refine ⟨rfl, ?_, ?_⟩
  · intro c hc
    rcases List.mem_cons.mp hc with rfl | hc
    · rfl
    · exact ht.written c hc
  intro before read columns rest k hk hrest hcolumn _
  have htoken := atToken_append ht.exists_cons (lineStart k ++ rest)
  have hreads : ReadsAt (outside (Cursor.place before (CodePoint.ofChar ' ' :: (t ++ (lineStart k ++ rest)))) read
      (m :: columns) none inFront) (CodePoint.ofChar ' ' :: before) (t ++ (lineStart k ++ rest)) read (m :: columns)
      none inFront := Scan.readsAt_spaces htoken 1
  have hlast : lastLine (CodePoint.ofChar ' ' :: before) = lastLine before + 1 := lastLine_cons rfl
  have hinner : innermost (m :: columns) = m := rfl
  obtain ⟨σ', hleads, hat⟩ := leads_scalar hreads ht (by omega) (by omega) (by omega) (by omega) hrest
  refine ⟨σ', hleads, ?_⟩
  rw [List.reverse_cons, List.append_assoc]
  exact hat

/-- The lexemes of a map. -/
def mapLexemes (ls : List Lexeme) : List Lexeme :=
  .blockMap :: (ls ++ [.blockEnd])

/-- A map after a colon is left where the next line is not indented as it is. -/
theorem ReadsEntries.map (h : ReadsEntries (m + 2) t ls) (hk : k ≤ m) (hrest : Cursor.AtToken rest)
    (hcolumn : lastLine before = m + 2)
    (hat : ReadsAt σ before (t ++ (lineStart k ++ rest)) read (m :: columns) none true) :
    ∃ σ', Leads σ σ' ∧ ReadsAt σ' ((lineStart k).reverse ++ (t.reverse ++ before)) rest
      ((mapLexemes ls).reverse ++ read) (m :: columns) none true := by
  have henters : Enters (m + 2) read (m :: columns) (.blockMap :: read) (m :: columns) :=
    .first (show (m : Int) < (m + 2 : Nat) by omega)
  obtain ⟨σ', hleads, hat'⟩ := h.reads (by omega) hrest hcolumn henters hat
  have hpop := hat'.pop (by rw [lastLine_lineStart]; omega)
  refine ⟨σ', hleads, ?_⟩
  rw [mapLexemes, List.reverse_cons, List.reverse_append, List.append_assoc]
  exact hpop

/-- A map on the lines after a key. -/
theorem ReadsValue.lines (h : ReadsEntries (m + 2) t ls) :
    ReadsValue m false (lineStart (m + 2) ++ t) (mapLexemes ls) := by
  refine ⟨rfl, ?_, ?_⟩
  · intro c hc
    rcases List.mem_append.mp hc with hc | hc
    · exact isPlainPoint_of_mem_lineStart hc
    · exact h.written c hc
  intro before read columns rest k hk hrest _ _
  have htoken := atToken_append h.start (lineStart k ++ rest)
  have hat : ReadsAt (outside (Cursor.place before (lineStart (m + 2) ++ (t ++ (lineStart k ++ rest)))) read
      (m :: columns) none false) ((lineStart (m + 2)).reverse ++ before) (t ++ (lineStart k ++ rest)) read
      (m :: columns) none true :=
    Scan.readsAt_lineStart htoken (by rintro c ⟨⟩)
  obtain ⟨σ', hleads, hat'⟩ := h.map hk hrest (lastLine_lineStart (m + 2) before) hat
  refine ⟨σ', ?_, ?_⟩
  · rw [List.append_assoc]
    exact hleads
  · rw [List.reverse_append, List.append_assoc]
    exact hat'

/-- A map on the line of its colon. -/
theorem ReadsValue.line (h : ReadsEntries (m + 2) t ls) :
    ReadsValue m true (CodePoint.ofChar ' ' :: t) (mapLexemes ls) := by
  refine ⟨rfl, ?_, ?_⟩
  · intro c hc
    rcases List.mem_cons.mp hc with rfl | hc
    · rfl
    · exact h.written c hc
  intro before read columns rest k hk hrest _ hcolumn
  have htoken := atToken_append h.start (lineStart k ++ rest)
  have hat : ReadsAt (outside (Cursor.place before (CodePoint.ofChar ' ' :: (t ++ (lineStart k ++ rest)))) read
      (m :: columns) none true) (CodePoint.ofChar ' ' :: before) (t ++ (lineStart k ++ rest)) read (m :: columns) none
      true := Scan.readsAt_spaces htoken 1
  have hlast : lastLine (CodePoint.ofChar ' ' :: before) = lastLine before + 1 := lastLine_cons rfl
  obtain ⟨σ', hleads, hat'⟩ := h.map hk hrest (by rw [hlast, hcolumn rfl]) hat
  refine ⟨σ', hleads, ?_⟩
  rw [List.reverse_cons, List.append_assoc]
  exact hat'

/-- The lexemes of an entry. -/
def entryLexemes (isPlain : Bool) (key : Text) (ls : List Lexeme) : List Lexeme :=
  .key :: .scalar isPlain key :: .value :: ls

/-- An entry whose key stands on the line with its value. -/
theorem ReadsEntries.simple {key : Text} (hkey : ScalarText (m + 2) isPlain key s)
    (hline : ∀ c ∈ key, isBreak c = false)
    (hreach : key.length ≤ keyReach) (hvalue : ReadsValue m false t ls) :
    ReadsEntries m (key ++ CodePoint.ofChar ':' :: t) (entryLexemes isPlain s ls) := by
  refine ⟨?_, ?_, ?_⟩
  · obtain ⟨c, key, rfl, hc⟩ := hkey.exists_cons
    exact ⟨c, _, rfl, hc⟩
  · intro c hc
    rcases List.mem_append.mp hc with hc | hc
    · exact hkey.written c hc
    · rcases List.mem_cons.mp hc with rfl | hc
      · rfl
      · exact hvalue.written c hc
  intro σ before rest read read' columns columns' k hk hrest hcolumn henters hat
  rw [← hcolumn] at henters
  rw [List.append_assoc, List.cons_append] at hat
  have hfirst := leads_key hat hkey hline hreach henters (hvalue.beforeGap _) (by omega)
  rw [hcolumn] at hfirst
  have hlast : lastLine (CodePoint.ofChar ':' :: (key.reverse ++ before)) = lastLine (key.reverse ++ before) + 1 :=
    lastLine_cons rfl
  have hlast' : lastLine (key.reverse ++ before) = lastLine before + key.length := lastLine_append hline
  obtain ⟨σ', hleads, hat'⟩ := hvalue.reads (CodePoint.ofChar ':' :: (key.reverse ++ before))
    (.value :: .scalar isPlain s :: .key :: read') columns' hk hrest (by omega) nofun
  refine ⟨σ', hfirst.trans hleads, ?_⟩
  simp only [entryLexemes, List.reverse_cons, List.reverse_append, List.append_assoc] at hat' ⊢
  exact hat'

/-- An entry whose key stands after a question mark. -/
theorem ReadsEntries.marked {key : Text} (hkey : ScalarText (m + 2) isPlain key s) (hvalue : ReadsValue m true t ls) :
    ReadsEntries m (CodePoint.ofChar '?' :: CodePoint.ofChar ' ' :: (key ++ (lineStart m ++ CodePoint.ofChar ':' :: t)))
      (entryLexemes isPlain s ls) := by
  refine ⟨⟨_, _, rfl, rfl⟩, ?_, ?_⟩
  · intro c hc
    simp only [List.mem_cons, List.mem_append] at hc
    rcases hc with rfl | rfl | hc | hc | rfl | hc
    · rfl
    · rfl
    · exact hkey.written c hc
    · exact isPlainPoint_of_mem_lineStart hc
    · rfl
    · exact hvalue.written c hc
  intro σ before rest read read' columns columns' k hk hrest hcolumn henters hat
  have hinnermost : innermost columns ≤ lastLine before := hcolumn ▸ henters.innermost_le
  rw [← hcolumn] at henters
  simp only [List.cons_append, List.append_assoc] at hat
  let tail : Text := t ++ (lineStart k ++ rest)
  have hquestion : σ.step = .ok (outside (Cursor.place (CodePoint.ofChar '?' :: before)
      (CodePoint.ofChar ' ' :: (key ++ (lineStart m ++ CodePoint.ofChar ':' :: tail)))) (.key :: read')
      (lastLine before :: columns') none true) := by
    rw [hat.step hinnermost]
    exact Scan.readAt_questionMark henters rfl
  rw [hcolumn] at hquestion
  have htoken := atToken_append hkey.exists_cons (lineStart m ++ CodePoint.ofChar ':' :: tail)
  have hspaced : ReadsAt (outside (Cursor.place (CodePoint.ofChar '?' :: before)
      (CodePoint.ofChar ' ' :: (key ++ (lineStart m ++ CodePoint.ofChar ':' :: tail)))) (.key :: read') (m :: columns')
      none true) (CodePoint.ofChar ' ' :: CodePoint.ofChar '?' :: before)
      (key ++ (lineStart m ++ CodePoint.ofChar ':' :: tail)) (.key :: read') (m :: columns') none true :=
    Scan.readsAt_spaces htoken 1
  have hlast : lastLine (CodePoint.ofChar ' ' :: CodePoint.ofChar '?' :: before) = lastLine before + 1 + 1 := by
    rw [lastLine_cons rfl, lastLine_cons rfl]
  have hinner : innermost (m :: columns') = m := rfl
  have hcolon : Cursor.AtToken (CodePoint.ofChar ':' :: tail) := by
    rintro d hd
    cases hd
    rfl
  obtain ⟨σ₁, hleads₁, hat₁⟩ := leads_scalar hspaced hkey (by omega) (by omega) (by omega) (by omega) hcolon
  generalize hfront : (lineStart m).reverse ++ (key.reverse ++ CodePoint.ofChar ' ' :: CodePoint.ofChar '?' :: before) =
    front at hat₁
  have hcolumn₁ : lastLine front = m := by
    rw [← hfront]
    exact lastLine_lineStart m _
  have hvalues : σ₁.step = .ok (outside (Cursor.place (CodePoint.ofChar ':' :: front) tail)
      (.value :: .scalar isPlain s :: .key :: read') (m :: columns') none true) := by
    rw [hat₁.step (by omega), ← hcolumn₁]
    exact Scan.readAt_colon_none (hvalue.beforeGap _) columns'
  have hlast₁ : lastLine (CodePoint.ofChar ':' :: front) = lastLine front + 1 := lastLine_cons rfl
  obtain ⟨σ', hleads, hat'⟩ := hvalue.reads (CodePoint.ofChar ':' :: front)
    (.value :: .scalar isPlain s :: .key :: read') columns' hk hrest (by omega) (fun _ => by omega)
  refine ⟨σ', (Leads.of_step hquestion nofun hat.length).trans (hleads₁.trans
    ((Leads.of_step hvalues nofun hat₁.length).trans hleads)), ?_⟩
  rw [← hfront] at hat'
  simp only [entryLexemes, List.reverse_cons, List.reverse_append, List.append_assoc] at hat' ⊢
  exact hat'

/-- Entries on one line after the other. -/
theorem ReadsEntries.append {t' : Text} {ls' : List Lexeme} (h : ReadsEntries m t ls) (h' : ReadsEntries m t' ls') :
    ReadsEntries m (t ++ (lineStart m ++ t')) (ls ++ ls') := by
  refine ⟨?_, ?_, ?_⟩
  · obtain ⟨c, t, rfl, hc⟩ := h.start
    exact ⟨c, _, rfl, hc⟩
  · intro c hc
    simp only [List.mem_append] at hc
    rcases hc with hc | hc | hc
    · exact h.written c hc
    · exact isPlainPoint_of_mem_lineStart hc
    · exact h'.written c hc
  intro σ before rest read read' columns columns' k hk hrest hcolumn henters hat
  simp only [List.append_assoc] at hat
  have htoken := atToken_append h'.start (lineStart k ++ rest)
  obtain ⟨σ', hleads, hat'⟩ := h.reads (Nat.le_refl m) htoken hcolumn henters hat
  obtain ⟨σ'', hleads', hat''⟩ := h'.reads hk hrest (lastLine_lineStart m _) (.other _ _) hat'
  refine ⟨σ'', hleads.trans hleads', ?_⟩
  simp only [List.reverse_append, List.append_assoc] at hat'' ⊢
  exact hat''

end Mixfix.Yaml
