import Mixfix.Proofs.Except
import Mixfix.Proofs.Host.Yaml.Scalar

/-!
# Scanning what is written

What the scanner does from one lexeme to the next. Nothing that is looked at here is between brackets, so a state is a
place, the lexemes before it, the columns of the maps around it and the candidate for a key (`Scan.outside`).

A state is known by the place at which its next lexeme is read (`Scan.ReadsAt`): it does not matter whether the gap
before that place was skipped already, nor whether the maps that end there were left already. `Scan.Leads` goes from
one state to a later one, and takes care of the fuel.
-/

set_option autoImplicit false

namespace Mixfix.Yaml

variable {c : CodePoint} {s t before after : Text} {indent : Nat} {isPlain allowed : Bool} {read : List Lexeme}
  {columns : List Nat} {candidate : Option Candidate} {cur : Cursor} {σ σ' σ'' : Scan}

namespace Scan

/-! ## Steps -/

/-- One state comes after another, with a step at most for every code point between them. -/
def Leads (σ σ' : Scan) : Prop :=
  ∃ steps, steps + σ'.cursor.rest.length ≤ σ.cursor.rest.length ∧ ∀ fuel, run (steps + fuel) σ = run fuel σ'

theorem Leads.trans (h : Leads σ σ') (h' : Leads σ' σ'') : Leads σ σ'' := by
  obtain ⟨n, hlength, hrun⟩ := h
  obtain ⟨n', hlength', hrun'⟩ := h'
  refine ⟨n + n', by omega, fun fuel => ?_⟩
  rw [Nat.add_assoc, hrun, hrun']

/-- A step that reads something, and not the end of the text. -/
theorem Leads.of_step (h : σ.step = .ok σ') (hfinish : ∀ ls, σ'.lexemes ≠ .finish :: ls)
    (hlength : σ'.cursor.rest.length < σ.cursor.rest.length) : Leads σ σ' := by
  refine ⟨1, by omega, fun fuel => ?_⟩
  rw [Nat.add_comm, run, h]
  dsimp only
  split
  · exact absurd ‹_› (hfinish _)
  · rfl

/-- A state that is not between brackets. -/
def outside (cur : Cursor) (read : List Lexeme) (columns : List Nat) (candidate : Option Candidate) (allowed : Bool) :
    Scan :=
  ⟨cur, read, read.length, columns, candidate, [], allowed⟩

@[simp] theorem outside_cursor : (outside cur read columns candidate allowed).cursor = cur := rfl

@[simp] theorem outside_inFlow : (outside cur read columns candidate allowed).inFlow = false := rfl

/-- The column of the innermost map, minus one outside of all maps. -/
def innermost : List Nat → Int
  | [] => -1
  | column :: _ => column

/-- Inside of the innermost map nothing ends. -/
theorem unwind_inside {column : Nat} (h : innermost columns ≤ column) :
    (outside cur read columns candidate allowed).unwind (column : Int) =
      outside cur read columns candidate allowed := by
  have hnone : columns.takeWhile (fun (n : Nat) => decide ((column : Int) < (n : Int))) = [] := by
    cases columns with
    | nil => rfl
    | cons n columns =>
      rw [innermost] at h
      exact List.takeWhile_cons_of_neg (by rw [decide_eq_true_eq]; omega)
  unfold unwind outside
  simp only [inFlow, List.isEmpty_nil, Bool.not_true, Bool.false_eq_true, if_false, hnone, List.map_nil,
    List.nil_append, List.length_nil, Nat.add_zero, List.drop_zero]

/-- A map that is left has its lexeme first. -/
theorem unwind_cons {column n : Nat} (h : column < n) :
    (outside cur read (n :: columns) candidate allowed).unwind (column : Int) =
      (outside cur (.blockEnd :: read) columns candidate allowed).unwind (column : Int) := by
  have hends : decide ((column : Int) < (n : Int)) = true := decide_eq_true (Int.ofNat_lt.mpr h)
  have hswap : ∀ ended : List Nat, .blockEnd :: (ended.map (fun _ => Lexeme.blockEnd) ++ read) =
      ended.map (fun _ => Lexeme.blockEnd) ++ .blockEnd :: read := by
    intro ended
    induction ended with
    | nil => rfl
    | cons n ended ih => rw [List.map_cons, List.cons_append, ih, List.cons_append]
  unfold unwind outside
  simp only [inFlow, List.isEmpty_nil, Bool.not_true, Bool.false_eq_true, if_false, List.takeWhile_cons, hends, if_true,
    List.map_cons, List.cons_append, List.length_cons, List.drop_succ_cons, hswap, Scan.mk.injEq, true_and, and_true]
  omega

/-- The next lexeme is read at a place, after those of the maps that end there. -/
structure ReadsAt (σ : Scan) (before after : Text) (read : List Lexeme) (columns : List Nat)
    (candidate : Option Candidate) (allowed : Bool) : Prop where
  length : after.length ≤ σ.cursor.rest.length
  arrives : ∃ σ', σ.skip.expire = .ok σ' ∧ σ'.cursor = Cursor.place before after ∧
    σ'.unwind (lastLine before : Int) =
      (outside (Cursor.place before after) read columns candidate allowed).unwind (lastLine before : Int)

theorem readsAt (hnext : cur.next = Cursor.place before after) (hlength : after.length ≤ cur.rest.length)
    {candidate' : Option Candidate} {allowed' : Bool}
    (hcandidate : unexpired (Cursor.place before after) candidate = .ok candidate')
    (hallowed : (allowed || (Cursor.place before after).line != cur.line) = allowed') :
    ReadsAt (outside cur read columns candidate allowed) before after read columns candidate' allowed' := by
  refine ⟨hlength, outside (Cursor.place before after) read columns candidate' allowed', ?_, rfl, rfl⟩
  have hskip : (outside cur read columns candidate allowed).skip =
      outside (Cursor.place before after) read columns candidate allowed' := by
    unfold skip outside
    simp only [hnext, inFlow, List.isEmpty_nil, Bool.not_true, Bool.not_false, Bool.true_and, hallowed]
  rw [hskip]
  change (do
    let candidate ← unexpired (Cursor.place before after) candidate
    let outer ← List.mapM (unexpired (Cursor.place before after)) []
    return _) = _
  rw [hcandidate]
  rfl

/-- A map that ends is left with its lexeme. -/
theorem ReadsAt.pop {column : Nat} (h : ReadsAt σ before after read (column :: columns) candidate allowed)
    (hcolumn : lastLine before < column) : ReadsAt σ before after (.blockEnd :: read) columns candidate allowed := by
  obtain ⟨hlength, σ', hskip, hcursor, hunwind⟩ := h
  refine ⟨hlength, σ', hskip, hcursor, ?_⟩
  rw [hunwind, unwind_cons hcolumn]

/-- The step that reads a lexeme inside of the innermost map. -/
theorem ReadsAt.step (h : ReadsAt σ before (c :: after) read columns candidate allowed)
    (hinside : innermost columns ≤ lastLine before) :
    σ.step = (outside (Cursor.place before (c :: after)) read columns candidate allowed).readAt c := by
  obtain ⟨-, σ', hskip, hcursor, hunwind⟩ := h
  rw [unwind_inside hinside] at hunwind
  have hcolumn : (σ'.cursor.column : Int) = lastLine before := by
    rw [hcursor]
    rfl
  unfold Scan.step
  rw [hskip, ok_bind]
  dsimp only
  rw [hcolumn, hunwind]
  rfl

/-- The last step, at the end of the outermost map. -/
theorem ReadsAt.finish (h : ReadsAt σ before [] read [0] none allowed) (fuel : Nat) :
    run (fuel + 1) σ = (.finish :: .blockEnd :: read).reverse := by
  obtain ⟨-, σ', hskip, hcursor, hunwind⟩ := h
  have hcolumn : (σ'.cursor.column : Int) = lastLine before := by
    rw [hcursor]
    rfl
  have hinside : innermost [0] ≤ lastLine before := Int.natCast_nonneg _
  have hstep : σ.step =
      .ok ((outside (Cursor.place before []) (.blockEnd :: read) [] none false).push .finish) := by
    unfold Scan.step
    rw [hskip, ok_bind]
    dsimp only
    rw [hcolumn, hunwind, unwind_inside hinside]
    rfl
  rw [run, hstep]
  rfl

/-! ## Candidates -/

/-- A candidate that is given up on the next line. -/
def Lapses (candidate : Option Candidate) (before : Text) : Prop :=
  ∀ c ∈ candidate, c.required = false ∧ c.place.line ≤ before.countP isBreak

theorem unexpired_of_lapses (h : Lapses candidate before) (hline : before.countP isBreak < cur.line) :
    unexpired cur candidate = .ok none := by
  cases candidate with
  | none => rfl
  | some c =>
    obtain ⟨hrequired, hle⟩ := h c rfl
    have hexpired : c.expired cur = true := by
      have hne : (c.place.line != cur.line) = true := bne_iff_ne.mpr (by omega)
      rw [Candidate.expired, hne, Bool.true_or]
    rw [unexpired, if_pos hexpired, hrequired]
    rfl

theorem unexpired_of_reach {c : Candidate} (hline : c.place.line = cur.line)
    (hreach : cur.offset ≤ c.place.offset + keyReach) : unexpired cur (some c) = .ok (some c) := by
  have hexpired : c.expired cur = false := by
    have hsame : (c.place.line != cur.line) = false := bne_eq_false_iff_eq.mpr hline
    rw [Candidate.expired, hsame, Bool.false_or, decide_eq_false_iff_not]
    omega
  rw [unexpired, hexpired, if_neg Bool.false_ne_true]

/-! ## Gaps -/

theorem readsAt_spaces (h : Cursor.AtToken after) (n : Nat) :
    ReadsAt (outside (Cursor.place before (spaces n ++ after)) read columns none allowed) (spaces n ++ before) after
      read columns none allowed := by
  have hlength : after.length ≤ (spaces n ++ after).length := by
    rw [List.length_append]
    exact Nat.le_add_left _ _
  refine readsAt (Cursor.next_spaces h n) hlength rfl ?_
  have hline : (Cursor.place (spaces n ++ before) after).line = (Cursor.place before (spaces n ++ after)).line := by
    have hspaces : (spaces n).countP isBreak = 0 := by
      rw [List.countP_eq_zero]
      intro c hc
      rw [isBreak_of_mem_spaces hc]
      exact Bool.false_ne_true
    change (spaces n ++ before).countP isBreak = before.countP isBreak
    rw [List.countP_append, hspaces, Nat.zero_add]
  rw [hline, bne_self_eq_false, Bool.or_false]

/-- A key may begin on a new line. -/
theorem readsAt_lineStart (h : Cursor.AtToken after) (hcandidate : Lapses candidate before) :
    ReadsAt (outside (Cursor.place before (lineStart indent ++ after)) read columns candidate allowed)
      ((lineStart indent).reverse ++ before) after read columns none true := by
  have hline := Cursor.line_lineStart indent before after
  have hlength : after.length ≤ (lineStart indent ++ after).length := by
    rw [List.length_append]
    exact Nat.le_add_left _ _
  have hlater : before.countP isBreak < (Cursor.place ((lineStart indent).reverse ++ before) after).line :=
    hline ▸ Nat.lt_succ_self _
  refine readsAt (Cursor.next_lineStart h indent) hlength (unexpired_of_lapses hcandidate hlater) ?_
  have hne : ((Cursor.place ((lineStart indent).reverse ++ before) after).line !=
      (Cursor.place before (lineStart indent ++ after)).line) = true := by
    rw [hline, bne_iff_ne]
    exact Nat.succ_ne_self _
  rw [hne, Bool.or_true]

/-- The gap before a lexeme may be read already. -/
theorem readsAt_here (h : Cursor.AtToken after) {candidate' : Option Candidate}
    (hcandidate : unexpired (Cursor.place before after) candidate = .ok candidate') :
    ReadsAt (outside (Cursor.place before after) read columns candidate allowed) before after read columns candidate'
      allowed := by
  have hnext : (Cursor.place before after).next = Cursor.place before after := Cursor.next_spaces h 0
  exact readsAt hnext (Nat.le_refl _) hcandidate (by rw [bne_self_eq_false, Bool.or_false])

end Scan

/-! ## Scalars -/

/-- No mark of another lexeme stands where a plain scalar does, which would have a gap after it. -/
theorem IsFirstWord.beforeGap_eq {u : Text} (h : IsFirstWord (c :: u))
    (hc : (c == '?' || c == ':' || c == '-') = true) (s : Text) : beforeGap (u ++ s) = false := by
  cases u with
  | nil =>
    rw [h.mark c rfl] at hc
    cases hc
  | cons d u => exact not_isGap_of_isSolid (h.solid d (List.mem_cons_of_mem c List.mem_cons_self))

theorem IsFirstWord.ne_mark {u : Text} (h : IsFirstWord (c :: u)) : ∀ mark ∈ leadingMarks, c ≠ mark := by
  rintro mark hmem rfl
  have hlead := h.lead c rfl
  rw [List.contains_eq_mem, decide_eq_true hmem] at hlead
  cases hlead

theorem IsFirstWord.startsPlain {u : Text} (h : IsFirstWord (c :: u)) (s : Text) :
    startsPlain false (c :: (u ++ s)) = true := by
  unfold Yaml.startsPlain
  dsimp only
  split
  · rename_i hmark
    have hc : (c == '?' || c == ':' || c == '-') = true := by
      rw [isOneOf, List.contains_iff_mem] at hmark
      rcases List.mem_cons.mp hmark with rfl | hmark
      · rfl
      rcases List.mem_pair.mp hmark with rfl | rfl <;> rfl
    rw [h.beforeGap_eq hc, Bool.not_false, Bool.or_true]
    rfl
  · have hmarks : (txt ",[]\x7b\x7d#&*!|>'\"%@\x60").all leadingMarks.contains = true := by decide
    have hnone : isOneOf ",[]\x7b\x7d#&*!|>'\"%@\x60" c = false := by
      rw [isOneOf, ← Bool.not_eq_true, List.contains_iff_mem]
      intro hmem
      have hlead := List.all_eq_true.mp hmarks c hmem
      rw [h.lead c rfl] at hlead
      cases hlead
    rw [not_isGap_of_isSolid (h.solid c List.mem_cons_self), hnone]
    rfl

/-- No document begins or ends where a word stands that does not say so. -/
theorem after?_word {u : Text} (mark : CodePoint) (n : Nat) (hgap : isGap mark = false) (hcolon : mark ≠ ':')
    (hnone : Text.after? (List.replicate n mark) u = none) (hafter : plainChunk false after = []) :
    Text.after? (List.replicate n mark) (u ++ after) = none := by
  rw [Option.eq_none_iff_forall_ne_some] at hnone ⊢
  intro rest hrest
  rw [Text.after?_eq_some, List.append_eq_append_iff] at hrest
  rcases hrest with ⟨d, hd, hrest⟩ | ⟨d, hd, -⟩
  · cases d with
    | nil =>
      rw [List.append_nil] at hd
      exact hnone [] (by rw [hd, Text.after?_eq_some, List.append_nil])
    | cons e d =>
      obtain rfl : e = mark := (List.mem_replicate.mp (hd ▸ List.mem_append_right u List.mem_cons_self)).2
      rw [hrest, List.cons_append, plainChunk] at hafter
      simp [hgap, hcolon] at hafter
  · exact hnone d (by rw [hd, Text.after?_eq_some])

theorem hasDocumentMark_eq_false {mark : String} (h : Text.after? (txt mark) s = none) :
    Cursor.hasDocumentMark mark (Cursor.place before s) = false := by
  unfold Cursor.hasDocumentMark
  dsimp only [Cursor.place]
  rw [h, Bool.and_false]

namespace Scan

/-- A plain scalar is read where one stands. -/
theorem readAt_plain {u : Text} (h : IsFirstWord (c :: u)) (hafter : plainChunk false after = []) (before : Text)
    (read : List Lexeme) (columns : List Nat) (candidate : Option Candidate) (allowed : Bool) :
    (outside (Cursor.place before (c :: (u ++ after))) read columns candidate allowed).readAt c =
      (outside (Cursor.place before (c :: (u ++ after))) read columns candidate allowed).readPlain := by
  have hdashes : Text.after? (txt "---") (c :: (u ++ after)) = none :=
    after?_word '-' 3 rfl (by decide) h.dashes hafter
  have hdots : Text.after? (txt "...") (c :: (u ++ after)) = none :=
    after?_word '.' 3 rfl (by decide) h.dots hafter
  have hdash : Cursor.hasDocumentMark "---" (Cursor.place before (c :: (u ++ after))) = false :=
    hasDocumentMark_eq_false hdashes
  have hdot : Cursor.hasDocumentMark "..." (Cursor.place before (c :: (u ++ after))) = false :=
    hasDocumentMark_eq_false hdots
  have hmark : ∀ mark : CodePoint, (mark == '?' || mark == ':' || mark == '-') = true →
      Cursor.hasMark mark (Cursor.place before (c :: (u ++ after))) = false := by
    intro mark hmark
    change (c == mark && beforeGap (u ++ after)) = false
    by_cases hc : c = mark
    · subst hc
      rw [h.beforeGap_eq hmark, Bool.and_false]
    · rw [beq_eq_false_iff_ne.mpr hc, Bool.false_and]
  have hne := h.ne_mark
  have hstarts := h.startsPlain after
  unfold readAt
  have hcursor : (outside (Cursor.place before (c :: (u ++ after))) read columns candidate allowed).cursor =
      Cursor.place before (c :: (u ++ after)) := rfl
  have hflow : (outside (Cursor.place before (c :: (u ++ after))) read columns candidate allowed).inFlow = false := rfl
  have hrest : (Cursor.place before (c :: (u ++ after))).rest = c :: (u ++ after) := rfl
  simp only [hasIndicator, hcursor, hflow, hrest, hdash, hdot, hmark '-' rfl, hmark '?' rfl, hmark ':' rfl, hstarts,
    hne '%' (by decide), hne '[' (by decide), hne ']' (by decide), hne '\x7b' (by decide), hne '\x7d' (by decide),
    hne ',' (by decide), hne '*' (by decide), hne '&' (by decide), hne '!' (by decide), hne '|' (by decide),
    hne '>' (by decide), hne '\'' (by decide), hne '"' (by decide), decide_false, Bool.false_and, Bool.or_self,
    Bool.false_eq_true, if_false, if_true]

/-- The candidate that a scalar is where a key may begin. -/
def offered (cur : Cursor) (read : List Lexeme) (columns : List Nat) (allowed : Bool) : Option Candidate :=
  if allowed then some ⟨read.length, innermost columns == (cur.column : Int), cur⟩ else none

theorem column_outside : (outside cur read columns candidate allowed).column = innermost columns := by
  cases columns <;> rfl

theorem offer_outside : (outside cur read columns none allowed).offer =
    .ok (outside cur read columns (offered cur read columns allowed) allowed) := by
  cases allowed with
  | false => rfl
  | true =>
    have hcolumn : innermost columns = (outside cur read columns none true).column := column_outside.symm
    rw [offered, if_pos rfl, hcolumn]
    rfl

/-- A plain scalar is read up to what ends it. -/
theorem readPlain_outside (read : List Lexeme) (allowed : Bool) {place : Text → Cursor} {onNewLine : Bool}
    (h : PlainText indent t s)
    (hends : Ends (innermost columns + 1) after place onNewLine) (hindent : innermost columns < indent)
    (hcolumn : innermost columns ≤ lastLine before) (hpos : 0 < indent) :
    (outside (Cursor.place before (t ++ after)) read columns none allowed).readPlain =
      .ok (outside (place (t.reverse ++ before)) (.scalar true s :: read) columns
        (offered (Cursor.place before (t ++ after)) read columns allowed) onNewLine) := by
  have hread := plainScalar_plainText h hends hpos hindent before (Int.add_le_add_right hcolumn 1)
  unfold readPlain
  rw [offer_outside, ok_bind]
  dsimp only
  rw [column_outside, outside_cursor, outside_inFlow, hread]
  rfl

/-- A quoted scalar is read up to its closing mark. -/
theorem readWord_quoted (read : List Lexeme) (columns : List Nat) (allowed : Bool) {double : Bool} {last : Cursor}
    (hmark : isPlainPoint c = true) (hline : isBreak c = false)
    (h : ReadsQuoted double (c :: before) after s last) :
    (outside (Cursor.place before (c :: after)) read columns none allowed).readWord (quoted double) =
      .ok (outside last (.scalar false s :: read) columns
        (offered (Cursor.place before (c :: after)) read columns allowed) false) := by
  have hread : quoted double (Cursor.place before (c :: after)) = .ok (.scalar false s, last) := by
    have hfuel : after.length < (Cursor.place before (c :: after)).fuel := by
      rw [Cursor.fuel_place, List.length_cons]
      omega
    rw [quoted, quotedScalar, Cursor.forward_one hmark hline, h _ hfuel]
    rfl
  unfold readWord
  rw [offer_outside, ok_bind, outside_cursor, hread]
  rfl

theorem readAt_apostrophe : (outside (Cursor.place before (CodePoint.ofChar '\'' :: after)) read columns candidate
    allowed).readAt '\'' = (outside (Cursor.place before (CodePoint.ofChar '\'' :: after)) read columns candidate
    allowed).readWord (quoted false) := by
  unfold readAt
  dsimp only
  rw [outside_cursor, hasDocumentMark_eq_false rfl, hasDocumentMark_eq_false rfl]
  rfl

theorem readAt_quotationMark : (outside (Cursor.place before (CodePoint.ofChar '"' :: after)) read columns candidate
    allowed).readAt '"' = (outside (Cursor.place before (CodePoint.ofChar '"' :: after)) read columns candidate
    allowed).readWord (quoted true) := by
  unfold readAt
  dsimp only
  rw [outside_cursor, hasDocumentMark_eq_false rfl, hasDocumentMark_eq_false rfl]
  rfl

/-- **A scalar is read in one step**, with its quotation marks, and if it is plain, with the gap after it. -/
theorem ReadsAt.step_scalar {place : Text → Cursor} {onNewLine : Bool}
    (h : ReadsAt σ before (t ++ after) read columns none allowed) (ht : ScalarText indent isPlain t s)
    (hends : Ends (innermost columns + 1) after place onNewLine) (hquote : after.head? ≠ some (CodePoint.ofChar '\''))
    (hindent : innermost columns < indent) (hcolumn : innermost columns ≤ lastLine before) (hpos : 0 < indent) :
    σ.step = .ok (outside (if isPlain then place (t.reverse ++ before) else Cursor.place (t.reverse ++ before) after)
      (.scalar isPlain s :: read) columns (offered (Cursor.place before (t ++ after)) read columns allowed)
      (isPlain && onNewLine)) := by
  cases ht with
  | plain ht =>
    have hread := readPlain_outside read allowed ht hends hindent hcolumn hpos
    cases ht with
    | @words u t s hfirst hwrapped =>
      obtain ⟨c, u, rfl⟩ := List.exists_cons_of_ne_nil hfirst.ne_nil
      have hchunk := hwrapped.plainChunk_eq_nil hends.chunk
      have hat := readAt_plain hfirst hchunk before read columns none allowed
      rw [List.append_assoc, List.cons_append] at h hread
      rw [h.step hcolumn, hat, hread, List.append_assoc, List.cons_append]
      rfl
  | @apostrophes t s ht =>
    have hreads := ht.reads hpos hquote (CodePoint.ofChar '\'' :: before)
    have hread := readWord_quoted read columns allowed rfl rfl hreads
    have htext :
        txt "'" ++ (t ++ txt "'") ++ after = CodePoint.ofChar '\'' :: (t ++ CodePoint.ofChar '\'' :: after) := by
      rw [List.append_assoc, List.append_assoc]
      rfl
    have hrev : (txt "'" ++ (t ++ txt "'")).reverse ++ before =
        CodePoint.ofChar '\'' :: (t.reverse ++ CodePoint.ofChar '\'' :: before) := by
      rw [List.reverse_append, List.reverse_append, List.append_assoc, List.append_assoc]
      rfl
    rw [htext] at h
    rw [h.step hcolumn, readAt_apostrophe, hread, htext, hrev]
    rfl
  | @quotationMarks t s ht =>
    have hreads := ht.reads hpos (CodePoint.ofChar '"' :: before) after
    have hread := readWord_quoted read columns allowed rfl rfl hreads
    have htext :
        txt "\"" ++ (t ++ txt "\"") ++ after = CodePoint.ofChar '"' :: (t ++ CodePoint.ofChar '"' :: after) := by
      rw [List.append_assoc, List.append_assoc]
      rfl
    have hrev : (txt "\"" ++ (t ++ txt "\"")).reverse ++ before =
        CodePoint.ofChar '"' :: (t.reverse ++ CodePoint.ofChar '"' :: before) := by
      rw [List.reverse_append, List.reverse_append, List.append_assoc, List.append_assoc]
      rfl
    rw [htext] at h
    rw [h.step hcolumn, readAt_quotationMark, hread, htext, hrev]
    rfl

/-! ## Marks -/

/-- What is read of a map at a column when its next entry begins: the entry may be the first one. The list of columns
is that of the maps around it. -/
inductive Enters (column : Nat) : List Lexeme → List Nat → List Lexeme → List Nat → Prop
  | first {read : List Lexeme} {columns : List Nat} : innermost columns < column →
      Enters column read columns (.blockMap :: read) columns
  | other (read : List Lexeme) (columns : List Nat) : Enters column read (column :: columns) read columns

theorem Enters.innermost_le {column : Nat} {read' : List Lexeme} {columns' : List Nat}
    (h : Enters column read columns read' columns') : innermost columns ≤ column := by
  cases h with
  | first h => exact Int.le_of_lt h
  | other => exact Int.le_refl _

/-- A lexeme is put in before later ones. -/
theorem insert_outside (later : List Lexeme) (lexeme : Lexeme) :
    (outside cur (later ++ read) columns candidate allowed).insert read.length lexeme =
      outside cur (later ++ lexeme :: read) columns candidate allowed := by
  have hinsert : ∀ later : List Lexeme, (later ++ read).insertIdx later.length lexeme = later ++ lexeme :: read := by
    intro later
    induction later with
    | nil => rfl
    | cons l later ih => rw [List.length_cons, List.cons_append, List.insertIdx_succ_cons, ih, List.cons_append]
  have hcount : (later ++ read).length - read.length = later.length := by
    rw [List.length_append, Nat.add_sub_cancel]
  unfold insert outside
  dsimp only
  rw [hcount, hinsert, List.length_append, List.length_append, List.length_cons, Nat.add_assoc]

/-- A map begins before the lexemes of its first key, and only there. -/
theorem beginBlock_outside {column : Nat} {read' : List Lexeme} {columns' : List Nat}
    (h : Enters column read columns read' columns') (later : List Lexeme) :
    (outside cur (later ++ read) columns candidate allowed).beginBlock read.length column .blockMap =
      outside cur (later ++ read') (column :: columns') candidate allowed := by
  unfold beginBlock
  rw [insert_outside, outside_inFlow, column_outside]
  cases h with
  | first hlt =>
    rw [decide_eq_true hlt, if_neg (by decide)]
    rfl
  | other =>
    have hnot : ¬innermost (column :: columns') < (column : Int) := Int.lt_irrefl _
    rw [decide_eq_false hnot, if_pos (by decide)]

variable {read' : List Lexeme} {columns' : List Nat}

theorem beginHere_outside (h : Enters (lastLine before) read columns read' columns') :
    (outside (Cursor.place before after) read columns candidate true).beginHere .blockMap =
      .ok (outside (Cursor.place before after) read' (lastLine before :: columns') candidate true) :=
  congrArg Except.ok (beginBlock_outside h [])

/-- A question mark before a key. -/
theorem readAt_questionMark (h : Enters (lastLine before) read columns read' columns') (hgap : beforeGap after = true) :
    (outside (Cursor.place before (CodePoint.ofChar '?' :: after)) read columns none true).readAt '?' =
      .ok (outside (Cursor.place (CodePoint.ofChar '?' :: before) after) (.key :: read') (lastLine before :: columns')
        none true) := by
  have hmark : (outside (Cursor.place before (CodePoint.ofChar '?' :: after)) read columns none true).hasIndicator '?' =
      true := hgap
  have hforward : (Cursor.place before (CodePoint.ofChar '?' :: after)).forward 1 = _ := Cursor.forward_one rfl rfl
  have hat : (outside (Cursor.place before (CodePoint.ofChar '?' :: after)) read columns none true).readAt '?' =
      (outside (Cursor.place before (CodePoint.ofChar '?' :: after)) read columns none true).readKey := by
    unfold readAt
    dsimp only
    rw [outside_cursor, hasDocumentMark_eq_false rfl, hasDocumentMark_eq_false rfl, hmark]
    rfl
  rw [hat, readKey, beginHere_outside h, ok_bind, ← hforward]
  rfl

theorem readAt_colon (hgap : beforeGap after = true) :
    (outside (Cursor.place before (CodePoint.ofChar ':' :: after)) read columns candidate allowed).readAt ':' =
      (outside (Cursor.place before (CodePoint.ofChar ':' :: after)) read columns candidate allowed).readValue := by
  have hmark : (outside (Cursor.place before (CodePoint.ofChar ':' :: after)) read columns candidate
      allowed).hasIndicator ':' = true := hgap
  unfold readAt
  dsimp only
  rw [outside_cursor, hasDocumentMark_eq_false rfl, hasDocumentMark_eq_false rfl, hmark]
  rfl

/-- A colon after a key that stands on the line with it. -/
theorem readAt_colon_candidate {place : Cursor} {required : Bool} (lexeme : Lexeme)
    (h : Enters place.column read columns read' columns') (hgap : beforeGap after = true) :
    (outside (Cursor.place before (CodePoint.ofChar ':' :: after)) (lexeme :: read) columns
        (some ⟨read.length, required, place⟩) allowed).readAt ':' =
      .ok (outside (Cursor.place (CodePoint.ofChar ':' :: before) after) (.value :: lexeme :: .key :: read')
        (place.column :: columns') none false) := by
  have hforward : (Cursor.place before (CodePoint.ofChar ':' :: after)).forward 1 = _ := Cursor.forward_one rfl rfl
  let candidate : Option Candidate := some ⟨read.length, required, place⟩
  let here : Cursor := Cursor.place before (CodePoint.ofChar ':' :: after)
  have hkey : (outside here (lexeme :: read) columns candidate allowed).insert read.length .key =
      outside here (lexeme :: .key :: read) columns candidate allowed := insert_outside [lexeme] .key
  have hblock : (outside here (lexeme :: .key :: read) columns candidate allowed).beginBlock read.length place.column
      .blockMap = outside here (lexeme :: .key :: read') (place.column :: columns') candidate allowed :=
    beginBlock_outside h [lexeme, .key]
  have hvalue : (outside here (lexeme :: read) columns candidate allowed).readValue =
      .ok { (((outside here (lexeme :: read) columns candidate allowed).insert read.length .key).beginBlock read.length
        place.column .blockMap).pushMark 1 .value with candidate := none, keyAllowed := false } := rfl
  rw [readAt_colon hgap, hvalue, hkey, hblock, ← hforward]
  rfl

/-- A colon on the line after a key. -/
theorem readAt_colon_none (hgap : beforeGap after = true) (columns : List Nat) :
    (outside (Cursor.place before (CodePoint.ofChar ':' :: after)) read (lastLine before :: columns) none true).readAt
        ':' =
      .ok (outside (Cursor.place (CodePoint.ofChar ':' :: before) after) (.value :: read) (lastLine before :: columns)
        none true) := by
  have hforward : (Cursor.place before (CodePoint.ofChar ':' :: after)).forward 1 = _ := Cursor.forward_one rfl rfl
  rw [readAt_colon hgap, ← hforward]
  change (do
    let s ← (outside (Cursor.place before (CodePoint.ofChar ':' :: after)) read (lastLine before :: columns) none
      true).beginHere .blockMap
    return _) = _
  rw [beginHere_outside (.other _ _), ok_bind]
  rfl

end Scan

end Mixfix.Yaml
