import Mathlib.Tactic.Ring
import Mixfix.Proofs.Host.Yaml.Quoted
import Mixfix.Proofs.Host.Yaml.Writer

/-!
# Scalars between quotation marks, there and back

Between quotation marks a code point stands for itself or is written as an escape, and a line may be broken after a
backslash (`Marked`). All of this reads back as the text (`Marked.reads`).

The writer puts a backslash before a space at the front of a line, so that it is not taken for indentation. After an
escape at the end of a line it does so before it knows whether the next line is too long already. Where it is, since
the indentation is as wide as a line, that backslash and the one that breaks the line read as one backslash. So a text
that is folded has to be at a lower indentation.
-/

set_option autoImplicit false

namespace Mixfix

/-! ## Hexadecimal digits -/

theorem CodePoint.hexValue_ofHexValue (upper : Bool) {n : Nat} (h : n < 16) :
    (CodePoint.ofHexValue upper n).isHexDigit = true ∧ (CodePoint.ofHexValue upper n).hexValue = n := by
  have hall : ∀ upper : Bool, ∀ n < 16,
      (CodePoint.ofHexValue upper n).isHexDigit = true ∧ (CodePoint.ofHexValue upper n).hexValue = n := by
    decide
  exact hall upper n h

namespace Text

theorem length_hex (upper : Bool) (width n : Nat) : (hex upper width n).length = width := by
  induction width generalizing n with
  | zero => rfl
  | succ width ih => rw [hex, List.length_append, ih, List.length_singleton]

theorem all_isHexDigit_hex (upper : Bool) (width n : Nat) : (hex upper width n).all CodePoint.isHexDigit = true := by
  induction width generalizing n with
  | zero => rfl
  | succ width ih =>
    have hdigit := (CodePoint.hexValue_ofHexValue upper (Nat.mod_lt n (by decide : 0 < 16))).1
    rw [hex, List.all_append, ih, List.all_cons, hdigit]
    rfl

/-- The last digits of a number are read as its remainder. -/
theorem ofBase_hex (upper : Bool) (width n : Nat) : Yaml.ofBase 16 (hex upper width n) = n % 16 ^ width := by
  induction width generalizing n with
  | zero => rw [pow_zero, Nat.mod_one]; rfl
  | succ width ih =>
    have hdigit := (CodePoint.hexValue_ofHexValue upper (Nat.mod_lt n (by decide : 0 < 16))).2
    have hsplit : n % 16 ^ (width + 1) = n % 16 + 16 * (n / 16 % 16 ^ width) := by
      rw [Nat.pow_succ', Nat.mod_mul]
    have hlast : Yaml.ofBase 16 (hex upper (width + 1) n) = 16 * Yaml.ofBase 16 (hex upper width (n / 16)) +
        (CodePoint.ofHexValue upper (n % 16)).hexValue := List.foldl_append
    rw [hlast, ih, hdigit, hsplit, Nat.add_comm]

end Text

namespace Yaml

variable {c : CodePoint} {s t e before after : Text} {indent n : Nat}

/-! ## Escapes -/

/-- What is read as an escape of a code point. -/
inductive IsEscape (c : CodePoint) : Text → Prop
  | letter {e : CodePoint} : readEscape? e = some c → isPlainPoint e = true → isBreak e = false →
      IsEscape c [CodePoint.ofChar '\\', e]
  | number {e : CodePoint} {count : Nat} {digits : Text} : readEscape? e = none → escapeLength? e = some count →
      isSolid e = true → digits.length = count → digits.all CodePoint.isHexDigit = true → ofBase 16 digits = c.val →
      IsEscape c (CodePoint.ofChar '\\' :: e :: digits)

theorem isEscape_space : IsEscape ' ' [CodePoint.ofChar '\\', CodePoint.ofChar ' '] :=
  .letter rfl rfl rfl

theorem IsEscape.line (h : IsEscape c e) : ∀ d ∈ e, isPlainPoint d = true ∧ isBreak d = false := by
  intro d hd
  cases h with
  | @letter e _ hplain hline =>
    rcases List.mem_cons.mp hd with rfl | hd
    · exact ⟨rfl, rfl⟩
    · rw [List.mem_singleton.mp hd]
      exact ⟨hplain, hline⟩
  | @number e count digits _ _ he _ hdigits =>
    have hsolid : isSolid d = true := by
      rcases List.mem_cons.mp hd with rfl | hd
      · rfl
      rcases List.mem_cons.mp hd with rfl | hd
      · exact he
      · exact isSolid_of_isHexDigit (List.all_eq_true.mp hdigits d hd)
    exact ⟨(isSolid_iff.mp hsolid).1, (isSolid_iff.mp hsolid).2.2⟩

theorem IsEscape.exists_cons (h : IsEscape c e) : ∃ e', e = CodePoint.ofChar '\\' :: e' := by
  cases h <;> exact ⟨_, rfl⟩

/-- An escape is read as its code point. -/
theorem IsEscape.reads {last : Cursor} (h : IsEscape c e)
    (hrest : ReadsQuoted true (e.reverse ++ before) after s last) :
    ReadsQuoted true before (e ++ after) (c :: s) last := by
  cases h with
  | letter hread hplain hline => exact hrest.letter hread hplain hline
  | @number e count digits hnone hsome he hlength hdigits hvalue =>
    rw [List.reverse_cons, List.reverse_cons, List.append_assoc, List.append_assoc] at hrest
    exact hrest.number hnone hsome he hlength hdigits hvalue

/-- The escape of a code point by its number is one. -/
theorem isEscape_numberEscape (c : CodePoint) : IsEscape c (Writer.numberEscape c) := by
  have hlt := c.isLt
  unfold Writer.numberEscape
  split
  · rename_i h
    refine .number rfl rfl rfl (Text.length_hex true 2 c.val) (Text.all_isHexDigit_hex true 2 c.val) ?_
    exact (Text.ofBase_hex true 2 c.val).trans (Nat.mod_eq_of_lt h)
  · split
    · rename_i h
      refine .number rfl rfl rfl (Text.length_hex true 4 c.val) (Text.all_isHexDigit_hex true 4 c.val) ?_
      exact (Text.ofBase_hex true 4 c.val).trans (Nat.mod_eq_of_lt h)
    · refine .number rfl rfl rfl (Text.length_hex true 8 c.val) (Text.all_isHexDigit_hex true 8 c.val) ?_
      exact (Text.ofBase_hex true 8 c.val).trans (Nat.mod_eq_of_lt (Nat.lt_trans hlt (by decide)))

/-- **What the writer puts for a code point is an escape of it.** -/
theorem isEscape_of_escape? (h : Writer.escape? c = some e) : IsEscape c e := by
  have hletters : ∀ entry ∈ Writer.escapeLetters, readEscape? entry.2 = some (CodePoint.ofNat entry.1) ∧
      isPlainPoint entry.2 = true ∧ isBreak entry.2 = false := by decide
  unfold Writer.escape? at h
  dsimp only at h
  split at h
  · cases h
  split at h
  · rename_i n letter hfind
    have hn := List.find?_some hfind
    rw [beq_iff_eq] at hn
    obtain ⟨hread, hplain, hline⟩ := hletters _ (List.mem_of_find?_eq_some hfind)
    have hpoint : CodePoint.ofNat c.val = c := dif_pos c.isLt
    cases h
    rw [hn, hpoint] at hread
    exact .letter hread hplain hline
  · cases h
    exact isEscape_numberEscape c

/-- What is not escaped is a space or stands for itself. -/
theorem isQuotable_of_escape? (h : Writer.escape? c = none) (hspace : isSpace c = false) :
    isQuotable true c = true := by
  unfold Writer.escape? at h
  dsimp only at h
  split at h
  · rename_i hbare
    simp only [Bool.and_eq_true, Bool.or_eq_true, Bool.not_eq_true', Bool.or_eq_false_iff, decide_eq_true_eq,
      beq_eq_false_iff_ne] at hbare
    obtain ⟨hrange, ⟨⟨⟨hquote, hbackslash⟩, hline⟩, hparagraph⟩, hmark⟩ := hbare
    have hplain : isPlainPoint c = true := by
      rw [isPlainPoint_iff]
      omega
    have hbreak : isBreak c = false := by
      rw [← Bool.not_eq_true, isBreak_iff]
      omega
    simp [isQuotable, isSolid, hplain, hspace, hbreak, hquote, hbackslash]
  · split at h <;> cases h

/-! ## What is written -/

/-- A text as it is written between quotation marks: code points as they are or as escapes, and line breaks after a
backslash. -/
inductive Marked (indent : Nat) : Text → Text → Prop
  | nil : Marked indent [] []
  | point {c : CodePoint} {t s : Text} : isQuotable true c = true → Marked indent t s → Marked indent (c :: t) (c :: s)
  | space {t s : Text} : Marked indent t s → Marked indent (CodePoint.ofChar ' ' :: t) (CodePoint.ofChar ' ' :: s)
  | escape {c : CodePoint} {e t s : Text} : IsEscape c e → Marked indent t s → Marked indent (e ++ t) (c :: s)
  | continued {t s : Text} : Marked indent t s → t.begins isSpace = false →
      Marked indent (CodePoint.ofChar '\\' :: (lineStart indent ++ t)) s

theorem Marked.written (h : Marked indent t s) : ∀ c ∈ t, isPlainPoint c = true := by
  induction h with
  | nil => exact fun _ => nofun
  | point hc _ ih =>
    rw [isQuotable, Bool.and_eq_true] at hc
    exact List.forall_mem_cons.mpr ⟨(isSolid_iff.mp hc.1).1, ih⟩
  | space _ ih => exact List.forall_mem_cons.mpr ⟨rfl, ih⟩
  | escape he _ ih =>
    intro c hc
    rcases List.mem_append.mp hc with hc | hc
    · exact (he.line c hc).1
    · exact ih c hc
  | continued _ _ ih =>
    refine List.forall_mem_cons.mpr ⟨rfl, fun c hc => ?_⟩
    rcases List.mem_append.mp hc with hc | hc
    · exact isPlainPoint_of_mem_lineStart hc
    · exact ih c hc

/-- No break comes before anything else but spaces. -/
theorem Marked.begins_dropWhile (h : Marked indent t s) (after : Text) :
    Text.begins startsBreak ((t ++ CodePoint.ofChar '"' :: after).dropWhile isSpaceOrTab) = false := by
  induction h with
  | nil => rfl
  | @point c t s hc =>
    rw [isQuotable, Bool.and_eq_true] at hc
    obtain ⟨hplain, hspace, hbreak⟩ := isSolid_iff.mp hc.1
    have hnot : ¬isSpaceOrTab c = true := by
      rw [isSpaceOrTab_eq hplain, hspace]
      exact Bool.false_ne_true
    rw [List.cons_append, List.dropWhile_cons_of_neg hnot, Text.begins_cons, startsBreak_eq hplain, hbreak]
  | space _ ih => exact ih
  | escape he =>
    obtain ⟨e, rfl⟩ := he.exists_cons
    rfl
  | continued => rfl

theorem Marked.begins_gap (h : Marked indent t s) (hspace : t.begins isSpace = false) (after : Text) :
    Text.begins isSpaceOrTab (t ++ CodePoint.ofChar '"' :: after) = false ∧
      Text.begins startsBreak (t ++ CodePoint.ofChar '"' :: after) = false := by
  cases h with
  | nil => exact ⟨rfl, rfl⟩
  | @point c t s hc =>
    rw [isQuotable, Bool.and_eq_true] at hc
    obtain ⟨hplain, hspace, hbreak⟩ := isSolid_iff.mp hc.1
    exact ⟨(isSpaceOrTab_eq hplain).trans hspace, (startsBreak_eq hplain).trans hbreak⟩
  | space => cases hspace
  | escape he =>
    obtain ⟨e, rfl⟩ := he.exists_cons
    exact ⟨rfl, rfl⟩
  | continued => exact ⟨rfl, rfl⟩

theorem Marked.begins_isSpace (h : Marked indent t s) (hspace : s.begins isSpace = false) :
    t.begins isSpace = false := by
  cases h with
  | nil => rfl
  | point => exact hspace
  | space => cases hspace
  | escape he =>
    obtain ⟨e, rfl⟩ := he.exists_cons
    rfl
  | continued => rfl

/-- **What is written between quotation marks is read back**, up to the closing one. -/
theorem Marked.reads (h : Marked indent t s) (hpos : 0 < indent) (before after : Text) :
    ReadsQuoted true before (t ++ CodePoint.ofChar '"' :: after) s
      (Cursor.place (CodePoint.ofChar '"' :: (t.reverse ++ before)) after) := by
  induction h generalizing before with
  | nil => exact readsQuoted_quotationMark
  | @point c t s hc _ ih =>
    have hrest := ih (c :: before)
    rw [List.reverse_cons, List.append_assoc]
    exact hrest.cons hc
  | @space t s hmarked ih =>
    have hrest := ih (CodePoint.ofChar ' ' :: before)
    rw [List.reverse_cons, List.append_assoc]
    exact hrest.space (hmarked.begins_dropWhile after)
  | @escape c e t s he _ ih =>
    have hrest := ih (e.reverse ++ before)
    rw [List.append_assoc, List.reverse_append, List.append_assoc]
    exact he.reads hrest
  | @continued t s hmarked ht ih =>
    have hrest := ih (spaces indent ++ CodePoint.ofChar '\n' :: CodePoint.ofChar '\\' :: before)
    obtain ⟨hspace, hbreak⟩ := hmarked.begins_gap ht after
    rw [List.cons_append, List.reverse_cons, List.reverse_append, reverse_lineStart, List.append_assoc,
      List.append_assoc, List.append_assoc, List.append_assoc]
    exact hrest.continued hpos hspace hbreak

/-! ## Writing -/

/-- A code point as it is written where no line is broken. -/
def shown (c : CodePoint) : Text :=
  (Writer.escape? c).getD [c]

theorem IsEscape.length_le (h : IsEscape c e) : e.length ≤ 10 := by
  cases h with
  | letter => exact (by decide : 2 ≤ 10)
  | @number e count digits _ hsome _ hlength =>
    have hcount : count ≤ 8 := by
      unfold escapeLength? at hsome
      split_ifs at hsome <;> cases hsome <;> decide
    rw [List.length_cons, List.length_cons, hlength]
    omega

theorem length_shown_le (c : CodePoint) : (shown c).length ≤ 10 := by
  unfold shown
  cases hescape : Writer.escape? c with
  | some e => exact (isEscape_of_escape? hescape).length_le
  | none => exact (by decide : 1 ≤ 10)

theorem length_flatMap_shown_le (s : Text) : (s.flatMap shown).length ≤ 10 * s.length := by
  induction s with
  | nil => exact Nat.le_refl 0
  | cons c s ih =>
    have hfirst := length_shown_le c
    rw [List.flatMap_cons, List.length_append, List.length_cons]
    omega

/-- What is written for a code point is written on a line. -/
theorem shown_line (c : CodePoint) : ∀ d ∈ shown c, isBreak d = false := by
  intro d hd
  cases hescape : Writer.escape? c with
  | some e =>
    rw [shown, hescape] at hd
    exact ((isEscape_of_escape? hescape).line d hd).2
  | none =>
    rw [shown, hescape] at hd
    rw [List.mem_singleton.mp hd]
    cases hspace : isSpace c with
    | true => exact Writer.isBreak_of_isSpace hspace
    | false =>
      have hc := isQuotable_of_escape? hescape hspace
      rw [isQuotable, Bool.and_eq_true] at hc
      exact (isSolid_iff.mp hc.1).2.2

theorem foldQuoted_eq (indent : Nat) {w : Writer} (hfresh : w.fresh = false) (spaceNext : Bool) :
    w.foldQuoted indent spaceNext =
      ⟨(CodePoint.ofChar '\\' :: (lineStart indent ++ if spaceNext then txt "\\" else [])).reverse ++ w.reversed,
        indent + (if spaceNext then 1 else 0), false, false⟩ := by
  have hindent : (w.put (txt "\\")).indentTo indent =
      ⟨(lineStart indent).reverse ++ (w.put (txt "\\")).reversed, indent, true, true⟩ :=
    Writer.indentTo_break (.inl hfresh)
  unfold Writer.foldQuoted
  dsimp only
  rw [hindent]
  cases spaceNext with
  | false =>
    simp only [Bool.false_eq_true, if_false, List.append_nil, List.reverse_cons, List.append_assoc]
    rfl
  | true =>
    simp only [if_true, List.reverse_cons, List.reverse_append, List.append_assoc]
    rfl

/-- A code point that is not escaped is held, or begins a line. -/
theorem quotedPoints_point (h : Writer.escape? c = none) (fold first : Bool) (held : Text) (w : Writer) :
    Writer.quotedPoints fold indent first held (c :: s) w = Writer.quotedPoints fold indent false (c :: held) s w ∨
      (fold = true ∧ s ≠ [] ∧ lineWidth < w.column + held.length) ∧
        Writer.quotedPoints fold indent first held (c :: s) w =
          Writer.quotedPoints fold indent false [c] s ((w.put held.reverse).foldQuoted indent (isSpace c)) := by
  rw [Writer.quotedPoints, h]
  dsimp only
  split
  · rename_i hbroken
    simp only [Bool.and_eq_true, decide_eq_true_eq, Bool.not_eq_true', List.isEmpty_eq_false_iff] at hbroken
    exact .inr ⟨⟨hbroken.1.1.1.1, hbroken.1.1.2, hbroken.2⟩, rfl⟩
  · exact .inl rfl

/-- A code point that is escaped is written after those that are held, and may end a line. -/
theorem quotedPoints_escape (h : Writer.escape? c = some e) (fold first : Bool) (held : Text) (w : Writer) :
    Writer.quotedPoints fold indent first held (c :: s) w =
        Writer.quotedPoints fold indent false [] s ((w.put held.reverse).put e) ∨
      (fold = true ∧ first = false) ∧
        Writer.quotedPoints fold indent first held (c :: s) w = Writer.quotedPoints fold indent false [] s
          (((w.put held.reverse).put e).foldQuoted indent (s.head? == some (CodePoint.ofChar ' '))) := by
  rw [Writer.quotedPoints, h]
  dsimp only
  split
  · rename_i hbroken
    simp only [Bool.and_eq_true, Bool.not_eq_true'] at hbroken
    exact .inr ⟨⟨hbroken.1.1.1, hbroken.1.1.2⟩, rfl⟩
  · exact .inl rfl

theorem Marked.ofPoint (h : Marked indent t s) (hc : Writer.escape? c = none) : Marked indent (c :: t) (c :: s) := by
  cases hspace : isSpace c with
  | true =>
    obtain rfl : c = CodePoint.ofChar ' ' := beq_iff_eq.mp hspace
    exact .space h
  | false => exact .point (isQuotable_of_escape? hc hspace) h

/-- What stands at the front of a line after the indentation: a space is escaped. -/
theorem Marked.escapedSpace (h : Marked indent t s) :
    Marked indent (CodePoint.ofChar '\\' :: CodePoint.ofChar ' ' :: t) (CodePoint.ofChar ' ' :: s) :=
  .escape isEscape_space h

/-- A line is broken before a code point that is not escaped. -/
theorem Marked.brokenBefore (h : Marked indent t s) (hc : Writer.escape? c = none) :
    Marked indent (CodePoint.ofChar '\\' :: (lineStart indent ++ ((if isSpace c then txt "\\" else []) ++ c :: t)))
      (c :: s) := by
  cases hspace : isSpace c with
  | true =>
    obtain rfl : c = CodePoint.ofChar ' ' := beq_iff_eq.mp hspace
    exact .continued h.escapedSpace rfl
  | false => exact .continued (h.ofPoint hc) hspace

/-- A space that comes first in a text comes first in what is written for it. -/
def SpaceFirst (indent : Nat) (t s : Text) : Prop :=
  ∀ s', s = CodePoint.ofChar ' ' :: s' → ∃ t', t = CodePoint.ofChar ' ' :: t' ∧ Marked indent t' s'

theorem spaceFirst_cons (h : Marked indent t s) (c : CodePoint) : SpaceFirst indent (c :: t) (c :: s) := by
  intro s' heq
  obtain ⟨rfl, rfl⟩ := List.cons.inj heq
  exact ⟨t, rfl, h⟩

/-- A space is not escaped. -/
theorem spaceFirst_of_escape? (h : Writer.escape? c = some e) : SpaceFirst indent t (c :: s) := by
  intro s' heq
  obtain ⟨rfl, -⟩ := List.cons.inj heq
  cases h

/-- A line is broken after an escape. A space that comes next must be the first thing that is written for the rest. -/
theorem Marked.brokenAfter (h : Marked indent t s) (hspace : SpaceFirst indent t s) :
    Marked indent (CodePoint.ofChar '\\' ::
      (lineStart indent ++ ((if s.head? == some (CodePoint.ofChar ' ') then txt "\\" else []) ++ t))) s := by
  cases hnext : s.head? == some (CodePoint.ofChar ' ') with
  | true =>
    obtain ⟨s, rfl⟩ : ∃ s', s = CodePoint.ofChar ' ' :: s' := List.head?_eq_some_iff.mp (beq_iff_eq.mp hnext)
    obtain ⟨t, rfl, htail⟩ := hspace s rfl
    exact .continued htail.escapedSpace rfl
  | false =>
    refine .continued h (h.begins_isSpace ?_)
    cases s with
    | nil => rfl
    | cons d s => exact hnext

/-- The code points of a text are written after those that are held. Where the line is not broken before a space, the
space comes first. -/
def MarksPoints (indent : Nat) (fold : Bool) (s : Text) : Prop :=
  ∀ (first : Bool) (held : Text) {w : Writer}, w.fresh = false →
    ∃ t, Marked indent t s ∧ (fold = false → t = s.flatMap shown) ∧
      (Writer.quotedPoints fold indent first held s w).reversed = t.reverse ++ (held ++ w.reversed) ∧
      (s.tail = [] ∨ w.column + held.length ≤ lineWidth → SpaceFirst indent t s)

theorem marksPoints_nil (indent : Nat) (fold : Bool) : MarksPoints indent fold [] := by
  intro first held w _
  refine ⟨[], .nil, fun _ => rfl, ?_, fun _ => nofun⟩
  rw [Writer.quotedPoints, Writer.put, List.reverse_reverse]
  rfl

/-- A code point that is not escaped comes next, or the line is broken before it. -/
theorem MarksPoints.point {fold : Bool} (h : MarksPoints indent fold s) (hescape : Writer.escape? c = none) :
    MarksPoints indent fold (c :: s) := by
  intro first held w hfresh
  rcases quotedPoints_point hescape fold first held w with hstep | ⟨⟨rfl, hsome, hlong⟩, hstep⟩
  · obtain ⟨t, ht, hsame, hrev, -⟩ := h false (c :: held) hfresh
    refine ⟨c :: t, ht.ofPoint hescape, fun hnot => ?_, ?_, fun _ => spaceFirst_cons ht c⟩
    · rw [hsame hnot, List.flatMap_cons, shown, hescape]
      rfl
    · rw [hstep, hrev, List.reverse_cons, List.append_assoc]
      rfl
  · have hbroken := foldQuoted_eq indent (w := w.put held.reverse) hfresh (isSpace c)
    obtain ⟨t, ht, -, hrev, -⟩ := @h false [c] ((w.put held.reverse).foldQuoted indent (isSpace c)) (by rw [hbroken])
    refine ⟨_, ht.brokenBefore hescape, nofun, ?_, fun hshort => ?_⟩
    · rw [hstep, hrev, hbroken, Writer.put, List.reverse_reverse]
      simp only [List.reverse_append, List.reverse_cons, List.append_assoc, List.cons_append]
    · rcases hshort with hnil | hshort
      · exact absurd hnil hsome
      · exact absurd hshort (Nat.not_le.mpr hlong)

/-- An escape comes next, and the line may be broken after it. -/
theorem MarksPoints.escape {fold : Bool} (h : MarksPoints indent fold s) (hroom : fold = true → indent < lineWidth)
    (hescape : Writer.escape? c = some e) : MarksPoints indent fold (c :: s) := by
  intro first held w hfresh
  have he := isEscape_of_escape? hescape
  have hreversed : ((w.put held.reverse).put e).reversed = e.reverse ++ (held ++ w.reversed) := by
    change e.reverse ++ (held.reverse.reverse ++ w.reversed) = _
    rw [List.reverse_reverse]
  rcases quotedPoints_escape hescape fold first held w with hstep | ⟨⟨rfl, rfl⟩, hstep⟩
  · obtain ⟨t, ht, hsame, hrev, -⟩ := @h false [] ((w.put held.reverse).put e) hfresh
    refine ⟨e ++ t, .escape he ht, fun hnot => ?_, ?_, fun _ => spaceFirst_of_escape? hescape⟩
    · rw [hsame hnot, List.flatMap_cons, shown, hescape]
      rfl
    · rw [hstep, hrev, hreversed, List.reverse_append, List.append_assoc]
      rfl
  · generalize hspaced : (s.head? == some (CodePoint.ofChar ' ')) = spaceNext at hstep
    have hbroken := foldQuoted_eq indent (w := (w.put held.reverse).put e) hfresh spaceNext
    obtain ⟨t, ht, -, hrev, hspace⟩ := @h false [] (((w.put held.reverse).put e).foldQuoted indent spaceNext)
      (by rw [hbroken])
    -- the line after the break is not too long already, so it is not broken again before a space
    have hfirst : SpaceFirst indent t s := by
      rintro s' rfl
      obtain rfl : true = spaceNext := hspaced
      refine hspace (.inr ?_) s' rfl
      rw [hbroken]
      exact hroom rfl
    refine ⟨_, .escape he (ht.brokenAfter hfirst), nofun, ?_, fun _ => spaceFirst_of_escape? hescape⟩
    rw [hstep, hrev, hbroken, hreversed, hspaced]
    simp only [List.reverse_append, List.reverse_cons, List.append_assoc, List.nil_append, List.cons_append]

theorem marksPoints {fold : Bool} (hroom : fold = true → indent < lineWidth) (s : Text) :
    MarksPoints indent fold s := by
  induction s with
  | nil => exact marksPoints_nil indent fold
  | cons c s ih =>
    cases hescape : Writer.escape? c with
    | none => exact ih.point hescape
    | some e => exact ih.escape hroom hescape

/-- **A text is written between quotation marks**, on one line if it is not folded. -/
theorem exists_quotationMarks (fold : Bool) (hroom : fold = true → indent < lineWidth) (w : Writer) :
    ∃ t, Marked indent t s ∧ (fold = false → t = s.flatMap shown) ∧
      w.Wrote (w.separator ++ (txt "\"" ++ (t ++ txt "\""))) (w.quotationMarks fold indent s) := by
  have hfresh : (w.mark "\"" true false false).fresh = false := Bool.and_false _
  obtain ⟨t, ht, hsame, hrev, -⟩ := marksPoints hroom s true [] hfresh
  refine ⟨t, ht, hsame, ?_, rfl, Bool.and_false _⟩
  rw [Writer.quotationMarks, Writer.mark_reversed_close, hrev, Writer.mark_reversed]
  simp only [List.reverse_append, List.append_assoc, List.nil_append]

end Yaml

end Mixfix
