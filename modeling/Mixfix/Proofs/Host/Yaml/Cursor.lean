import Mixfix.Host.Yaml.Cursor
import Mixfix.Proofs.Yaml

/-!
# Places in a YAML text

A cursor in a text that is written is told by what stands before it and after it (`Cursor.place`). The front is
reversed, as the writer has it, so that the place after a text is the place after each of its code points. What is
written has no tabs, carriage returns or byte order marks, so a column is a number of code points and a gap is made
of spaces and breaks.
-/

set_option autoImplicit false

namespace Mixfix

theorem CodePoint.beq_ofChar_eq_false {c : CodePoint} {d : Char} (h : c.val ≠ d.toNat) :
    (c == CodePoint.ofChar d) = false :=
  beq_eq_false_iff_ne.mpr (CodePoint.eq_ofChar_iff.not.mpr h)

namespace Yaml

variable {c : CodePoint} {s t gap before after : Text} {n : Nat}

/-! ## What is written without an escape -/

theorem isPlainPoint_iff : isPlainPoint c = true ↔
    c.val = 0x0A ∨ (0x20 ≤ c.val ∧ c.val ≤ 0x7E) ∨ c.val = 0x85 ∨
      (0xA0 ≤ c.val ∧ c.val < 0x10FFFF ∧ ¬(0xD800 ≤ c.val ∧ c.val ≤ 0xDFFF) ∧ c.val ≠ 0xFEFF ∧
        ¬(0xFFFE ≤ c.val ∧ c.val ≤ 0xFFFF)) := by
  simp only [isPlainPoint, Bool.or_eq_true, Bool.and_eq_true, beq_iff_eq, decide_eq_true_eq, Bool.not_eq_true',
    Bool.and_eq_false_iff, decide_eq_false_iff_not, bne_iff_ne]
  omega

/-- A code point of a text that is neither a space nor a break. -/
def isSolid (c : CodePoint) : Bool :=
  isPlainPoint c && !isSpace c && !isBreak c

theorem isSolid_iff : isSolid c = true ↔ isPlainPoint c = true ∧ isSpace c = false ∧ isBreak c = false := by
  simp only [isSolid, Bool.and_eq_true, Bool.not_eq_true', and_assoc]

section

variable (h : isPlainPoint c = true)
include h

theorem not_isByteOrderMark : isByteOrderMark c = false := by
  rw [isPlainPoint_iff] at h
  rw [isByteOrderMark, beq_eq_false_iff_ne]
  omega

theorem ne_return : (c == CodePoint.ofChar '\r') = false := by
  rw [isPlainPoint_iff] at h
  exact CodePoint.beq_ofChar_eq_false (show c.val ≠ 0x0D by omega)

theorem ne_tab : (c == CodePoint.ofChar '\t') = false := by
  rw [isPlainPoint_iff] at h
  exact CodePoint.beq_ofChar_eq_false (show c.val ≠ 0x09 by omega)

/-- What is written as it is has no gaps but spaces and breaks. -/
theorem isGap_eq : isGap c = (isBreak c || isSpace c) := by
  have hnull : (c.val == 0) = false := by
    rw [isPlainPoint_iff] at h
    rw [beq_eq_false_iff_ne]
    omega
  rw [isGap, ne_tab h, ne_return h, hnull, isSpace]
  simp only [Bool.or_false]

theorem startsBreak_eq : startsBreak c = isBreak c := by
  rw [startsBreak, ne_return h, Bool.or_false]

theorem isSpaceOrTab_eq : isSpaceOrTab c = isSpace c := by
  rw [isSpaceOrTab, ne_tab h, Bool.or_false, isSpace]

end

theorem not_isGap_of_isSolid (h : isSolid c = true) : isGap c = false := by
  obtain ⟨hplain, hspace, hbreak⟩ := isSolid_iff.mp h
  rw [isGap_eq hplain, hspace, hbreak]
  rfl

/-! ## Breaks -/

/-- How a break is read: the next line character as a line feed. -/
def readBreak (c : CodePoint) : CodePoint :=
  if c.val = 0x85 then '\n' else c

theorem isPlainPoint_of_isBreak (h : isBreak c = true) : isPlainPoint c = true := by
  rw [isBreak_iff] at h
  rw [isPlainPoint_iff]
  omega

theorem break?_cons (h : isBreak c = true) (s : Text) : break? (c :: s) = some (readBreak c, s) := by
  have hne : c ≠ CodePoint.ofChar '\r' := by
    rintro rfl
    cases h
  have hcases := isBreak_iff.mp h
  unfold break? readBreak
  dsimp only
  rw [if_neg hne]
  by_cases hfeed : c = CodePoint.ofChar '\n'
  · subst hfeed
    rfl
  · by_cases hnext : c.val = 0x85
    · rw [if_pos (by simp [hnext]), if_pos hnext]
    · have hval : c.val ≠ 0x0A := fun hval => hfeed (CodePoint.eq_ofChar_iff.mpr hval)
      have hother : (c.val = 0x2028 || c.val = 0x2029) = true := by
        simp only [Bool.or_eq_true, decide_eq_true_eq]
        omega
      rw [if_neg (by simp [hfeed, hnext]), if_pos hother, if_neg hnext]

theorem break?_eq_none (h : s.begins startsBreak = false) : break? s = none := by
  cases s with
  | nil => rfl
  | cons c s =>
    rw [Text.begins_cons, startsBreak, Bool.or_eq_false_iff, beq_eq_false_iff_ne] at h
    obtain ⟨hbreak, hreturn⟩ := h
    simp only [isBreak, Bool.or_eq_false_iff, beq_eq_false_iff_ne] at hbreak
    unfold break?
    dsimp only
    rw [if_neg hreturn, if_neg (by simp [hbreak]), if_neg (by simp [hbreak])]

/-! ## Places -/

/-- The length of the last line of a reversed text. -/
def lastLine (before : Text) : Nat :=
  (before.takeWhile fun c => !isBreak c).length

theorem lastLine_cons (h : isBreak c = false) : lastLine (c :: before) = lastLine before + 1 := by
  rw [lastLine, List.takeWhile_cons_of_pos (by rw [h]; rfl), List.length_cons, lastLine]

theorem lastLine_break (h : isBreak c = true) : lastLine (c :: before) = 0 := by
  rw [lastLine, List.takeWhile_cons_of_neg (by simp [h]), List.length_nil]

theorem lastLine_append (h : ∀ c ∈ t, isBreak c = false) :
    lastLine (t.reverse ++ before) = lastLine before + t.length := by
  induction t generalizing before with
  | nil => rfl
  | cons c t ih =>
    obtain ⟨hc, ht⟩ := List.forall_mem_cons.mp h
    rw [List.reverse_cons, List.append_assoc, ih ht, List.singleton_append, lastLine_cons hc, List.length_cons]
    omega

namespace Cursor

/-- The place between what stands before it, the last code point first, and what stands after it. -/
def place (before after : Text) : Cursor :=
  ⟨after, before.countP isBreak, lastLine before, lastLine before, before.length + after.length + 1⟩

theorem start_eq (s : Text) : start s = place [] s := by
  simp [start, place, lastLine]

/-- A line is gone forward on. -/
theorem forward_place (before after : Text) (hwritten : ∀ c ∈ t, isPlainPoint c = true)
    (hline : ∀ c ∈ t, isBreak c = false) :
    (place before (t ++ after)).forward t.length = place (t.reverse ++ before) after := by
  have hmarks : t.countP isByteOrderMark = 0 := by
    rw [List.countP_eq_zero]
    intro c hc
    simp [not_isByteOrderMark (hwritten c hc)]
  have hbreaks : t.countP isBreak = 0 := by
    rw [List.countP_eq_zero]
    intro c hc
    simp [hline c hc]
  unfold forward place
  simp only [List.take_left, List.drop_left, hmarks, List.countP_append, List.countP_reverse, hbreaks,
    lastLine_append hline, List.length_append, List.length_reverse, Nat.sub_zero, Nat.zero_add, Cursor.mk.injEq,
    true_and]
  omega

theorem forward_one (hwritten : isPlainPoint c = true) (hline : isBreak c = false) :
    (place before (c :: after)).forward 1 = place (c :: before) after :=
  forward_place before after (t := [c]) (by simpa using hwritten) (by simpa using hline)

/-- One of the code points that are gone forward on is of the front. -/
theorem forward_cons (hwritten : isPlainPoint c = true) (hline : isBreak c = false) (n : Nat) :
    (place before (c :: after)).forward (n + 1) = (place (c :: before) after).forward n := by
  have hmarks : (after.take n).countP isByteOrderMark ≤ n :=
    Nat.le_trans List.countP_le_length (List.length_take_le n after)
  have hmark : ¬isByteOrderMark c = true := by simp [not_isByteOrderMark hwritten]
  have hbreak : ¬isBreak c = true := by simp [hline]
  unfold forward place
  simp only [List.take_succ_cons, List.drop_succ_cons, List.countP_cons_of_neg hmark, List.countP_cons_of_neg hbreak,
    lastLine_cons hline, List.length_cons, Cursor.mk.injEq, true_and]
  omega

theorem forward_zero (before after : Text) : (place before after).forward 0 = place before after :=
  forward_place before after (t := []) (fun _ => nofun) fun _ => nofun

/-- There is fuel for every code point that is left, and more. -/
theorem fuel_place (before after : Text) : (place before after).fuel = before.length + after.length + 1 := rfl

theorem forward_two {d : CodePoint} (hc : isSolid c = true) (hd : isPlainPoint d = true) (hline : isBreak d = false) :
    (place before (c :: d :: after)).forward 2 = place (d :: c :: before) after := by
  obtain ⟨hplain, -, hbreak⟩ := isSolid_iff.mp hc
  rw [forward_cons hplain hbreak, forward_one hd hline]

theorem newLine_place (h : isBreak c = true) :
    (place before (c :: after)).newLine after = place (c :: before) after := by
  simp only [newLine, place, List.countP_cons_of_pos h, lastLine_break h, List.length_cons, Cursor.mk.injEq, true_and]
  omega

theorem newLine_cons (hline : isBreak c = false) (s : Text) :
    (place before (c :: after)).newLine s = (place (c :: before) after).newLine s := by
  have hbreak : ¬isBreak c = true := by simp [hline]
  simp only [newLine, place, List.countP_cons_of_neg hbreak, List.length_cons, Cursor.mk.injEq, true_and]
  omega

end Cursor

/-! ## Gaps -/

/-- So many spaces. -/
def spaces (n : Nat) : Text :=
  List.replicate n (CodePoint.ofChar ' ')

/-- A line break and an indentation. -/
def lineStart (indent : Nat) : Text :=
  CodePoint.ofChar '\n' :: spaces indent

theorem mem_spaces (h : c ∈ spaces n) : c = CodePoint.ofChar ' ' :=
  (List.mem_replicate.mp h).2

theorem isPlainPoint_of_mem_spaces (h : c ∈ spaces n) : isPlainPoint c = true := by
  rw [mem_spaces h]
  rfl

theorem isBreak_of_mem_spaces (h : c ∈ spaces n) : isBreak c = false := by
  rw [mem_spaces h]
  rfl

theorem spaces_succ_ne_nil (n : Nat) : spaces (n + 1) ≠ [] :=
  List.cons_ne_nil _ _

@[simp] theorem length_spaces (n : Nat) : (spaces n).length = n :=
  List.length_replicate

@[simp] theorem reverse_spaces (n : Nat) : (spaces n).reverse = spaces n :=
  List.reverse_replicate

theorem lastLine_spaces (n : Nat) (before : Text) : lastLine (spaces n ++ before) = lastLine before + n := by
  have hspaces : lastLine ((spaces n).reverse ++ before) = lastLine before + (spaces n).length :=
    lastLine_append fun c => isBreak_of_mem_spaces
  rwa [reverse_spaces, length_spaces] at hspaces

@[simp] theorem length_lineStart (indent : Nat) : (lineStart indent).length = indent + 1 := by
  rw [lineStart, List.length_cons, length_spaces]

@[simp] theorem reverse_lineStart (indent : Nat) :
    (lineStart indent).reverse = spaces indent ++ [CodePoint.ofChar '\n'] := by
  rw [lineStart, List.reverse_cons, reverse_spaces]

theorem isPlainPoint_of_mem_lineStart {indent : Nat} (h : c ∈ lineStart indent) : isPlainPoint c = true := by
  rcases List.mem_cons.mp h with rfl | h
  · rfl
  · exact isPlainPoint_of_mem_spaces h

theorem lastLine_lineStart (indent : Nat) (before : Text) :
    lastLine ((lineStart indent).reverse ++ before) = indent := by
  have hbreak : isBreak (CodePoint.ofChar '\n') = true := rfl
  rw [reverse_lineStart, List.append_assoc, lastLine_spaces, List.singleton_append, lastLine_break hbreak, Nat.zero_add]

/-- A run of spaces is taken whole. -/
theorem takeWhile_spaces {p : CodePoint → Bool} (hp : p ' ' = true) (h : after.begins p = false) (n : Nat) :
    (spaces n ++ after).takeWhile p = spaces n := by
  have hall : (spaces n).all p = true := by
    rw [List.all_eq_true]
    intro c hc
    rw [mem_spaces hc, hp]
  exact congrArg Prod.fst (Text.takeRun_of_all hall h)

theorem dropWhile_spaces {p : CodePoint → Bool} (hp : p ' ' = true) (h : after.begins p = false) (n : Nat) :
    (spaces n ++ after).dropWhile p = after := by
  have hsplit : (spaces n ++ after).takeWhile p ++ (spaces n ++ after).dropWhile p = spaces n ++ after :=
    List.takeWhile_append_dropWhile
  rw [takeWhile_spaces hp h] at hsplit
  exact List.append_cancel_left hsplit

namespace Cursor

theorem forward_spaces (n : Nat) : (place before (spaces n ++ after)).forward n = place (spaces n ++ before) after := by
  have hforward := forward_place before after (t := spaces n)
    (fun c => isPlainPoint_of_mem_spaces) fun c => isBreak_of_mem_spaces
  rwa [length_spaces, reverse_spaces] at hforward

theorem skipRun_spaces {p : CodePoint → Bool} (hp : p ' ' = true) (h : after.begins p = false) (n : Nat) :
    (place before (spaces n ++ after)).skipRun p = place (spaces n ++ before) after := by
  unfold skipRun
  change (place before (spaces n ++ after)).forward ((spaces n ++ after).takeWhile p).length = _
  rw [takeWhile_spaces hp h, length_spaces, forward_spaces]

/-- What a token can begin with: neither a gap nor the mark of a comment. -/
def isStart (c : CodePoint) : Bool :=
  !isSpace c && !startsBreak c && c != '#'

/-- A token or the end of the text follows. -/
def AtToken (s : Text) : Prop :=
  ∀ c ∈ s.head?, isStart c = true

theorem AtToken.begins_isSpace (h : AtToken s) : s.begins isSpace = false := by
  cases s with
  | nil => rfl
  | cons c s =>
    have hstart := h c rfl
    simp only [isStart, Bool.and_eq_true, Bool.not_eq_true'] at hstart
    exact hstart.1.1

theorem AtToken.begins_startsBreak (h : AtToken s) : s.begins startsBreak = false := by
  cases s with
  | nil => rfl
  | cons c s =>
    have hstart := h c rfl
    simp only [isStart, Bool.and_eq_true, Bool.not_eq_true'] at hstart
    exact hstart.1.2

theorem skipGaps_token (h : AtToken after) (fuel : Nat) : skipGaps fuel (place before after) = place before after := by
  cases fuel with
  | zero => rfl
  | succ fuel =>
    have hspace := h.begins_isSpace
    have hbreak := h.begins_startsBreak
    cases after with
    | nil => rfl
    | cons c after =>
      have hstart := h c rfl
      have hne : c ≠ CodePoint.ofChar ' ' := by
        rintro rfl
        cases hspace
      simp only [isStart, Bool.and_eq_true, bne_iff_ne] at hstart
      unfold skipGaps
      change (if c = CodePoint.ofChar ' ' then _ else _) = _
      rw [if_neg hne, if_neg hstart.2]
      have hnone : break? (place before (c :: after)).rest = none := break?_eq_none hbreak
      rw [hnone]

theorem skipGaps_spaces (before : Text) (h : AtToken after) (n fuel : Nat) :
    skipGaps (fuel + 1) (place before (spaces n ++ after)) = place (spaces n ++ before) after := by
  cases n with
  | zero => exact skipGaps_token h _
  | succ n =>
    have hrun : (place before (spaces (n + 1) ++ after)).skipRun isSpace = place (spaces (n + 1) ++ before) after :=
      skipRun_spaces rfl h.begins_isSpace (n + 1)
    unfold skipGaps
    change (if CodePoint.ofChar ' ' = CodePoint.ofChar ' ' then
      skipGaps fuel ((place before (spaces (n + 1) ++ after)).skipRun isSpace) else _) = _
    rw [if_pos rfl, hrun, skipGaps_token h]

/-- **Spaces before a token are skipped.** -/
theorem next_spaces (h : AtToken after) (n : Nat) :
    (place before (spaces n ++ after)).next = place (spaces n ++ before) after :=
  skipGaps_spaces before h n _

/-- **A break and the indentation before a token are skipped.** -/
theorem next_lineStart (h : AtToken after) (indent : Nat) :
    (place before (lineStart indent ++ after)).next = place ((lineStart indent).reverse ++ before) after := by
  obtain ⟨fuel, hfuel⟩ : ∃ fuel, (place before (lineStart indent ++ after)).fuel = fuel + 2 :=
    ⟨_, by simp only [place, lineStart, List.cons_append, List.length_cons]; rfl⟩
  have hbreak : isBreak (CodePoint.ofChar '\n') = true := rfl
  have hspaces := skipGaps_spaces (CodePoint.ofChar '\n' :: before) h indent fuel
  rw [next, hfuel, reverse_lineStart, List.append_assoc, List.singleton_append, ← hspaces, ← newLine_place hbreak]
  rfl

/-- A break leads to the next line. -/
theorem line_lineStart (indent : Nat) (before after : Text) :
    (place ((lineStart indent).reverse ++ before) after).line = before.countP isBreak + 1 := by
  have hspaces : (spaces indent).countP isBreak = 0 := by
    rw [List.countP_eq_zero]
    intro c hc
    rw [isBreak_of_mem_spaces hc]
    exact Bool.false_ne_true
  have hfeed : isBreak (CodePoint.ofChar '\n') = true := rfl
  change ((lineStart indent).reverse ++ before).countP isBreak = _
  rw [reverse_lineStart, List.append_assoc, List.countP_append, hspaces, List.singleton_append,
    List.countP_cons_of_pos hfeed, Nat.zero_add]

/-! ## Documents -/

/-- No document begins or ends before a gap or the end of the text. -/
theorem atDocumentEdge_gap (h : after.begins (fun c => !isGap c) = false) :
    (place before after).atDocumentEdge = false := by
  have hnone : ∀ mark : String,
      (txt mark).begins isGap = false → txt mark ≠ [] → Text.after? (txt mark) after = none := by
    intro mark hmark hne
    apply Option.eq_none_iff_forall_ne_some.mpr
    intro rest hrest
    rw [Text.after?_eq_some] at hrest
    obtain ⟨c, tail, hc⟩ := List.exists_cons_of_ne_nil hne
    rw [hrest, hc] at h
    rw [hc] at hmark
    simp only [List.cons_append, Text.begins_cons, Bool.not_eq_false'] at h hmark
    rw [h] at hmark
    cases hmark
  unfold atDocumentEdge hasDocumentMark
  simp only [place, hnone "---" rfl (by decide), hnone "..." rfl (by decide), Bool.and_false, Bool.or_self]

/-- Documents begin and end at the front of a line only. -/
theorem atDocumentEdge_column (h : lastLine before ≠ 0) : (place before after).atDocumentEdge = false := by
  unfold atDocumentEdge hasDocumentMark
  simp only [place, beq_eq_false_iff_ne.mpr h, Bool.false_and, Bool.or_self]

end Cursor

end Yaml

end Mixfix
