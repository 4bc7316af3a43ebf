import Mixfix.Proofs.Binary64.Layout
import Mixfix.Proofs.Binary64.Sign
import Mixfix.Host.Yaml.Number
import Mixfix.Host.Yaml.Writer

/-!
# Numbers in YAML

The notation of an integer or of a double can be written plain and looks like what it is. It is read back as the
integer (`intOf_ofInt`) or, part by part of its spelling, as the double (`floatOf_text`).
-/

set_option autoImplicit false

namespace Mixfix.Yaml

open Decimal (toNat)

variable {c : CodePoint} {s t rest : Text} {negative : Bool}

/-! ## Signs and marks -/

/-- What numbers are made of. -/
def isNumberMark (c : CodePoint) : Bool :=
  c.isDigit || c == '.' || c == 'e' || c == '+' || c == '-'

theorem val_of_isDigit (h : c.isDigit = true) : 48 ≤ c.val ∧ c.val ≤ 57 := by
  simp only [CodePoint.isDigit, CodePoint.between, Bool.and_eq_true, decide_eq_true_eq] at h
  exact h

theorem val_of_isNumberMark (h : isNumberMark c = true) :
    (48 ≤ c.val ∧ c.val ≤ 57) ∨ c.val = 46 ∨ c.val = 101 ∨ c.val = 43 ∨ c.val = 45 := by
  simp only [isNumberMark, Bool.or_eq_true, beq_iff_eq] at h
  rcases h with (((hdigit | rfl) | rfl) | rfl) | rfl
  · exact .inl (val_of_isDigit hdigit)
  · exact .inr (.inl rfl)
  · exact .inr (.inr (.inl rfl))
  · exact .inr (.inr (.inr (.inl rfl)))
  · exact .inr (.inr (.inr (.inr rfl)))

theorem isNumberMark_of_isDigit (h : c.isDigit = true) : isNumberMark c = true := by
  simp only [isNumberMark, h, Bool.true_or]

theorem all_isNumberMark_of_isDigit (h : s.all CodePoint.isDigit = true) : s.all isNumberMark = true :=
  List.all_eq_true.mpr fun c hc => isNumberMark_of_isDigit (List.all_eq_true.mp h c hc)

/-- A mark of a number is none of those that are not. -/
theorem ne_of_isNumberMark {d : CodePoint} (h : isNumberMark c = true) (hd : isNumberMark d = false) : c ≠ d := by
  rintro rfl
  exact Bool.false_ne_true (hd.symm.trans h)

theorem isPlainPoint_of_isNumberMark (h : isNumberMark c = true) : isPlainPoint c = true := by
  have hval := val_of_isNumberMark h
  simp only [isPlainPoint, Bool.or_eq_true, Bool.and_eq_true, beq_iff_eq, decide_eq_true_eq]
  omega

theorem isGap_of_isNumberMark (h : isNumberMark c = true) : isGap c = false := by
  have hval := val_of_isNumberMark h
  have hne : c ≠ CodePoint.ofChar '\n' ∧ c ≠ CodePoint.ofChar ' ' ∧ c ≠ CodePoint.ofChar '\t' ∧
      c ≠ CodePoint.ofChar '\r' :=
    ⟨ne_of_isNumberMark h rfl, ne_of_isNumberMark h rfl, ne_of_isNumberMark h rfl, ne_of_isNumberMark h rfl⟩
  simp only [isGap, isBreak, Bool.or_eq_false_iff, beq_eq_false_iff_ne]
  exact ⟨⟨⟨⟨⟨⟨⟨hne.1, by omega⟩, by omega⟩, by omega⟩, hne.2.1⟩, hne.2.2.1⟩, hne.2.2.2⟩, by omega⟩

theorem isBlank_of_isNumberMark (h : isNumberMark c = true) : c.isBlank = false := by
  have hval := val_of_isNumberMark h
  simp only [CodePoint.isBlank, Bool.or_eq_false_iff, Bool.and_eq_false_iff, beq_eq_false_iff_ne,
    decide_eq_false_iff_not]
  omega

theorem toLower_of_isNumberMark (h : isNumberMark c = true) : c.toLower = c := by
  have hval := val_of_isNumberMark h
  have hupper : ¬ c.between 'A' 'Z' = true := by
    have hbounds : 'A'.toNat = 65 ∧ 'Z'.toNat = 90 := ⟨rfl, rfl⟩
    simp only [CodePoint.between, Bool.and_eq_true, decide_eq_true_eq]
    omega
  exact if_neg hupper

/-- A text with a minus sign before it or not. -/
def signed (negative : Bool) (t : Text) : Text :=
  (if negative then txt "-" else []) ++ t

/-- A number without its sign. -/
structure IsUnsigned (t : Text) : Prop where
  first : t.begins CodePoint.isDigit = true
  all : t.all isNumberMark = true

namespace IsUnsigned

theorem exists_cons (h : IsUnsigned t) : ∃ d rest, t = d :: rest ∧ d.isDigit = true := by
  obtain ⟨hfirst, -⟩ := h
  cases t with
  | nil => cases hfirst
  | cons d rest => exact ⟨d, rest, rfl, hfirst⟩

theorem dropSign (h : IsUnsigned t) : Yaml.dropSign t = t := by
  obtain ⟨d, rest, rfl, hd⟩ := h.exists_cons
  have hval := val_of_isDigit hd
  have hsign : isSign d = false := by
    rw [isSign, Bool.or_eq_false_iff, beq_eq_false_iff_ne, beq_eq_false_iff_ne]
    constructor <;> rintro rfl <;> cases hd
  exact if_neg (Bool.eq_false_iff.mp hsign)

theorem isNegated (h : IsUnsigned t) : Yaml.isNegated t = false := by
  obtain ⟨d, rest, rfl, hd⟩ := h.exists_cons
  have hne := CodePoint.ne_minus_of_isDigit hd
  exact beq_eq_false_iff_ne.mpr fun h => hne (Option.some.inj h)

theorem dropSign_signed (h : IsUnsigned t) : Yaml.dropSign (signed negative t) = t := by
  cases negative with
  | true => rfl
  | false => exact h.dropSign

theorem isNegated_signed (h : IsUnsigned t) : Yaml.isNegated (signed negative t) = negative := by
  cases negative with
  | true => rfl
  | false => exact h.isNegated

theorem all_signed (h : IsUnsigned t) : (signed negative t).all isNumberMark = true := by
  cases negative with
  | true => exact h.all
  | false => exact h.all

theorem signed_ne_nil (h : IsUnsigned t) (negative : Bool) : signed negative t ≠ [] := by
  obtain ⟨d, rest, rfl, -⟩ := h.exists_cons
  cases negative <;> exact List.cons_ne_nil _ _

theorem withoutMarks_signed (h : IsUnsigned t) : withoutMarks (signed negative t) = signed negative t := by
  apply List.filter_eq_self.mpr
  intro c hc
  have hmark := List.all_eq_true.mp h.all_signed c hc
  rw [Bool.not_eq_true', beq_eq_false_iff_ne]
  exact ne_of_isNumberMark hmark rfl

theorem trim (h : IsUnsigned t) : t.trim = t := by
  have hblank : ∀ c ∈ t, c.isBlank = false := fun c hc => isBlank_of_isNumberMark (List.all_eq_true.mp h.all c hc)
  have hstart : t.trimStart = t :=
    Text.trimStart_of_begins (fun c hc => isBlank_of_isNumberMark (isNumberMark_of_isDigit hc)) h.first
  have hend : t.reverse.dropWhile CodePoint.isBlank = t.reverse := by
    cases hreverse : t.reverse with
    | nil => rfl
    | cons c rest =>
      have hmem : c ∈ t := List.mem_reverse.mp (hreverse ▸ List.mem_cons_self)
      exact List.dropWhile_cons_of_neg (Bool.eq_false_iff.mp (hblank c hmem))
  rw [Text.trim, hstart, Text.trimEnd, hend, List.reverse_reverse]

end IsUnsigned

/-! ## What numbers look like -/

theorem hasInnerMark_of_all (h : s.all isNumberMark = true) (afterGap : Bool) : hasInnerMark afterGap s = false := by
  induction s generalizing afterGap with
  | nil => rfl
  | cons c s ih =>
    rw [List.all_cons, Bool.and_eq_true] at h
    have hcolon : (c == CodePoint.ofChar ':') = false := beq_eq_false_iff_ne.mpr (ne_of_isNumberMark h.1 rfl)
    have hhash : (c == CodePoint.ofChar '#') = false := beq_eq_false_iff_ne.mpr (ne_of_isNumberMark h.1 rfl)
    rw [hasInnerMark, hcolon, hhash, ih h.2]
    rfl

theorem hasMark_signed (h : IsUnsigned t) (negative : Bool) : hasMark (signed negative t) = false := by
  obtain ⟨d, rest, rfl, hd⟩ := h.exists_cons
  have hmark := isNumberMark_of_isDigit hd
  have hgap := isGap_of_isNumberMark hmark
  have hminus := (CodePoint.ne_minus_of_isDigit hd).symm
  have hpoint : CodePoint.ofChar '.' ≠ d := by
    rintro rfl
    cases hd
  cases negative with
  | true =>
    have hdashes : Text.after? (txt "---") (CodePoint.ofChar '-' :: d :: rest) = none :=
      (if_pos rfl).trans (if_neg hminus)
    have hinner : hasInnerMark false (d :: rest) = false := hasInnerMark_of_all h.all false
    change hasMark (CodePoint.ofChar '-' :: d :: rest) = false
    rw [hasMark, hdashes, beforeGap, hgap, Bool.and_false, show isGap (CodePoint.ofChar '-') = false from rfl, hinner]
    rfl
  | false =>
    have hdashes : Text.after? (txt "---") (d :: rest) = none := if_neg hminus
    have hpoints : Text.after? (txt "...") (d :: rest) = none := if_neg hpoint
    have hlead : leadingMarks.contains d = false := by
      rw [List.contains_eq_mem, decide_eq_false_iff_not]
      intro hmem
      have hnone : leadingMarks.any isNumberMark = false := rfl
      exact List.any_eq_false.mp hnone d hmem hmark
    have halone : (d == CodePoint.ofChar '?' || d == CodePoint.ofChar ':' || d == CodePoint.ofChar '-') = false := by
      rw [Bool.or_eq_false_iff, Bool.or_eq_false_iff, beq_eq_false_iff_ne, beq_eq_false_iff_ne, beq_eq_false_iff_ne]
      exact ⟨⟨ne_of_isNumberMark hmark rfl, ne_of_isNumberMark hmark rfl⟩, hminus.symm⟩
    have hrest : rest.all isNumberMark = true := (Bool.and_eq_true_iff.mp h.all).2
    change hasMark (d :: rest) = false
    rw [hasMark, hdashes, hpoints, hlead, halone, hasInnerMark_of_all hrest]
    rfl

/-- A number can be written plain. -/
theorem plainAllowed_signed (h : IsUnsigned t) : plainAllowed (signed negative t) = true := by
  have hall : ∀ c ∈ signed negative t, isNumberMark c = true := List.all_eq_true.mp h.all_signed
  have hspace : ∀ c ∈ signed negative t, isSpace c = false := fun c hc =>
    beq_eq_false_iff_ne.mpr (ne_of_isNumberMark (hall c hc) rfl)
  have hbreak : (signed negative t).any isBreak = false := by
    rw [List.any_eq_false]
    intro c hc
    have hgap := isGap_of_isNumberMark (hall c hc)
    simp only [isGap, Bool.or_eq_false_iff] at hgap
    rw [hgap.1.1.1.1]
    exact Bool.false_ne_true
  have hplain : (signed negative t).all isPlainPoint = true :=
    List.all_eq_true.mpr fun c hc => isPlainPoint_of_isNumberMark (hall c hc)
  have hmark := hasMark_signed h negative
  have hne := h.signed_ne_nil negative
  generalize signed negative t = s at *
  obtain ⟨c, rest, rfl⟩ := List.exists_cons_of_ne_nil hne
  rw [plainAllowed, List.head?_cons, List.getLast?_eq_getLast_of_ne_nil hne]
  dsimp only
  rw [hspace c List.mem_cons_self, hspace _ (List.getLast_mem hne), hbreak, hplain, hmark]
  rfl

/-- What a number begins with. -/
def startsNumber (c : CodePoint) : Bool :=
  c.isDigit || c == '-'

theorem IsUnsigned.begins_signed (h : IsUnsigned t) (negative : Bool) :
    (signed negative t).begins startsNumber = true := by
  cases negative with
  | true => rfl
  | false =>
    obtain ⟨d, rest, rfl, hd⟩ := h.exists_cons
    exact Bool.or_eq_true_iff.mpr (.inl hd)

/-- A number is no word. -/
theorem beq_eq_false {word : Text} (hword : word.begins startsNumber = false) (hs : s.begins startsNumber = true) :
    (s == word) = false := by
  rw [beq_eq_false_iff_ne]
  rintro rfl
  exact Bool.false_ne_true (hword.symm.trans hs)

theorem contains_eq_false {words : List Text} (hwords : ∀ word ∈ words, word.begins startsNumber = false)
    (hs : s.begins startsNumber = true) : words.contains s = false := by
  rw [List.contains_eq_mem, decide_eq_false_iff_not]
  intro hmem
  exact Bool.false_ne_true ((hwords s hmem).symm.trans hs)

theorem isBool_signed (h : IsUnsigned t) (negative : Bool) :
    (trueWords.contains (signed negative t) || falseWords.contains (signed negative t)) = false := by
  have hbegins := h.begins_signed negative
  rw [contains_eq_false (by decide) hbegins, contains_eq_false (by decide) hbegins]
  rfl

/-! ## Integers -/

theorem isUnsigned_of_all (hne : s ≠ []) (h : s.all CodePoint.isDigit = true) : IsUnsigned s := by
  obtain ⟨d, rest, rfl⟩ := List.exists_cons_of_ne_nil hne
  exact ⟨(Bool.and_eq_true_iff.mp h).1, all_isNumberMark_of_isDigit h⟩

theorem isUnsigned_ofNat (n : Nat) : IsUnsigned (Decimal.ofNat n) :=
  isUnsigned_of_all (Decimal.ofNat_ne_nil n) (Decimal.all_isDigit_ofNat n)

theorem ofInt_eq_signed (n : Int) : Decimal.ofInt n = signed (n < 0) (Decimal.ofNat n.natAbs) := by
  rcases Decimal.ofInt_cases n with ⟨hsign, hn⟩ | ⟨hsign, hn⟩
  · rw [hn, decide_eq_true hsign]
    rfl
  · rw [hn, decide_eq_false (not_lt.mpr hsign)]
    rfl

theorem dropWhile_isDigitMark (h : s.all CodePoint.isDigit = true) (hrest : rest.begins isDigitMark = false) :
    (s ++ rest).dropWhile isDigitMark = rest := by
  have hall : s.all isDigitMark = true :=
    List.all_eq_true.mpr fun c hc => Bool.or_eq_true_iff.mpr (.inl (List.all_eq_true.mp h c hc))
  exact congrArg Prod.snd (Text.takeRun_of_all hall hrest)

theorem dropWhile_isDigitMark_of_all (h : s.all CodePoint.isDigit = true) : s.dropWhile isDigitMark = [] := by
  have hdrop := dropWhile_isDigitMark h (Text.begins_nil isDigitMark)
  rwa [List.append_nil] at hdrop

/-- Digits alone are no double. -/
theorem isFloat_signed_of_all (hne : t ≠ []) (h : t.all CodePoint.isDigit = true) (negative : Bool) :
    isFloat (signed negative t) = false := by
  have hunsigned := isUnsigned_of_all hne h
  obtain ⟨d, rest, rfl, hd⟩ := hunsigned.exists_cons
  have hrest : rest.all CodePoint.isDigit = true := (Bool.and_eq_true_iff.mp h).2
  have hdrop : rest.dropWhile isDigitMark = [] := dropWhile_isDigitMark_of_all hrest
  have hdigits : afterDigits? (d :: rest) = some [] := by
    rw [afterDigits?, if_pos hd, hdrop]
  have hpoint : isPointTail true (signed negative (d :: rest)) = false := by
    cases negative with
    | true => rfl
    | false =>
      have hne : (d == CodePoint.ofChar '.') = false := by
        rw [beq_eq_false_iff_ne]
        rintro rfl
        cases hd
      change (d == CodePoint.ofChar '.' && _ && _) = false
      rw [hne]
      rfl
  have hbegins : Text.begins startsNumber (d :: rest) = true := Bool.or_eq_true_iff.mpr (.inl hd)
  unfold isFloat
  dsimp only
  rw [hunsigned.dropSign_signed, hdigits, hpoint, contains_eq_false (by decide) hbegins,
    contains_eq_false (by decide) (hunsigned.begins_signed negative)]
  rfl

theorem isInt_ofInt (n : Int) : isInt (Decimal.ofInt n) = true := by
  have hall := Decimal.all_isDigit_ofNat n.natAbs
  unfold isInt
  rw [ofInt_eq_signed, (isUnsigned_ofNat _).dropSign_signed]
  by_cases hzero : n.natAbs = 0
  · rw [hzero]
    rfl
  · obtain ⟨d, rest, hdigits, hd⟩ := Decimal.exists_ofNat_eq_cons (Nat.pos_of_ne_zero hzero)
    rw [hdigits, List.all_cons, Bool.and_eq_true] at hall
    have hdrop : rest.dropWhile isDigitMark = [] := dropWhile_isDigitMark_of_all hall.2
    rw [hdigits]
    dsimp only
    rw [if_neg hd, hall.1, hdrop]
    rfl

/-- An integer looks like one. -/
theorem looks_ofInt (n : Int) : looks (Decimal.ofInt n) = .int := by
  have hbool := isBool_signed (isUnsigned_ofNat n.natAbs) (n < 0)
  have hfloat := isFloat_signed_of_all (Decimal.ofNat_ne_nil _) (Decimal.all_isDigit_ofNat n.natAbs) (n < 0)
  rw [← ofInt_eq_signed] at hbool hfloat
  rw [looks, hbool, hfloat, isInt_ofInt]
  rfl

/-- Digits of base ten that do not begin with a zero write their number. -/
theorem integerOf_leading (h : Decimal.Leading s) (hlength : s.length ≤ Decimal.digitLimit) :
    integerOf 10 s = .ok (toNat s) := by
  have hunsigned : IsUnsigned s := by
    obtain ⟨d, rest, hs, -⟩ := h.first
    exact isUnsigned_of_all (hs ▸ List.cons_ne_nil d rest) h.all
  have hbase : withoutBase 10 s = s := by
    obtain ⟨d, rest, rfl, hd⟩ := h.first
    cases rest with
    | nil => rfl
    | cons e rest =>
      change (if (decide (d = CodePoint.ofChar '0') && _) = true then rest else d :: e :: rest) = _
      rw [decide_eq_false hd, Bool.false_and, if_neg Bool.false_ne_true]
  have hdigits : (!s.isEmpty && s.all fun c => c.isHexDigit && c.hexValue < 10) = true := by
    have hempty : s.isEmpty = false := by
      obtain ⟨d, rest, hs, -⟩ := h.first
      rw [hs]
      rfl
    have hall : (s.all fun c => c.isHexDigit && decide (c.hexValue < 10)) = true := by
      apply List.all_eq_true.mpr
      intro c hc
      have hdigit := List.all_eq_true.mp h.all c hc
      rw [CodePoint.isHexDigit, hdigit, Bool.true_or, Bool.true_or, Bool.true_and]
      exact decide_eq_true (CodePoint.hexValue_lt_of_isDigit hdigit)
    rw [hempty, hall]
    rfl
  have hshort : (10 = 10 && decide (Decimal.digitLimit < s.length)) = false := by
    rw [decide_eq_false (not_lt.mpr hlength), Bool.and_false]
  unfold integerOf
  dsimp only
  rw [hunsigned.trim, hunsigned.dropSign, hbase, if_pos hdigits, hunsigned.isNegated, hshort,
    if_neg Bool.false_ne_true, if_neg Bool.false_ne_true]
  rfl

theorem unsignedInt_ofNat {n : Nat} (h : (Decimal.ofNat n).length ≤ Decimal.digitLimit) :
    unsignedInt (Decimal.ofNat n) = .ok n := by
  by_cases hzero : n = 0
  · rw [hzero]
    rfl
  · have hleading := Decimal.leading_ofNat (Nat.pos_of_ne_zero hzero)
    have hread := integerOf_leading hleading h
    rw [Decimal.toNat_ofNat] at hread
    generalize Decimal.ofNat n = s at *
    have hcolon : s.contains (CodePoint.ofChar ':') = false := by
      rw [List.contains_eq_mem, decide_eq_false_iff_not]
      intro hmem
      have hdigit := List.all_eq_true.mp hleading.all _ hmem
      cases hdigit
    obtain ⟨d, rest, rfl, hd⟩ := hleading.first
    have hzero : (d :: rest == txt "0") = false := beq_eq_false_iff_ne.mpr fun h => hd (List.cons.inj h).1
    have hhead : ((d :: rest).head? == some (CodePoint.ofChar '0')) = false :=
      beq_eq_false_iff_ne.mpr fun h => hd (Option.some.inj h)
    have hafter : ∀ start : Text, Text.after? (CodePoint.ofChar '0' :: start) (d :: rest) = none :=
      fun _ => if_neg hd.symm
    unfold unsignedInt
    rw [hzero, if_neg Bool.false_ne_true, hhead, hcolon, if_neg Bool.false_ne_true, if_neg Bool.false_ne_true,
      show txt "0b" = CodePoint.ofChar '0' :: txt "b" from rfl, hafter,
      show txt "0x" = CodePoint.ofChar '0' :: txt "x" from rfl, hafter]
    exact hread

/-- **An integer is read back** from its notation. -/
theorem intOf_ofInt {n : Int} (h : Decimal.digitCount (Decimal.ofInt n) ≤ Decimal.digitLimit) :
    intOf (Decimal.ofInt n) = .ok n := by
  have hunsigned := isUnsigned_ofNat n.natAbs
  have hempty : (Decimal.ofNat n.natAbs).isEmpty = false := List.isEmpty_eq_false_iff.mpr (Decimal.ofNat_ne_nil _)
  rw [Decimal.digitCount_ofInt] at h
  unfold intOf
  dsimp only
  rw [ofInt_eq_signed, hunsigned.withoutMarks_signed, hunsigned.dropSign_signed, hunsigned.isNegated_signed, hempty,
    if_neg Bool.false_ne_true, unsignedInt_ofNat h]
  change Except.ok (if decide (n < 0) = true then -(n.natAbs : Int) else n.natAbs) = .ok n
  congr 1
  by_cases hsign : n < 0
  · rw [decide_eq_true hsign, if_pos rfl]
    omega
  · rw [decide_eq_false hsign, if_neg Bool.false_ne_true]
    omega

/-! ## Doubles -/

section Spelling

open Binary64 (Spelling exponentPart)

variable {n : Spelling}

theorem all_isDigit_whole (h : n.Fits doubleStyle) : n.whole ≠ [] ∧ n.whole.all CodePoint.isDigit = true := by
  rcases h.whole with hzero | hleading
  · rw [hzero]
    exact ⟨List.cons_ne_nil _ _, rfl⟩
  · obtain ⟨d, rest, hs, -⟩ := hleading.first
    exact ⟨hs ▸ List.cons_ne_nil d rest, hleading.all⟩

/-- A double has a point. -/
theorem text_of_fits (h : n.Fits doubleStyle) :
    n.fraction ≠ [] ∧ n.text = n.whole ++ CodePoint.ofChar '.' :: (n.fraction ++ exponentPart n.power) := by
  obtain ⟨whole, fraction, power⟩ := n
  cases fraction with
  | nil =>
    obtain ⟨hpoint, -⟩ := h.pointed rfl
    cases hpoint
  | cons d fraction => exact ⟨List.cons_ne_nil _ _, rfl⟩

theorem all_exponentPart (power : Option Int) : (exponentPart power).all isNumberMark = true := by
  cases power with
  | none => rfl
  | some power =>
    obtain ⟨sign, digits, htext, -, hall, -, hsign⟩ := Binary64.exists_exponentText power
    have hmark : isNumberMark sign = true := by
      rw [hsign]
      split <;> rfl
    change (isNumberMark (CodePoint.ofChar 'e') && (Binary64.exponentText power).all isNumberMark) = true
    rw [htext, List.all_cons, hmark, all_isNumberMark_of_isDigit hall]
    rfl

theorem isUnsigned_text (h : n.Fits doubleStyle) : IsUnsigned n.text := by
  obtain ⟨hne, hwhole⟩ := all_isDigit_whole h
  have hbegins := (isUnsigned_of_all hne hwhole).first
  obtain ⟨-, htext⟩ := text_of_fits h
  rw [htext]
  refine ⟨Text.begins_append hbegins _, ?_⟩
  rw [List.all_append, List.all_cons, List.all_append, all_isNumberMark_of_isDigit hwhole,
    all_isNumberMark_of_isDigit h.fraction, all_exponentPart]
  rfl

theorem isExponentOrEmpty_exponentPart (power : Option Int) : isExponentOrEmpty (exponentPart power) = true := by
  cases power with
  | none => rfl
  | some power =>
    obtain ⟨sign, digits, htext, hne, hall, -, hsign⟩ := Binary64.exists_exponentText power
    obtain ⟨d, digits, rfl⟩ := List.exists_cons_of_ne_nil hne
    have hmark : isSign sign = true := by
      rw [hsign]
      split <;> rfl
    have hpart : exponentPart (some power) = CodePoint.ofChar 'e' :: Binary64.exponentText power := rfl
    rw [hpart, htext, isExponentOrEmpty, hmark, hall]
    rfl

theorem exponentOf?_exponentPart (power : Option Int) : exponentOf? (exponentPart power) = some (power.getD 0) := by
  cases power with
  | none => rfl
  | some power =>
    obtain ⟨sign, digits, htext, hne, hall, hvalue, hsign⟩ := Binary64.exists_exponentText power
    have hmark : isSign sign = true := by
      rw [hsign]
      split <;> rfl
    have hdrop : dropSign (sign :: digits) = digits := if_pos hmark
    have hempty : digits.isEmpty = false := List.isEmpty_eq_false_iff.mpr hne
    have hpart : exponentPart (some power) = CodePoint.ofChar 'e' :: Binary64.exponentText power := rfl
    rw [hpart, htext, exponentOf?]
    dsimp only
    rw [hdrop, hempty, hall, hvalue, decide_eq_true rfl, if_pos (by rfl), Option.getD_some, hsign]
    congr 1
    by_cases hnegative : power < 0
    · rw [if_pos hnegative, if_pos (by rfl)]
      omega
    · rw [if_neg hnegative, if_neg (show ¬ isNegated (CodePoint.ofChar '+' :: digits) = true from nofun)]
      omega

/-- A double looks like one. -/
theorem looks_text (h : n.Fits doubleStyle) (negative : Bool) : looks (signed negative n.text) = .float := by
  have hunsigned := isUnsigned_text h
  have hfloat : isFloat (signed negative n.text) = true := by
    obtain ⟨-, htext⟩ := text_of_fits h
    obtain ⟨hne, hwhole⟩ := all_isDigit_whole h
    obtain ⟨d, rest, hd⟩ := List.exists_cons_of_ne_nil hne
    rw [hd, List.all_cons, Bool.and_eq_true] at hwhole
    have htail : Text.begins isDigitMark (exponentPart n.power) = false := by cases n.power <;> rfl
    have hdigits : afterDigits? n.text = some (CodePoint.ofChar '.' :: (n.fraction ++ exponentPart n.power)) := by
      rw [htext, hd, List.cons_append, afterDigits?, if_pos hwhole.1, dropWhile_isDigitMark hwhole.2 rfl]
    have hpoint : isPointTail false (CodePoint.ofChar '.' :: (n.fraction ++ exponentPart n.power)) = true := by
      rw [isPointTail, dropWhile_isDigitMark h.fraction htail, isExponentOrEmpty_exponentPart]
      rfl
    unfold isFloat
    dsimp only
    rw [hunsigned.dropSign_signed, hdigits]
    dsimp only
    rw [hpoint]
    rfl
  rw [looks, isBool_signed hunsigned negative, hfloat]
  rfl

/-- The decimal notation of a double is read as its number. -/
theorem doubleOf_text (h : n.Fits doubleStyle) : doubleOf n.text = .ok (Binary64.ofDecimal false n.digits n.place) := by
  have hunsigned := isUnsigned_text h
  obtain ⟨hne, hwhole⟩ := all_isDigit_whole h
  obtain ⟨-, htext⟩ := text_of_fits h
  have htail : Text.begins CodePoint.isDigit (exponentPart n.power) = false := by cases n.power <;> rfl
  have hwholes : Text.takeRun CodePoint.isDigit n.text =
      (n.whole, CodePoint.ofChar '.' :: (n.fraction ++ exponentPart n.power)) := by
    rw [htext]
    exact Text.takeRun_of_all hwhole rfl
  have hfractions : Text.takeRun CodePoint.isDigit (n.fraction ++ exponentPart n.power) =
      (n.fraction, exponentPart n.power) := Text.takeRun_of_all h.fraction htail
  have hbegins := hunsigned.begins_signed false
  have hinfinity : [txt "inf", txt "infinity"].contains n.text = false := contains_eq_false (by decide) hbegins
  have hnan : (n.text == txt "nan") = false := beq_eq_false rfl hbegins
  have hempty : (n.whole ++ n.fraction).isEmpty = false :=
    List.isEmpty_eq_false_iff.mpr (List.append_ne_nil_of_left_ne_nil hne _)
  unfold doubleOf
  simp only [hunsigned.trim, hunsigned.dropSign, hunsigned.isNegated, hwholes, hfractions, hinfinity, hnan, hempty,
    exponentOf?_exponentPart, if_true, Bool.false_eq_true, if_false]
  rfl

/-- **A double is read back** from its notation, of which the sign is apart. -/
theorem floatOf_text (h : n.Fits doubleStyle) (negative : Bool) :
    floatOf (signed negative n.text) = .ok (Binary64.ofDecimal negative n.digits n.place) := by
  have hunsigned := isUnsigned_text h
  have hbegins := hunsigned.begins_signed false
  have hlower : (signed negative n.text).map CodePoint.toLower = signed negative n.text := by
    have hpoints : ∀ c ∈ signed negative n.text, c.toLower = id c := fun c hc =>
      toLower_of_isNumberMark (List.all_eq_true.mp hunsigned.all_signed c hc)
    rw [List.map_congr_left hpoints, List.map_id]
  have hempty : (signed negative n.text).isEmpty = false :=
    List.isEmpty_eq_false_iff.mpr (hunsigned.signed_ne_nil negative)
  have hinfinity : (n.text == txt ".inf") = false := beq_eq_false rfl hbegins
  have hnan : (n.text == txt ".nan") = false := beq_eq_false rfl hbegins
  have hcolon : n.text.contains (CodePoint.ofChar ':') = false := by
    rw [List.contains_eq_mem, decide_eq_false_iff_not]
    intro hmem
    have hmark := List.all_eq_true.mp hunsigned.all _ hmem
    cases hmark
  unfold floatOf
  simp only [hunsigned.withoutMarks_signed, hlower, hunsigned.dropSign_signed, hunsigned.isNegated_signed, hempty,
    hinfinity, hnan, hcolon, doubleOf_text h, Bool.false_eq_true, if_false]
  cases negative with
  | true => exact congrArg Except.ok (Binary64.neg_ofDecimal _ _)
  | false => rfl

end Spelling

end Mixfix.Yaml
