import Mathlib.Data.List.DropRight
import Mathlib.Tactic.Ring
import Mixfix.Decimal
import Mixfix.Proofs.Text

/-!
# Decimal notation, there and back

The notation of an integer is a notation of that integer (`Decimal.writes_ofInt`), and no notation of it is shorter
(`Decimal.digitCount_ofInt_le`). So an integer that was read can be written.
-/

set_option autoImplicit false

namespace Mixfix

/-! ## Digits -/

namespace CodePoint

theorem isDigit_ofChar {c : Char} (h : c.isDigit = true) : (ofChar c).isDigit = true := by
  simp only [Char.isDigit, Bool.and_eq_true, decide_eq_true_eq] at h
  rw [isDigit, between, Bool.and_eq_true]
  exact ⟨decide_eq_true h.1, decide_eq_true h.2⟩

theorem hexValue_of_isDigit {c : CodePoint} (h : c.isDigit = true) : c.hexValue = c.val - '0'.toNat := by
  rw [hexValue, if_pos h]

theorem hexValue_lt_of_isDigit {c : CodePoint} (h : c.isDigit = true) : c.hexValue < 10 := by
  rw [hexValue_of_isDigit h]
  simp only [isDigit, between, Bool.and_eq_true, decide_eq_true_eq] at h
  have hnine : '9'.toNat = 57 := rfl
  have hzero : '0'.toNat = 48 := rfl
  omega

/-- A minus sign is no digit. -/
theorem ne_minus_of_isDigit {c : CodePoint} (h : c.isDigit = true) : c ≠ ofChar '-' := by
  rintro rfl
  cases h

end CodePoint

namespace Decimal

variable {n : Nat} {digits s : Text}

theorem ofNat_ne_nil (n : Nat) : ofNat n ≠ [] := by
  intro h
  exact Nat.toDigits_ne_nil (List.map_eq_nil_iff.mp h)

theorem all_isDigit_ofNat (n : Nat) : (ofNat n).all CodePoint.isDigit = true := by
  apply List.all_eq_true.mpr
  intro d hd
  obtain ⟨c, hc, rfl⟩ := List.mem_map.mp hd
  exact CodePoint.isDigit_ofChar (Nat.isDigit_of_mem_toDigits (by decide) (by decide) hc)

theorem begins_ofNat (n : Nat) : (ofNat n).begins CodePoint.isDigit = true := by
  have hall := all_isDigit_ofNat n
  cases hdigits : ofNat n with
  | nil => exact absurd hdigits (ofNat_ne_nil n)
  | cons d digits =>
    rw [hdigits, List.all_cons, Bool.and_eq_true] at hall
    exact hall.1

/-- Only zero begins with a zero. -/
theorem exists_ofNat_eq_cons (h : 0 < n) : ∃ d rest, ofNat n = d :: rest ∧ d ≠ CodePoint.ofChar '0' := by
  induction n using Nat.strongRecOn with
  | _ n ih =>
    by_cases hsmall : n < 10
    · have hone : ofNat n = [CodePoint.ofChar n.digitChar] := by
        rw [ofNat, Nat.toDigits_of_lt_base hsmall]
        rfl
      refine ⟨_, [], hone, ?_⟩
      have hdigits : ∀ m < 10, 0 < m → CodePoint.ofChar m.digitChar ≠ CodePoint.ofChar '0' := by decide
      exact hdigits n hsmall h
    · obtain ⟨d, rest, hrest, hd⟩ := ih (n / 10) (by omega) (by omega)
      refine ⟨d, rest ++ [CodePoint.ofChar (n % 10).digitChar], ?_, hd⟩
      rw [ofNat, Nat.toDigits_of_base_le (by decide) (by omega), List.map_append]
      rw [ofNat] at hrest
      rw [hrest]
      rfl

theorem foldl_ofChar {chars : List Char} (h : ∀ c ∈ chars, c.isDigit = true) (init : Nat) :
    (chars.map CodePoint.ofChar).foldl (fun n d => 10 * n + d.hexValue) init = Nat.ofDigitChars 10 chars init := by
  induction chars generalizing init with
  | nil => simp
  | cons c chars ih =>
    obtain ⟨hc, hrest⟩ := List.forall_mem_cons.mp h
    rw [List.map_cons, List.foldl_cons, Nat.ofDigitChars_cons, ih hrest,
      CodePoint.hexValue_of_isDigit (CodePoint.isDigit_ofChar hc)]
    rfl

/-- The digits of a number write the number. -/
theorem toNat_ofNat (n : Nat) : toNat (ofNat n) = n := by
  have hdigits : ∀ c ∈ Nat.toDigits 10 n, c.isDigit = true := by
    intro c hc
    exact Nat.isDigit_of_mem_toDigits (by decide) (by decide) hc
  rw [toNat, ofNat, foldl_ofChar hdigits, Nat.ofDigitChars_toDigits (by decide) (by decide)]

theorem foldl_digits (s : Text) (init : Nat) :
    s.foldl (fun n d => 10 * n + d.hexValue) init = init * 10 ^ s.length + toNat s := by
  induction s generalizing init with
  | nil => simp [toNat]
  | cons d s ih =>
    rw [toNat, List.foldl_cons, List.foldl_cons, ih, ih (10 * 0 + d.hexValue), List.length_cons]
    ring

/-- Digits before others count for so many places more. -/
theorem toNat_append (s t : Text) : toNat (s ++ t) = toNat s * 10 ^ t.length + toNat t := by
  rw [toNat, List.foldl_append, foldl_digits]
  rfl

/-- So many digits write a number below this power of ten. -/
theorem toNat_lt (h : digits.all CodePoint.isDigit = true) : toNat digits < 10 ^ digits.length := by
  induction digits with
  | nil => exact Nat.one_pos
  | cons d digits ih =>
    rw [List.all_cons, Bool.and_eq_true] at h
    have hd := CodePoint.hexValue_lt_of_isDigit h.1
    have hone : toNat [d] = d.hexValue := by simp [toNat]
    calc toNat ([d] ++ digits) = d.hexValue * 10 ^ digits.length + toNat digits := by rw [toNat_append, hone]
      _ < d.hexValue * 10 ^ digits.length + 10 ^ digits.length := Nat.add_lt_add_left (ih h.2) _
      _ = (d.hexValue + 1) * 10 ^ digits.length := (Nat.succ_mul _ _).symm
      _ ≤ 10 * 10 ^ digits.length := Nat.mul_le_mul_right _ hd
      _ = 10 ^ (d :: digits).length := Nat.pow_succ'.symm

/-- No run of digits that writes a number is shorter than its own. -/
theorem length_ofNat_toNat_le (hne : digits ≠ []) (h : digits.all CodePoint.isDigit = true) :
    (ofNat (toNat digits)).length ≤ digits.length := by
  rw [ofNat, List.length_map]
  exact (Nat.length_toDigits_le_iff (by decide) (List.length_pos_iff.mpr hne)).mpr (toNat_lt h)

theorem toNat_zeros (n : Nat) : toNat (List.replicate n (CodePoint.ofChar '0')) = 0 := by
  induction n with
  | zero => rfl
  | succ n ih =>
    rw [List.replicate_succ', toNat_append, ih]
    rfl

/-- Digits that do not begin with a zero. -/
structure Leading (s : Text) : Prop where
  all : s.all CodePoint.isDigit = true
  first : ∃ d rest, s = d :: rest ∧ d ≠ CodePoint.ofChar '0'

theorem leading_ofNat {n : Nat} (h : 0 < n) : Leading (ofNat n) :=
  ⟨all_isDigit_ofNat n, exists_ofNat_eq_cons h⟩

theorem Leading.append (h : Leading s) {t : Text} (ht : t.all CodePoint.isDigit = true) : Leading (s ++ t) := by
  obtain ⟨hall, d, rest, rfl, hd⟩ := h
  refine ⟨?_, d, rest ++ t, rfl, hd⟩
  rw [List.all_append, hall, ht]
  rfl

theorem all_isDigit_zeros (n : Nat) : (List.replicate n (CodePoint.ofChar '0')).all CodePoint.isDigit = true := by
  apply List.all_eq_true.mpr
  intro c hc
  rw [List.eq_of_mem_replicate hc]
  rfl

theorem toNat_zero_append (s : Text) : toNat (txt "0" ++ s) = toNat s := by
  have hzero : toNat (txt "0") = 0 := rfl
  rw [toNat_append, hzero, Nat.zero_mul, Nat.zero_add]

/-- Zeros at the end are dropped. -/
theorem exists_zeros (h : Leading digits) :
    ∃ s n, (digits.reverse.dropWhile (· == CodePoint.ofChar '0')).reverse = s ∧
      digits = s ++ List.replicate n (CodePoint.ofChar '0') ∧ Leading s := by
  have hzeros : digits.rtakeWhile (· == CodePoint.ofChar '0') =
      List.replicate (digits.rtakeWhile (· == CodePoint.ofChar '0')).length (CodePoint.ofChar '0') := by
    apply List.eq_replicate_iff.mpr
    refine ⟨rfl, ?_⟩
    intro c hc
    have hzero := List.mem_rtakeWhile_imp hc
    exact eq_of_beq hzero
  have hsplit : digits = digits.rdropWhile (· == CodePoint.ofChar '0') ++ _ :=
    (List.rdropWhile_append_rtakeWhile.trans rfl).symm
  rw [hzeros] at hsplit
  refine ⟨_, _, rfl, hsplit, ?_⟩
  change Leading (digits.rdropWhile (· == CodePoint.ofChar '0'))
  generalize digits.rdropWhile (· == CodePoint.ofChar '0') = s at *
  obtain ⟨hall, d, rest, hfirst, hd⟩ := h
  rw [hsplit] at hall hfirst
  rw [List.all_append, Bool.and_eq_true] at hall
  refine ⟨hall.1, ?_⟩
  cases s with
  | nil =>
    have hmem : d ∈ List.replicate (digits.rtakeWhile (· == CodePoint.ofChar '0')).length (CodePoint.ofChar '0') := by
      rw [← List.nil_append (List.replicate _ _), hfirst]
      exact List.mem_cons_self
    exact absurd (List.eq_of_mem_replicate hmem) hd
  | cons c s =>
    cases hfirst
    exact ⟨_, s, rfl, hd⟩

theorem digitCount_of_all (h : digits.all CodePoint.isDigit = true) : digitCount digits = digits.length :=
  List.countP_eq_length.mpr (List.all_eq_true.mp h)

/-! ## Integers -/

theorem toInt_of_all (h : digits.all CodePoint.isDigit = true) : toInt digits = toNat digits := by
  cases digits with
  | nil => rfl
  | cons c digits =>
    rw [List.all_cons, Bool.and_eq_true] at h
    rw [toInt, if_neg (CodePoint.ne_minus_of_isDigit h.1)]

/-- An integer is written as its digits, after a minus sign where it is negative. -/
theorem ofInt_cases (m : Int) :
    (m < 0 ∧ ofInt m = CodePoint.ofChar '-' :: ofNat m.natAbs) ∨ (0 ≤ m ∧ ofInt m = ofNat m.natAbs) := by
  unfold ofInt
  split
  · exact .inl ⟨‹_›, rfl⟩
  · exact .inr ⟨by omega, rfl⟩

theorem digitCount_ofInt (m : Int) : digitCount (ofInt m) = (ofNat m.natAbs).length := by
  have hdigits := digitCount_of_all (all_isDigit_ofNat m.natAbs)
  rcases ofInt_cases m with ⟨-, h⟩ | ⟨-, h⟩
  · rw [h, digitCount, List.countP_cons_of_neg (by decide)]
    exact hdigits
  · rw [h, hdigits]

theorem readInt_ofNat (h : (ofNat n).length ≤ digitLimit) : readInt (ofNat n) = .ok n := by
  have hall := all_isDigit_ofNat n
  rw [readInt, digitCount_of_all hall, if_pos h, toInt_of_all hall, toNat_ofNat]

/-- A notation of an integer: digits, with zeros before them or not, and a minus sign before these or none. -/
inductive Writes : Text → Int → Prop
  | plain {digits : Text} : digits ≠ [] → digits.all CodePoint.isDigit = true → Writes digits (toNat digits)
  | minus {digits : Text} : digits ≠ [] → digits.all CodePoint.isDigit = true →
      Writes (CodePoint.ofChar '-' :: digits) (-(toNat digits : Int))

theorem writes_ofInt (m : Int) : Writes (ofInt m) m := by
  have hne := ofNat_ne_nil m.natAbs
  have hall := all_isDigit_ofNat m.natAbs
  rcases ofInt_cases m with ⟨hsign, hm⟩ | ⟨hsign, hm⟩
  · have hminus := Writes.minus hne hall
    rwa [toNat_ofNat, ← hm, show -(m.natAbs : Int) = m by omega] at hminus
  · have hplain := Writes.plain hne hall
    rwa [toNat_ofNat, ← hm, show (m.natAbs : Int) = m by omega] at hplain

theorem Writes.toInt_eq {m : Int} (h : Writes s m) : toInt s = m := by
  cases h with
  | plain _ hall => exact toInt_of_all hall
  | minus => rfl

theorem natAbs_toInt (h : digits.all CodePoint.isDigit = true) : (toInt digits).natAbs = toNat digits := by
  rw [toInt_of_all h]
  rfl

theorem natAbs_toInt_minus (digits : Text) : (toInt (CodePoint.ofChar '-' :: digits)).natAbs = toNat digits := by
  change (-(toNat digits : Int)).natAbs = toNat digits
  omega

/-- No notation of an integer has fewer digits than its own. -/
theorem digitCount_ofInt_le {m : Int} (hne : digits ≠ []) (h : digits.all CodePoint.isDigit = true)
    (hm : m.natAbs = toNat digits) : digitCount (ofInt m) ≤ digits.length := by
  rw [digitCount_ofInt, hm]
  exact length_ofNat_toNat_le hne h

end Decimal

end Mixfix
