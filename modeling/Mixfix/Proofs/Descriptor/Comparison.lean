import Mathlib.Order.Compare
import Mixfix.Proofs.Descriptor.Complete
import Mixfix.Proofs.Descriptor.Token

/-!
# Types that are compared with integers

A type is compared with an integer on its right (`Comparison.text`), or it stands between two (`rangeText`). Whatever
notation the integers have, and whichever of the comparisons it is, the tokens are those of a type with bounds. So
such a text is read to what the type describes with these bounds, and to nothing else (**`read_text`**,
**`read_rangeText`**).

`Within` says which integers are within bounds, in an order of the integers. For the bounds of a comparison it is the
comparison itself.
-/

set_option autoImplicit false

namespace Mixfix

/-! ## Comparisons -/

namespace Comparison

open Descriptor (Bound Symbol)

/-- The symbol of a comparison. -/
def symbol : Comparison → Symbol
  | .lt => .less
  | .le => .lessEqual
  | .gt => .greater
  | .ge => .greaterEqual

/-- The comparison of something with what is over it. -/
def below (strict : Bool) : Comparison :=
  if strict then .lt else .le

/-- The bound from below that a comparison has on its right. -/
def lower (comparison : Comparison) (digits : Text) : Option Bound :=
  match comparison with
  | .gt => some ⟨digits, true⟩
  | .ge => some ⟨digits, false⟩
  | .lt | .le => none

/-- The bound from above that a comparison has on its right. -/
def upper (comparison : Comparison) (digits : Text) : Option Bound :=
  match comparison with
  | .lt => some ⟨digits, true⟩
  | .le => some ⟨digits, false⟩
  | .gt | .ge => none

/-- A type that is compared with a number. -/
def text (comparison : Comparison) (type digits : Text) : Text :=
  type ++ (txt " " ++ (comparison.symbol.text ++ (txt " " ++ digits)))

variable {m n : Int}

@[simp] theorem lt_holds : lt.holds (compare m n) = true ↔ m < n := by
  rw [← compare_lt_iff_lt, holds, beq_iff_eq]

@[simp] theorem le_holds : le.holds (compare m n) = true ↔ m ≤ n := by
  rw [← compare_le_iff_le, holds, bne_iff_ne]

end Comparison

namespace Descriptor

/-- A type between two numbers. -/
def rangeText (low : Bound) (type : Text) (high : Bound) : Text :=
  low.digits ++ (txt " " ++ (low.less.text ++ (txt " " ++ (Comparison.below high.strict).text type high.digits)))

variable {comparison : Comparison} {type digits : Text} {lower upper : Option Bound} {low high : Bound}
  {shape shape' : Shape} {m n : Int}

/-! ## Bounds -/

/-- An integer is within bounds, by an order. -/
def Within (order : Int → Int → Ordering) (lower upper : Option Bound) (m : Int) : Prop :=
  (∀ bound ∈ lower, (Comparison.below bound.strict).holds (order (Decimal.toInt bound.digits) m) = true) ∧
    ∀ bound ∈ upper, (Comparison.below bound.strict).holds (order m (Decimal.toInt bound.digits)) = true

/-- Orders that agree about the bounds have the same integers within them. -/
theorem within_congr {order order' : Int → Int → Ordering} (hswap : ∀ m n, order m n = (order n m).swap)
    (hswap' : ∀ m n, order' m n = (order' n m).swap)
    (h : ∀ bound ∈ lower.toList ++ upper.toList,
      order m (Decimal.toInt bound.digits) = order' m (Decimal.toInt bound.digits)) :
    Within order lower upper m ↔ Within order' lower upper m := by
  simp only [List.forall_mem_append, Option.mem_toList] at h
  obtain ⟨hlower, hupper⟩ := h
  refine and_congr (forall₂_congr fun bound hbound => ?_) (forall₂_congr fun bound hbound => ?_)
  · rw [hswap, hlower bound hbound, ← hswap']
  · rw [hupper bound hbound]

/-- To be within the bounds of a comparison is to compare, where the order is one from either side. -/
theorem within_comparison {order : Int → Int → Ordering} (hswap : order n m = (order m n).swap)
    (h : Decimal.Writes digits n) :
    Within order (comparison.lower digits) (comparison.upper digits) m ↔ comparison.holds (order m n) = true := by
  have hn := h.toInt_eq
  cases comparison <;> simp [Within, Comparison.lower, Comparison.upper, Comparison.below, hn, hswap] <;>
    cases order m n <;> decide

/-- To be within a range is to compare on both sides. -/
theorem within_range {order : Int → Int → Ordering} {a b : Int} (hlow : Decimal.Writes low.digits a)
    (hhigh : Decimal.Writes high.digits b) :
    Within order (some low) (some high) m ↔
      (Comparison.below low.strict).holds (order a m) = true ∧
        (Comparison.below high.strict).holds (order m b) = true := by
  simp [Within, hlow.toInt_eq, hhigh.toInt_eq]

/-- The notation of an integer has no point. -/
theorem hasPoint_of_writes (h : Decimal.Writes digits n) : hasPoint digits = false := by
  have hnone : ∀ {s : Text}, s.all CodePoint.isDigit = true → CodePoint.ofChar '.' ∉ s := by
    intro s hall hmem
    cases List.all_eq_true.mp hall _ hmem
  unfold hasPoint
  cases h with
  | plain _ hall => simp [hnone hall]
  | minus _ hall => simp [hnone hall, show CodePoint.ofChar '.' ≠ CodePoint.ofChar '-' by decide]

theorem hasPoint_of_comparison (h : Decimal.Writes digits n) :
    ∀ bound ∈ (comparison.lower digits).toList ++ (comparison.upper digits).toList, hasPoint bound.digits = false := by
  have hpoint := hasPoint_of_writes h
  cases comparison <;> simp [Comparison.lower, Comparison.upper, hpoint]

theorem hasPoint_of_range {a b : Int} (hlow : Decimal.Writes low.digits a) (hhigh : Decimal.Writes high.digits b) :
    ∀ bound ∈ (some low).toList ++ (some high).toList, hasPoint bound.digits = false := by
  simp [hasPoint_of_writes hlow, hasPoint_of_writes hhigh]

/-! ## Tokens -/

theorem symbol_below (bound : Bound) : (Comparison.below bound.strict).symbol = bound.less := by
  unfold Comparison.below Bound.less
  split <;> rfl

theorem tokensOf_comparison (comparison : Comparison) :
    tokensOf comparison.symbol.text = .ok [.symbol comparison.symbol] := by
  cases comparison <;> exact eq_ok_of_toOption (by decide +kernel)

/-- The name of the strings of a class is one token. -/
theorem tokensOf_typeName (kind : TextClass) : tokensOf kind.typeName = .ok [.name kind.typeName] := by
  cases kind <;> exact eq_ok_of_toOption (by decide +kernel)

theorem tokensOf_text (htype : tokensOf type = .ok [.name type]) (hn : Decimal.Writes digits n) :
    tokensOf (comparison.text type digits) = .ok [.name type, .symbol comparison.symbol, .number digits] :=
  tokensOf_space htype (tokensOf_space (tokensOf_comparison comparison) (tokensOf_of_writes hn))

theorem tokensOf_rangeText (htype : tokensOf type = .ok [.name type]) {a b : Int}
    (hlow : Decimal.Writes low.digits a) (hhigh : Decimal.Writes high.digits b) :
    tokensOf (rangeText low type high) =
      .ok [low.token, .symbol low.less, .name type, .symbol high.less, high.token] := by
  have hless : tokensOf low.less.text = .ok [.symbol low.less] := symbol_below low ▸ tokensOf_comparison _
  have htext : tokensOf ((Comparison.below high.strict).text type high.digits) =
      .ok [.name type, .symbol high.less, .number high.digits] := symbol_below high ▸ tokensOf_text htype hhigh
  exact tokensOf_space (tokensOf_of_writes hlow) (tokensOf_space hless htext)

/-- A comparison bounds a type. -/
theorem bounded_comparison (comparison : Comparison) (name digits : Text) :
    Bounded name (comparison.lower digits) (comparison.upper digits)
      [.name name, .symbol comparison.symbol, .number digits] := by
  cases comparison with
  | lt => exact .upper ⟨digits, true⟩
  | le => exact .upper ⟨digits, false⟩
  | gt => exact .lower ⟨digits, true⟩
  | ge => exact .lower ⟨digits, false⟩

/-! ## Reading -/

/-- A type with bounds is read where its numbers are converted, and to nothing but what it describes. -/
theorem read_eq_ok_of_bounded {descriptor : Text} {tokens : List Token} (htokens : tokensOf descriptor = .ok tokens)
    (hbounded : Bounded type lower upper tokens) (hdescribes : Describes lower upper type shape) :
    read descriptor = .ok shape' ↔ Convertible tokens ∧ shape' = shape := by
  have hread : Convertible tokens → read descriptor = .ok shape := fun hconvertible =>
    read_eq_ok_iff.mpr ⟨tokens, htokens, hconvertible, .alternative (.primary (.bounded hbounded hdescribes))⟩
  constructor
  · intro h
    obtain ⟨tokens', htokens', hconvertible, -⟩ := read_eq_ok_iff.mp h
    cases htokens.symm.trans htokens'
    exact ⟨hconvertible, Except.ok.inj (h.symm.trans (hread hconvertible))⟩
  · rintro ⟨hconvertible, rfl⟩
    exact hread hconvertible

/-- **How a type that is compared with an integer is read.** -/
theorem read_text (htype : tokensOf type = .ok [.name type]) (hn : Decimal.Writes digits n)
    (hdescribes : Describes (comparison.lower digits) (comparison.upper digits) type shape) :
    read (comparison.text type digits) = .ok shape' ↔ Converts digits ∧ shape' = shape := by
  rw [read_eq_ok_of_bounded (tokensOf_text htype hn) (bounded_comparison comparison type digits) hdescribes]
  simp

/-- **How a type between two integers is read.** -/
theorem read_rangeText (htype : tokensOf type = .ok [.name type]) {a b : Int} (hlow : Decimal.Writes low.digits a)
    (hhigh : Decimal.Writes high.digits b) (hdescribes : Describes (some low) (some high) type shape) :
    read (rangeText low type high) = .ok shape' ↔ (Converts low.digits ∧ Converts high.digits) ∧ shape' = shape := by
  rw [read_eq_ok_of_bounded (tokensOf_rangeText htype hlow hhigh) (.between low high) hdescribes]
  simp [Bound.token]

end Descriptor

end Mixfix
