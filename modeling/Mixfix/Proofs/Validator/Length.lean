import Mixfix.Host.Checker
import Mixfix.Proofs.Descriptor.Comparison
import Mixfix.Proofs.Validator.Verdict

/-!
# Bounds on the length of strings

The bounds of a string limit its number of code points: a strict one is moved by one to the least or the greatest
length that it allows. What checks values is assumed to check the length and the class of a text on their own
(`Checker.MeasuresTexts`). So a string without surrogates passes exactly if its length compares as the descriptor
says, and if it is of its class (**`Faithful.length_bounds`**).
-/

set_option autoImplicit false

namespace Mixfix

open Descriptor (Bound Within)

variable {lower upper : Option Bound} {kind : TextClass} {s : Text}

/-! ## Lengths -/

/-- A lower bound allows the lengths from its least one. -/
theorem Descriptor.Bound.leastLength_le {bound : Bound} {m : Int} :
    bound.leastLength ≤ m ↔ (Comparison.below bound.strict).holds (compare (Decimal.toInt bound.digits) m) = true := by
  unfold leastLength Comparison.below
  cases bound.strict with
  | true => exact Int.add_one_le_iff.trans (by simp)
  | false => simp

/-- An upper bound allows the lengths up to its greatest one. -/
theorem Descriptor.Bound.le_greatestLength {bound : Bound} {m : Int} :
    m ≤ bound.greatestLength ↔
      (Comparison.below bound.strict).holds (compare m (Decimal.toInt bound.digits)) = true := by
  unfold greatestLength Comparison.below
  cases bound.strict with
  | true => exact Int.le_sub_one_iff.trans (by simp)
  | false => simp

/-- A text is checked for its length and for its class, each on its own. -/
structure Checker.MeasuresTexts [Checker] : Prop where
  /-- Limits of a length and a class of texts are refused each on their own. -/
  checkable_text {kind : TextClass} {least most : Option Int} : checkable (.text kind least most) = true ↔
    checkable (.text kind none none) = true ∧ checkable (.text .any least most) = true
  /-- A text is accepted if its number of code points is within the limits and it is of the class. -/
  accepts_text {kind : TextClass} {least most : Option Int} (h : checkable (.text kind least most) = true)
    {s : Text} (hs : s.any CodePoint.isSurrogate = false) : accepts (.text kind least most) (.str s) = true ↔
      ((∀ n ∈ least, n ≤ s.length) ∧ ∀ n ∈ most, (s.length : Int) ≤ n) ∧ accepts (.text kind none none) (.str s) = true
  /-- Every text is a text. -/
  accepts_any {s : Text} (hs : s.any CodePoint.isSurrogate = false) : accepts (.text .any none none) (.str s) = true

section

variable [Checker]

/-- The bounds of a string are bounds on its length. -/
theorem Checker.MeasuresTexts.accepts_bounded (htexts : Checker.MeasuresTexts)
    (h : checkable (.text kind (lower.map Bound.leastLength) (upper.map Bound.greatestLength)) = true)
    (hs : s.any CodePoint.isSurrogate = false) :
    accepts (.text kind (lower.map Bound.leastLength) (upper.map Bound.greatestLength)) (.str s) = true ↔
      Within compare lower upper s.length ∧ accepts (.text kind none none) (.str s) = true := by
  simp [htexts.accepts_text h hs, Within, Bound.leastLength_le, Bound.le_greatestLength]

/-- The strings of a class whose length compares with a number. -/
def Comparison.strings (comparison : Comparison) (kind : TextClass) (digits : Text) : Shape :=
  .text kind ((comparison.lower digits).map Bound.leastLength) ((comparison.upper digits).map Bound.greatestLength)

/-! ## Verdicts -/

namespace ShapeCache.Faithful

variable {cache : ShapeCache} {comparison : Comparison} {digits : Text} {n : Int}

theorem compiles_text (h : cache.Faithful) (kind : TextClass) (hn : Decimal.Writes digits n) :
    cache.Compiles (comparison.text kind.typeName digits) ↔
      Descriptor.Converts digits ∧ Checker.checkable (comparison.strings kind digits) = true := by
  have hread : ∀ shape, Descriptor.read (comparison.text kind.typeName digits) = .ok shape ↔
      Descriptor.Converts digits ∧ shape = comparison.strings kind digits := fun shape =>
    Descriptor.read_text (Descriptor.tokensOf_typeName kind) hn (.string kind (Descriptor.hasPoint_of_comparison hn))
  simp [h.compiles_iff, hread, and_assoc]

omit [Checker] in
theorem read_typeName (kind : TextClass) : Descriptor.read kind.typeName = .ok (.text kind none none) :=
  Descriptor.read_eq_ok_iff.mpr ⟨_, Descriptor.tokensOf_typeName kind, by simp,
    .alternative (.primary (.unbounded (.string kind nofun)))⟩

variable (htexts : Checker.MeasuresTexts) (hs : s.any CodePoint.isSurrogate = false)
include htexts hs

/-- A string passes if its length compares and it is of its class. -/
theorem decides_text (h : cache.Faithful) (kind : TextClass) (hn : Decimal.Writes digits n)
    (hcompiles : cache.Compiles (comparison.text kind.typeName digits)) :
    cache.Decides (.str s) (comparison.text kind.typeName digits)
      (comparison.holds (compare (s.length : Int) n) = true ∧
        Checker.accepts (.text kind none none) (.str s) = true) := by
  obtain ⟨hconverts, hcheckable⟩ := (h.compiles_text kind hn).mp hcompiles
  have hread : Descriptor.read (comparison.text kind.typeName digits) = .ok (comparison.strings kind digits) :=
    (Descriptor.read_text (Descriptor.tokensOf_typeName kind) hn
      (.string kind (Descriptor.hasPoint_of_comparison hn))).mpr ⟨hconverts, rfl⟩
  have hdecides := h.decides (v := .str s) hread hcheckable nofun
  rwa [Comparison.strings, htexts.accepts_bounded hcheckable hs,
    Descriptor.within_comparison Std.OrientedCmp.eq_swap hn] at hdecides

/-- A string passes a range if its length is in it. -/
theorem decides_range (h : cache.Faithful) {low high : Bound} {a b : Int}
    (hlow : Decimal.Writes low.digits a) (hhigh : Decimal.Writes high.digits b)
    (hcompiles : cache.Compiles (Descriptor.rangeText low (txt "string") high)) :
    cache.Decides (.str s) (Descriptor.rangeText low (txt "string") high)
      ((Comparison.below low.strict).holds (compare a s.length) = true ∧
        (Comparison.below high.strict).holds (compare (s.length : Int) b) = true) := by
  obtain ⟨shape, hread, hcheckable⟩ := h.compiles_iff.mp hcompiles
  obtain ⟨-, rfl⟩ := (Descriptor.read_rangeText (Descriptor.tokensOf_typeName .any) hlow hhigh
    (.string .any (Descriptor.hasPoint_of_range hlow hhigh))).mp hread
  have hdecides := h.decides (v := .str s) hread hcheckable nofun
  rwa [htexts.accepts_bounded hcheckable hs, Descriptor.within_range hlow hhigh,
    and_iff_left (htexts.accepts_any hs)] at hdecides

/-- **Bounds on a string are bounds on its length**, in number and range, and on a class of strings they come on top
of the class. -/
theorem length_bounds (h : cache.Faithful) :
    (∀ (comparison : Comparison) (digits : Text) (n : Int), Decimal.Writes digits n →
      cache.Compiles (comparison.text (txt "string") digits) →
      cache.Decides (.str s) (comparison.text (txt "string") digits)
        (comparison.holds (compare (s.length : Int) n) = true)) ∧
    (∀ (low high : Bound) (a b : Int), Decimal.Writes low.digits a → Decimal.Writes high.digits b →
      cache.Compiles (Descriptor.rangeText low (txt "string") high) →
      cache.Decides (.str s) (Descriptor.rangeText low (txt "string") high)
        ((Comparison.below low.strict).holds (compare a s.length) = true ∧
          (Comparison.below high.strict).holds (compare (s.length : Int) b) = true)) ∧
    ∀ (kind : TextClass) (comparison : Comparison) (digits : Text) (n : Int), Decimal.Writes digits n →
      cache.Compiles (comparison.text kind.typeName digits) →
      cache.Decides (.str s) (comparison.text kind.typeName digits)
        (cache.Passes (.str s) kind.typeName ∧ cache.Passes (.str s) (comparison.text (txt "string") digits)) := by
  have hany : ∀ {comparison : Comparison} {digits : Text} {n : Int}, Decimal.Writes digits n →
      cache.Compiles (comparison.text (txt "string") digits) →
      cache.Decides (.str s) (comparison.text (txt "string") digits)
        (comparison.holds (compare (s.length : Int) n) = true) := by
    intro comparison digits n hn hcompiles
    have hdecides := h.decides_text htexts hs .any hn hcompiles
    rwa [and_iff_left (htexts.accepts_any hs)] at hdecides
  refine ⟨fun comparison digits n => hany, fun low high a b => h.decides_range htexts hs, ?_⟩
  intro kind comparison digits n hn hcompiles
  obtain ⟨hconverts, hcheckable⟩ := (h.compiles_text kind hn).mp hcompiles
  obtain ⟨hkind, hlength⟩ := htexts.checkable_text.mp hcheckable
  have hstring := (h.compiles_text .any hn).mpr ⟨hconverts, hlength⟩
  rw [h.passes_iff (read_typeName kind) hkind nofun, (hany hn hstring).passes_iff, and_comm]
  exact h.decides_text htexts hs kind hn hcompiles

end ShapeCache.Faithful

end

/-! ## The checker of the program -/

namespace Shape

/-- A text without surrogates is accepted if its length is within the limits and it is of the class. -/
theorem accepts_text {least most : Option Int} (hs : s.any CodePoint.isSurrogate = false) :
    accepts (.text kind least most) (.str s) = true ↔
      ((∀ n ∈ least, n ≤ s.length) ∧ ∀ n ∈ most, (s.length : Int) ≤ n) ∧ kind.holds s = true := by
  have hleast : (least.filter fun n => (s.length : Int) < n) = none ↔ ∀ n ∈ least, n ≤ s.length := by
    cases least <;> simp
  have hmost : (most.filter fun n => n < (s.length : Int)) = none ↔ ∀ n ∈ most, (s.length : Int) ≤ n := by
    cases most <;> simp
  rw [← hleast, ← hmost]
  unfold accepts textComplaint?
  simp only [hs, Bool.and_false, Bool.false_eq_true, if_false]
  cases least.filter fun n => (s.length : Int) < n with
  | some n => simp
  | none =>
    cases most.filter fun n => n < (s.length : Int) with
    | some n => simp
    | none => simp

/-- The checker of the program checks lengths and classes on their own. -/
theorem measuresTexts : Checker.MeasuresTexts where
  checkable_text := by simp [Checker.checkable, checkable]
  accepts_text {kind least most} _ {s} hs := by
    change accepts (.text kind least most) (.str s) = true ↔ _ ∧ accepts (.text kind none none) (.str s) = true
    rw [accepts_text hs, accepts_text hs]
    simp
  accepts_any hs := (accepts_text hs).mpr ⟨⟨nofun, nofun⟩, rfl⟩

end Shape

namespace ShapeCache.Faithful

/-- Three letters are not more than three, but more than two and up to three, and three of lower case. -/
theorem length_bounds_letters :
    ¬Passes [] (.str (txt "abc")) (Comparison.gt.text (txt "string") (txt "03")) ∧
      Passes [] (.str (txt "abc")) (Descriptor.rangeText ⟨txt "2", true⟩ (txt "string") ⟨txt "03", false⟩) ∧
      Passes [] (.str (txt "abc")) (Comparison.ge.text (txt "string.lower") (txt "03")) := by
  obtain ⟨hbound, hrange, hclass⟩ := faithful_nil.length_bounds Shape.measuresTexts (s := txt "abc") (by decide)
  have htwo : Decimal.Writes (txt "2") 2 := Decimal.writes_ofInt 2
  have hthree : Decimal.Writes (txt "03") 3 := .plain (by decide) (by decide)
  have hconverts : ∀ digits ∈ [txt "2", txt "03"], Descriptor.Converts digits := by
    simp only [Descriptor.Converts]
    decide +kernel
  refine ⟨?_, ?_, ?_⟩
  · have hcompiles : Compiles [] (Comparison.gt.text (txt "string") (txt "03")) :=
      (faithful_nil.compiles_text .any hthree).mpr ⟨hconverts _ (by simp), by decide +kernel⟩
    rw [(hbound _ _ _ hthree hcompiles).passes_iff]
    decide
  · have hread : Descriptor.read (Descriptor.rangeText ⟨txt "2", true⟩ (txt "string") ⟨txt "03", false⟩) =
        .ok (.text .any (some 3) (some 3)) := rfl
    have hcompiles := faithful_nil.compiles_iff.mpr ⟨_, hread, by decide +kernel⟩
    rw [(hrange _ _ _ _ htwo hthree hcompiles).passes_iff]
    decide
  · have hcompiles : Compiles [] (Comparison.ge.text TextClass.lower.typeName (txt "03")) :=
      (faithful_nil.compiles_text .lower hthree).mpr ⟨hconverts _ (by simp), by decide +kernel⟩
    have hstring : Compiles [] (Comparison.ge.text (txt "string") (txt "03")) :=
      (faithful_nil.compiles_text .any hthree).mpr ⟨hconverts _ (by simp), by decide +kernel⟩
    have hlower : Passes [] (.str (txt "abc")) TextClass.lower.typeName :=
      (faithful_nil.passes_iff (read_typeName .lower) rfl nofun).mpr (by decide)
    have hleast := (hbound _ _ _ hthree hstring).passes_iff.mpr (by decide)
    exact (hclass .lower _ _ _ hthree hcompiles).passes_iff.mpr ⟨hlower, hleast⟩

end ShapeCache.Faithful

end Mixfix
