import Mixfix.Proofs.Validator.Length

/-!
# How compiling fails

A descriptor fails to compile in three ways. Its problem is told, or a number that is too long is met in it, or it is
of the grammar and no checker is made of its shape. Only the first failure has a wording
(**`Faithful.compile_breaks_iff`**). Which shapes are refused is the matter of what checks values, except that a
length below zero is (`Checker.RefusesNegative`): so a comparison that no length passes breaks compiling
(`Faithful.compile_eq_uncheckable`).
-/

set_option autoImplicit false

namespace Mixfix

open Descriptor (Bound)

/-- A bound on a length that is below zero is refused. -/
def Checker.RefusesNegative [Checker] : Prop :=
  ∀ (kind : TextClass) (least most : Option Int), (∃ n ∈ least.toList ++ most.toList, n < 0) →
    checkable (.text kind least most) = false

section

variable [Checker] {descriptor : Text}

/-- **How a descriptor fails to compile.** Its problem is told, or a number in it is too long, or no checker is made of
its shape. -/
theorem compileDescriptor_eq_error {e : CompileError} :
    compileDescriptor descriptor = .error e ↔
      (∃ problem, Descriptor.read descriptor = .error (.malformed problem) ∧ e = .malformed descriptor problem) ∨
        Descriptor.read descriptor = .error .tooManyDigits ∧ e = .tooManyDigits ∨
          ∃ shape, Descriptor.read descriptor = .ok shape ∧ Checker.checkable shape = false ∧ e = .uncheckable := by
  unfold compileDescriptor
  cases Descriptor.read descriptor with
  | error problem =>
    cases problem with
    | malformed problem => simp [@eq_comm CompileError _ e]
    | tooManyDigits => simp [@eq_comm CompileError _ e]
  | ok shape => cases hcheckable : Checker.checkable shape <;> simp [hcheckable, @eq_comm CompileError _ e]

namespace ShapeCache.Faithful

variable {cache : ShapeCache}

theorem compile_eq_error_iff (h : cache.Faithful) {e : CompileError} :
    cache.compile descriptor = .error e ↔ compileDescriptor descriptor = .error e := by
  rw [← map_eq_error (f := Prod.fst), h.compile_fst]

/-- **When compiling fails without a wording**: where a number that is too long is met, or no checker is made of the
shape that a descriptor of the grammar describes. -/
theorem compile_breaks_iff (h : cache.Faithful) (descriptor : Text) (e : CompileError) :
    cache.compile descriptor = .error e ∧ e.message? = none ↔
      e = .tooManyDigits ∧ Descriptor.MeetsLongNumber descriptor ∨
        e = .uncheckable ∧ ∃ tokens shape, Descriptor.tokenize descriptor.length descriptor = .ok tokens ∧
          Descriptor.Convertible tokens ∧ Descriptor.IsDescriptor tokens shape ∧ Checker.checkable shape = false := by
  rw [h.compile_eq_error_iff, compileDescriptor_eq_error]
  constructor
  · rintro ⟨⟨problem, -, rfl⟩ | ⟨hlong, rfl⟩ | ⟨shape, hread, hrefused, rfl⟩, hmessage⟩
    · cases hmessage
    · exact .inl ⟨rfl, Descriptor.read_eq_tooManyDigits_iff.mp hlong⟩
    · obtain ⟨tokens, htokens, hconvertible, hdescriptor⟩ := Descriptor.read_eq_ok_iff.mp hread
      exact .inr ⟨rfl, tokens, shape, htokens, hconvertible, hdescriptor, hrefused⟩
  · rintro (⟨rfl, hmeets⟩ | ⟨rfl, tokens, shape, htokens, hconvertible, hdescriptor, hrefused⟩)
    · exact ⟨.inr (.inl ⟨Descriptor.read_eq_tooManyDigits_iff.mpr hmeets, rfl⟩), rfl⟩
    · have hread := Descriptor.read_eq_ok_iff.mpr ⟨tokens, htokens, hconvertible, hdescriptor⟩
      exact ⟨.inr (.inr ⟨shape, hread, hrefused, rfl⟩), rfl⟩

/-- A comparison that asks for a length below zero breaks compiling. -/
theorem compile_eq_uncheckable (h : cache.Faithful) (hnegative : Checker.RefusesNegative) (kind : TextClass)
    {comparison : Comparison} {digits : Text} {n : Int} (hn : Decimal.Writes digits n)
    (hconverts : Descriptor.Converts digits)
    (hlength : ∃ m ∈ ((comparison.lower digits).map Bound.leastLength).toList ++
      ((comparison.upper digits).map Bound.greatestLength).toList, m < 0) :
    cache.compile (comparison.text kind.typeName digits) = .error .uncheckable := by
  have hread : Descriptor.read (comparison.text kind.typeName digits) = .ok (comparison.strings kind digits) :=
    (Descriptor.read_text (Descriptor.tokensOf_typeName kind) hn
      (.string kind (Descriptor.hasPoint_of_comparison hn))).mpr ⟨hconverts, rfl⟩
  rw [h.compile_eq_error_iff, compileDescriptor_eq_error]
  exact .inr (.inr ⟨_, hread, hnegative _ _ _ hlength, rfl⟩)

end ShapeCache.Faithful

/-- Texts of less than no characters are not checked. -/
theorem compileDescriptor_below_zero (hnegative : Checker.RefusesNegative) :
    compileDescriptor (txt "string < 0") = .error .uncheckable := by
  have hconverts : Descriptor.Converts (txt "0") := by
    simp only [Descriptor.Converts]
    decide +kernel
  have hfails : ShapeCache.compile [] (Comparison.lt.text (txt "string") (txt "0")) = .error .uncheckable :=
    ShapeCache.faithful_nil.compile_eq_uncheckable hnegative .any (Decimal.writes_ofInt 0) hconverts
      ⟨-1, by decide, by decide⟩
  exact ShapeCache.faithful_nil.compile_eq_error_iff.mp hfails

end

/-! ## The checker of the program -/

/-- The checker of the program refuses lengths below zero. -/
theorem Shape.refusesNegative : Checker.RefusesNegative := by
  rintro kind least most ⟨n, hn, hneg⟩
  refine List.all_eq_false.mpr ⟨n, hn, ?_⟩
  simp [checkableLength, hneg]

namespace ShapeCache.Faithful

/-- Lists of texts of less than no characters break compiling. -/
theorem compile_breaks_iff_words :
    compile [] (txt "(string < 0)[]") = .error .uncheckable ∧
      ∃ tokens shape, Descriptor.tokenize 14 (txt "(string < 0)[]") = .ok tokens ∧
        Descriptor.Convertible tokens ∧ Descriptor.IsDescriptor tokens shape ∧ Checker.checkable shape = false := by
  have hcompile : compile [] (txt "(string < 0)[]") = .error .uncheckable := rfl
  have hbreaks := (faithful_nil.compile_breaks_iff _ _).mp ⟨hcompile, rfl⟩
  rcases hbreaks with ⟨h, -⟩ | ⟨-, huncheckable⟩
  · cases h
  · exact ⟨hcompile, huncheckable⟩

/-- So with nothing that checks values and refuses lengths below zero does compiling always fail with a wording, though
no number in the descriptor is too long. -/
theorem not_worded_of_negative :
    ¬∃ _ : Checker, Checker.RefusesNegative ∧
      ∀ (descriptor : Text) (e : CompileError), compile [] descriptor = .error e → e.message?.isSome = true := by
  rintro ⟨_, hnegative, hworded⟩
  have hfails := faithful_nil.compile_eq_error_iff.mpr (compileDescriptor_below_zero hnegative)
  exact absurd (hworded _ _ hfails) Bool.false_ne_true

end ShapeCache.Faithful

end Mixfix
