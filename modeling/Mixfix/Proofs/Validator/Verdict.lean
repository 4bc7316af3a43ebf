import Mixfix.Proofs.Descriptor.Complete
import Mixfix.Proofs.Descriptor.Token
import Mixfix.Proofs.Validator

/-!
# Verdicts on values

What a validator with a faithful cache answers, in terms of shapes. A descriptor compiles exactly if it is read to a
shape that a checker is made of (`Faithful.compiles_iff`), and then a verdict is reached on every value, which passes
exactly if the shape accepts it (**`Faithful.decides`**). Descriptors that say nothing are no exception: they are
never compiled, and if they were, their shape would be that of anything.
-/

set_option autoImplicit false

namespace Mixfix

variable {descriptor : Text} {shape : Shape}

/-- A shape is compiled of a descriptor if it is read and a checker is made of it. -/
theorem compileDescriptor_eq_ok [Checker] : compileDescriptor descriptor = .ok shape ↔
    Descriptor.read descriptor = .ok shape ∧ Checker.checkable shape = true := by
  unfold compileDescriptor
  cases Descriptor.read descriptor with
  | error e => cases e <;> simp
  | ok read =>
    dsimp only
    by_cases hcheckable : Checker.checkable read = true
    · rw [if_pos hcheckable]
      constructor
      · rintro ⟨⟩
        exact ⟨rfl, hcheckable⟩
      · rintro ⟨⟨⟩, -⟩
        rfl
    · rw [if_neg hcheckable]
      constructor
      · nofun
      · rintro ⟨⟨⟩, hshape⟩
        exact absurd hshape hcheckable

/-- A value passes exactly if the shape accepts it. -/
@[simp] theorem Shape.ok_verdict [Checker] (shape : Shape) (value : Value) :
    (shape.verdict value).ok = Checker.accepts shape value := by
  unfold Shape.verdict
  split
  · rename_i haccepts
    exact haccepts.symm
  · rename_i haccepts
    exact (Bool.eq_false_iff.mpr haccepts).symm

/-- A descriptor that accepts everything without being compiled would accept everything. -/
theorem eq_anything_of_alwaysPasses (halways : alwaysPasses (some descriptor) = true)
    (h : Descriptor.read descriptor = .ok shape) : shape = .anything := by
  rcases Bool.or_eq_true_iff.mp halways with hempty | hunknown
  · have htokens : Descriptor.tokensOf descriptor = .ok [] := by
      refine Descriptor.tokensOf_of_trim ?_
      rw [List.isEmpty_iff.mp hempty]
      rfl
    obtain ⟨tokens, hread, -, hdescriptor⟩ := Descriptor.read_eq_ok_iff.mp h
    cases htokens.symm.trans hread
    exact absurd rfl hdescriptor.ne_nil
  · have htokens : Descriptor.tokensOf descriptor = .ok [.name unknownSchema] := by
      refine Descriptor.tokensOf_of_trim ?_
      rw [beq_iff_eq.mp hunknown]
      exact eq_ok_of_toOption (by decide +kernel)
    have hread : Descriptor.read descriptor = .ok .anything :=
      Descriptor.read_eq_ok_iff.mpr ⟨_, htokens, by simp, .alternative (.primary (.plain .unknown))⟩
    exact Except.ok.inj (h.symm.trans hread)

namespace ShapeCache

variable [Checker]

/-- A descriptor compiles. -/
def Compiles (cache : ShapeCache) (descriptor : Text) : Prop :=
  ∃ result, cache.compile descriptor = .ok result

/-- A verdict is reached on a value, which passes exactly under a condition. -/
def Decides (cache : ShapeCache) (value : Value) (descriptor : Text) (condition : Prop) : Prop :=
  ∃ verdict after, cache.validate value (some descriptor) = .ok (verdict, after) ∧ (verdict.ok = true ↔ condition)

/-- A value passes. -/
def Passes (cache : ShapeCache) (value : Value) (descriptor : Text) : Prop :=
  ∃ verdict after, cache.validate value (some descriptor) = .ok (verdict, after) ∧ verdict.ok = true

variable {cache : ShapeCache} {v : Value} {condition : Prop}

theorem Decides.passes_iff (h : cache.Decides v descriptor condition) :
    cache.Passes v descriptor ↔ condition := by
  obtain ⟨verdict, after, hvalidate, hok⟩ := h
  constructor
  · rintro ⟨passed, left, hpasses, htrue⟩
    cases hvalidate.symm.trans hpasses
    exact hok.mp htrue
  · intro hcondition
    exact ⟨verdict, after, hvalidate, hok.mpr hcondition⟩

namespace Faithful

theorem compiles_iff (h : cache.Faithful) :
    cache.Compiles descriptor ↔ ∃ shape, Descriptor.read descriptor = .ok shape ∧ Checker.checkable shape = true := by
  simp only [← compileDescriptor_eq_ok, ← h.compile_fst descriptor, map_eq_ok]
  constructor
  · rintro ⟨result, hresult⟩
    exact ⟨result.1, result, hresult, rfl⟩
  · rintro ⟨shape, result, hresult, -⟩
    exact ⟨result, hresult⟩

section

variable (h : cache.Faithful) (hread : Descriptor.read descriptor = .ok shape)
  (hcheckable : Checker.checkable shape = true) (hanything : shape = .anything → Checker.accepts shape v = true)
include h hread hcheckable hanything

/-- **A verdict is reached on every value**, with a descriptor that compiles: what passes is what the shape
accepts. -/
theorem decides : cache.Decides v descriptor (Checker.accepts shape v = true) := by
  by_cases halways : alwaysPasses (some descriptor) = true
  · have haccepts := hanything (eq_anything_of_alwaysPasses halways hread)
    refine ⟨.passed, cache, if_pos halways, ?_⟩
    simp [Verdict.passed, haccepts]
  · have hverdict : verdict? v (some descriptor) = .ok (shape.verdict v) := by
      unfold verdict?
      dsimp only
      rw [if_neg halways, compileDescriptor_eq_ok.mpr ⟨hread, hcheckable⟩]
      rfl
    obtain ⟨after, hvalidate⟩ := h.exists_validate_eq_ok hverdict
    exact ⟨_, after, hvalidate, by rw [Shape.ok_verdict]⟩

theorem passes_iff : cache.Passes v descriptor ↔ Checker.accepts shape v = true :=
  (h.decides hread hcheckable hanything).passes_iff

end

end Faithful

end ShapeCache

end Mixfix
