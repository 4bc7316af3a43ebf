import Mixfix.Proofs.Entries
import Mixfix.Proofs.Except
import Mixfix.Validator

/-!
# Caches of compiled descriptors

A cache is faithful if each of its shapes is the one that its descriptor compiles to. A faithful cache
changes no verdict (`Faithful.validate_fst`), and it stays faithful when it is used
(`Faithful.validate_snd`). So what a validator says can be told by `verdict?`, which has no cache.

Which descriptors a cache holds is not said here.
-/

set_option autoImplicit false

namespace Mixfix

variable [Checker]

/-- The verdict on a value against a descriptor that is compiled for it. -/
def verdict? (value : Value) (descriptor : Option Text) : Except CompileError Verdict :=
  match descriptor with
  | none => .ok .passed
  | some s =>
    if alwaysPasses (some s) then .ok .passed
    else (compileDescriptor s).map fun shape => shape.verdict value

namespace ShapeCache

/-- Every shape of a cache is the one that its descriptor compiles to. -/
def Faithful (cache : ShapeCache) : Prop :=
  ∀ descriptor shape, Entries.find? descriptor cache = some shape →
    compileDescriptor descriptor = .ok shape

theorem faithful_nil : Faithful [] := by
  intro descriptor shape h
  cases h

namespace Faithful

variable {cache after : ShapeCache} {descriptor : Text}

/-- A compiled descriptor may be put into the cache. -/
theorem put (h : cache.Faithful) {shape : Shape} (hshape : compileDescriptor descriptor = .ok shape) :
    Faithful (Entries.put descriptor shape cache) := by
  intro key other hfind
  rw [Entries.find?_put] at hfind
  by_cases hkey : descriptor = key
  · rw [if_pos hkey] at hfind
    cases hfind
    exact hkey ▸ hshape
  · rw [if_neg hkey] at hfind
    exact h key other hfind

/-- The shape from a faithful cache is the one that is compiled. -/
theorem compile_fst (h : cache.Faithful) (descriptor : Text) :
    (cache.compile descriptor).map Prod.fst = compileDescriptor descriptor := by
  unfold compile
  split
  · rename_i shape hfind
    exact (h descriptor shape hfind).symm
  · cases compileDescriptor descriptor with
    | error e => rfl
    | ok shape => rfl

theorem compile_snd (h : cache.Faithful) {shape : Shape}
    (hcompile : cache.compile descriptor = .ok (shape, after)) : after.Faithful := by
  unfold compile at hcompile
  split at hcompile
  · cases hcompile
    exact h
  · obtain ⟨compiled, hshape, hafter⟩ := bind_eq_ok.mp hcompile
    cases hafter
    exact h.put hshape

/-- The verdict with a faithful cache is the one without it. -/
theorem validate_fst (h : cache.Faithful) (value : Value) (descriptor : Option Text) :
    (cache.validate value descriptor).map Prod.fst = verdict? value descriptor := by
  cases descriptor with
  | none => rfl
  | some s =>
    unfold validate verdict?
    dsimp only
    split
    · rfl
    · rw [← h.compile_fst s]
      cases cache.compile s with
      | error e => rfl
      | ok compiled => rfl

/-- A verdict is reached with every faithful cache. -/
theorem exists_validate_eq_ok (h : cache.Faithful) {value : Value} {descriptor : Option Text}
    {verdict : Verdict} (hverdict : verdict? value descriptor = .ok verdict) :
    ∃ after, cache.validate value descriptor = .ok (verdict, after) := by
  rw [← h.validate_fst] at hverdict
  cases hvalidate : cache.validate value descriptor with
  | error e =>
    rw [hvalidate] at hverdict
    cases hverdict
  | ok result =>
    rw [hvalidate] at hverdict
    cases hverdict
    exact ⟨result.2, rfl⟩

theorem validate_snd (h : cache.Faithful) {value : Value} {descriptor : Option Text} {verdict : Verdict}
    (hvalidate : cache.validate value descriptor = .ok (verdict, after)) : after.Faithful := by
  cases descriptor with
  | none =>
    cases hvalidate
    exact h
  | some s =>
    unfold validate at hvalidate
    dsimp only at hvalidate
    split at hvalidate
    · cases hvalidate
      exact h
    · obtain ⟨⟨shape, compiled⟩, hcompile, hafter⟩ := bind_eq_ok.mp hvalidate
      cases hafter
      exact h.compile_snd hcompile

end Faithful

end ShapeCache

end Mixfix
