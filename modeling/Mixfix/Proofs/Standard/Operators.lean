import Mixfix.Proofs.Descriptor.Primitive
import Mixfix.Proofs.Except
import Mixfix.Grammar.Builtin

/-!
# The operators of the small expression language

Each operator gives values of the type that its schema names, if it is given what it requires
(`Infix.exists_gives`). Most do so in any case: only `||` and `&&` pass on an operand, and only `+`, `*`, `%`
and `++` do something else with texts. On numbers, and on texts where it requires them, no operator meets
operands that it does not take (`Infix.operation_ne_unsupported`), though it may fail in other ways.
-/

set_option autoImplicit false

namespace Mixfix

/-! ## Numbers -/

namespace Number

theorem toDouble_ne_unsupported (x : Number) : x.toDouble ≠ .error .unsupportedOperands := by
  unfold toDouble
  intro h
  split at h
  · cases h
  · split at h <;> cases h

/-- An operation in doubles fails only where a number has none, or by itself. -/
theorem bind_toDouble_ne_unsupported {x y : Number} {f : Float → Float → Except OperationError Number}
    (hf : ∀ x y, f x y ≠ .error .unsupportedOperands) :
    (x.toDouble >>= fun x => y.toDouble >>= fun y => f x y) ≠ .error .unsupportedOperands := by
  intro h
  rcases bind_eq_error.mp h with hx | ⟨x', -, h⟩
  · exact toDouble_ne_unsupported x hx
  · rcases bind_eq_error.mp h with hy | ⟨y', -, h⟩
    · exact toDouble_ne_unsupported y hy
    · exact hf x' y' h

theorem combine_ne_unsupported (ints : Int → Int → Int) (reals : Float → Float → Float) (x y : Number) :
    combine ints reals x y ≠ .error .unsupportedOperands := by
  unfold combine
  split
  · nofun
  · exact bind_toDouble_ne_unsupported nofun

theorem quotient_ne_unsupported (x y : Number) : quotient x y ≠ .error .unsupportedOperands := by
  unfold quotient
  split
  · split
    · nofun
    · split <;> nofun
  · refine bind_toDouble_ne_unsupported fun x y => ?_
    split <;> nofun

theorem remainder_ne_unsupported (x y : Number) : remainder x y ≠ .error .unsupportedOperands := by
  unfold remainder
  split
  · split <;> nofun
  · refine bind_toDouble_ne_unsupported fun x y => ?_
    split <;> nofun

end Number

namespace Value

variable {a b v : Value}

/-- A value of the type of numbers is a number. -/
theorem exists_number? (h : Primitive.number.holds v = true) : ∃ x, v.number? = some x := by
  cases v with
  | int n => exact ⟨_, rfl⟩
  | float x => exact ⟨_, rfl⟩
  | nan occurrence => exact ⟨_, rfl⟩
  | _ => cases h

theorem holds_toValue (x : Number) : Primitive.number.holds x.toValue = true := by
  cases x <;> rfl

/-- Arithmetic gives numbers. -/
theorem holds_of_arithmetic {operation : Number → Number → Except OperationError Number}
    (h : arithmetic operation a b = .ok v) : Primitive.number.holds v = true := by
  unfold arithmetic at h
  split at h
  · obtain ⟨x, -, rfl⟩ := map_eq_ok.mp h
    exact holds_toValue x
  · cases h

/-- Arithmetic takes numbers. -/
theorem arithmetic_ne_unsupported {operation : Number → Number → Except OperationError Number}
    (hoperation : ∀ x y, operation x y ≠ .error .unsupportedOperands)
    (ha : Primitive.number.holds a = true) (hb : Primitive.number.holds b = true) :
    arithmetic operation a b ≠ .error .unsupportedOperands := by
  obtain ⟨x, hx⟩ := exists_number? ha
  obtain ⟨y, hy⟩ := exists_number? hb
  unfold arithmetic
  rw [hx, hy]
  dsimp only
  intro h
  cases hresult : operation x y with
  | ok z =>
    rw [hresult] at h
    cases h
  | error e =>
    rw [hresult] at h
    cases h
    exact hoperation x y hresult

/-- On numbers `+` is addition. -/
theorem add_of_number (ha : Primitive.number.holds a = true) :
    add a b = arithmetic (Number.combine (· + ·) (· + ·)) a b := by
  cases a with
  | int | float | nan => rfl
  | _ => cases ha

theorem holds_of_add (ha : Primitive.number.holds a = true) (h : add a b = .ok v) :
    Primitive.number.holds v = true := by
  rw [add_of_number ha] at h
  exact holds_of_arithmetic h

theorem add_ne_unsupported (ha : Primitive.number.holds a = true) (hb : Primitive.number.holds b = true) :
    add a b ≠ .error .unsupportedOperands := by
  rw [add_of_number ha]
  exact arithmetic_ne_unsupported (Number.combine_ne_unsupported _ _) ha hb

/-- On numbers `*` is multiplication. -/
theorem mul_of_number (ha : Primitive.number.holds a = true) (hb : Primitive.number.holds b = true) :
    mul a b = arithmetic (Number.combine (· * ·) (· * ·)) a b := by
  cases a with
  | int | float | nan =>
    cases b with
    | int | float | nan => rfl
    | _ => cases hb
  | _ => cases ha

theorem holds_of_mul (ha : Primitive.number.holds a = true) (hb : Primitive.number.holds b = true)
    (h : mul a b = .ok v) : Primitive.number.holds v = true := by
  rw [mul_of_number ha hb] at h
  exact holds_of_arithmetic h

theorem mul_ne_unsupported (ha : Primitive.number.holds a = true) (hb : Primitive.number.holds b = true) :
    mul a b ≠ .error .unsupportedOperands := by
  rw [mul_of_number ha hb]
  exact arithmetic_ne_unsupported (Number.combine_ne_unsupported _ _) ha hb

/-- On numbers `%` is the remainder. -/
theorem mod_of_number (ha : Primitive.number.holds a = true) : mod a b = arithmetic Number.remainder a b := by
  cases a with
  | int | float | nan => rfl
  | _ => cases ha

theorem holds_of_mod (ha : Primitive.number.holds a = true) (h : mod a b = .ok v) :
    Primitive.number.holds v = true := by
  rw [mod_of_number ha] at h
  exact holds_of_arithmetic h

theorem mod_ne_unsupported (ha : Primitive.number.holds a = true) (hb : Primitive.number.holds b = true) :
    mod a b ≠ .error .unsupportedOperands := by
  rw [mod_of_number ha]
  exact arithmetic_ne_unsupported Number.remainder_ne_unsupported ha hb

/-- On texts `+` joins. -/
theorem add_of_string (ha : Primitive.string.holds a = true) (hb : Primitive.string.holds b = true) :
    ∃ s, add a b = .ok (.str s) := by
  cases a with
  | str s =>
    cases b with
    | str t => exact ⟨s ++ t, rfl⟩
    | _ => cases hb
  | _ => cases ha

theorem holds_of_add_string (ha : Primitive.string.holds a = true) (hb : Primitive.string.holds b = true)
    (h : add a b = .ok v) : Primitive.string.holds v = true := by
  obtain ⟨s, hs⟩ := add_of_string ha hb
  rw [hs] at h
  cases h
  rfl

theorem add_string_ne_unsupported (ha : Primitive.string.holds a = true)
    (hb : Primitive.string.holds b = true) : add a b ≠ .error .unsupportedOperands := by
  obtain ⟨s, hs⟩ := add_of_string ha hb
  rw [hs]
  nofun

/-- Comparisons give truth values. -/
theorem holds_of_compareWith {c : Comparison} (h : compareWith c a b = .ok v) :
    Primitive.boolean.holds v = true := by
  unfold compareWith at h
  split at h
  · cases h
    rfl
  · cases h

/-- Comparisons take numbers. -/
theorem compareWith_ne_unsupported (c : Comparison) (ha : Primitive.number.holds a = true)
    (hb : Primitive.number.holds b = true) : compareWith c a b ≠ .error .unsupportedOperands := by
  obtain ⟨x, hx⟩ := exists_number? ha
  obtain ⟨y, hy⟩ := exists_number? hb
  have hbetween : ∃ result, c.between? a b = some result := by
    unfold Comparison.between?
    split
    · cases ha
    · cases ha
    · rw [hx, hy]
      exact ⟨_, rfl⟩
  obtain ⟨result, hresult⟩ := hbetween
  rw [compareWith, hresult]
  nofun

end Value

/-! ## Operators -/

/-- An operator gives values of the type that its schema names, if its operands are of this type where it
requires them to be. -/
structure Infix.Gives (op : Infix) (type : Primitive) : Prop where
  schema : txt op.schema = type.text
  holds : ∀ a b v, (op.required = some type.text → type.holds a = true ∧ type.holds b = true) →
    op.operation a b = .ok v → type.holds v = true

open Primitive Value

/-- **Every operator gives values of its schema.** -/
theorem Infix.exists_gives {op : Infix} (h : op ∈ standardOperators) : ∃ type, op.Gives type := by
  simp only [standardOperators, sums, products, List.cons_append, List.nil_append, List.mem_cons,
    List.not_mem_nil, or_false] at h
  rcases h with rfl | rfl | rfl | rfl | rfl | rfl | rfl | rfl | rfl | rfl | rfl | rfl | rfl | rfl
  · refine ⟨.boolean, rfl, fun a b v hoperands hv => ?_⟩
    obtain ⟨ha, hb⟩ := hoperands rfl
    cases hv
    split <;> assumption
  · refine ⟨.boolean, rfl, fun a b v hoperands hv => ?_⟩
    obtain ⟨ha, hb⟩ := hoperands rfl
    cases hv
    split <;> assumption
  · exact ⟨.boolean, rfl, fun a b v _ hv => by cases hv; rfl⟩
  · exact ⟨.boolean, rfl, fun a b v _ hv => by cases hv; rfl⟩
  · exact ⟨.boolean, rfl, fun a b v _ hv => holds_of_compareWith hv⟩
  · exact ⟨.boolean, rfl, fun a b v _ hv => holds_of_compareWith hv⟩
  · exact ⟨.boolean, rfl, fun a b v _ hv => holds_of_compareWith hv⟩
  · exact ⟨.boolean, rfl, fun a b v _ hv => holds_of_compareWith hv⟩
  · exact ⟨.string, rfl, fun a b v h hv => holds_of_add_string (h rfl).1 (h rfl).2 hv⟩
  · exact ⟨.number, rfl, fun a b v h hv => holds_of_add (h rfl).1 hv⟩
  · exact ⟨.number, rfl, fun a b v _ hv => holds_of_arithmetic hv⟩
  · exact ⟨.number, rfl, fun a b v h hv => holds_of_mul (h rfl).1 (h rfl).2 hv⟩
  · exact ⟨.number, rfl, fun a b v _ hv => holds_of_arithmetic hv⟩
  · exact ⟨.number, rfl, fun a b v h hv => holds_of_mod (h rfl).1 hv⟩

/-- **Every operator takes what it requires**, if that is numbers or texts. -/
theorem Infix.operation_ne_unsupported {op : Infix} (h : op ∈ standardOperators) {a b : Value}
    (hnumber : op.required = some number.text → number.holds a = true ∧ number.holds b = true)
    (hstring : op.required = some string.text → string.holds a = true ∧ string.holds b = true) :
    op.operation a b ≠ .error .unsupportedOperands := by
  simp only [standardOperators, sums, products, List.cons_append, List.nil_append, List.mem_cons,
    List.not_mem_nil, or_false] at h
  rcases h with rfl | rfl | rfl | rfl | rfl | rfl | rfl | rfl | rfl | rfl | rfl | rfl | rfl | rfl
  · nofun
  · nofun
  · nofun
  · nofun
  · exact compareWith_ne_unsupported _ (hnumber rfl).1 (hnumber rfl).2
  · exact compareWith_ne_unsupported _ (hnumber rfl).1 (hnumber rfl).2
  · exact compareWith_ne_unsupported _ (hnumber rfl).1 (hnumber rfl).2
  · exact compareWith_ne_unsupported _ (hnumber rfl).1 (hnumber rfl).2
  · exact add_string_ne_unsupported (hstring rfl).1 (hstring rfl).2
  · exact add_ne_unsupported (hnumber rfl).1 (hnumber rfl).2
  · exact arithmetic_ne_unsupported (Number.combine_ne_unsupported _ _) (hnumber rfl).1 (hnumber rfl).2
  · exact mul_ne_unsupported (hnumber rfl).1 (hnumber rfl).2
  · exact arithmetic_ne_unsupported Number.quotient_ne_unsupported (hnumber rfl).1 (hnumber rfl).2
  · exact mod_ne_unsupported (hnumber rfl).1 (hnumber rfl).2

end Mixfix
