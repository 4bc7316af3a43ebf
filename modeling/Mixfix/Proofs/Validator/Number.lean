import Mixfix.Host.Checker
import Mixfix.Proofs.Binary64.Order
import Mixfix.Proofs.Descriptor.Comparison
import Mixfix.Proofs.Validator.Verdict

/-!
# Bounds on numbers

What checks values takes an integer for a bounded number in either of two ways (`Checker.ComparesNumbers`): as an
integer, which is compared exactly, or as the double next to it, which is compared with the doubles of the bounds. The
second way adds nothing but equality: an integer that shares its double with a bound passes as if it were the bound
(**`Faithful.number_bounds`**). So where the bounds have up to 53 binary digits, or allow no equality, numbers are
compared exactly, and elsewhere they are not (`not_exact_of_rounded`).
-/

set_option autoImplicit false

namespace Mixfix

open Descriptor (Bound Within)

/-! ## Limits -/

/-- A number is within bounds, by its order with each limit. -/
def Bounds.Admit (bounds : Bounds) (order : Limit → Option Ordering) : Prop :=
  (∀ limit ∈ bounds.lower, ∃ o, order limit = some o ∧ (Comparison.below limit.strict).holds o.swap = true) ∧
    ∀ limit ∈ bounds.upper, ∃ o, order limit = some o ∧ (Comparison.below limit.strict).holds o = true

/-- How an integer compares with a limit that is one. -/
def Limit.orderOfInt (v : Int) (limit : Limit) : Option Ordering :=
  match limit.value with
  | .int n => some (compare v n)
  | .real _ => none

/-- How a double compares with the double next to a limit. -/
def Limit.orderOfDouble (x : Float) (limit : Limit) : Option Ordering :=
  match limit.value with
  | .int n => (Binary64.ofInt n).bind (Number.compareReals x)
  | .real y => Number.compareReals x y

/-- Integers are compared with bounds exactly, or as the doubles next to them. -/
structure Checker.ComparesNumbers [Checker] : Prop where
  /-- A checker is made only for bounds that have doubles next to them. -/
  exists_double {whole : Bool} {bounds : Bounds} (h : checkable (.number whole bounds) = true) {limit : Limit}
    (hlimit : limit ∈ bounds.limits) {n : Int} (hvalue : limit.value = .int n) : ∃ y, Binary64.ofInt n = some y
  /-- An integer is accepted as an integer or as a double. -/
  accepts_int {bounds : Bounds} (h : checkable (.number false bounds) = true)
    (hwhole : ∀ limit ∈ bounds.limits, ∃ n, limit.value = .int n) (v : Int) :
    accepts (.number false bounds) (.int v) = true ↔
      bounds.Admit (Limit.orderOfInt v) ∨ ∃ x, Binary64.ofInt v = some x ∧ bounds.Admit (Limit.orderOfDouble x)

variable {lower upper : Option Bound} {v : Int}

@[simp] theorem Descriptor.Bound.strict_limit (bound : Bound) : bound.limit.strict = bound.strict := rfl

theorem Descriptor.Bound.value_limit {bound : Bound} (h : Descriptor.hasPoint bound.digits = false) :
    bound.limit.value = .int (Decimal.toInt bound.digits) := by
  simp [limit, Descriptor.numeral, h]

/-- An integer is within the limits of bounds if it is within the bounds, by an order that is one from either side. -/
theorem Bounds.admit_iff_within {order : Int → Int → Ordering} (hswap : ∀ m n, order m n = (order n m).swap)
    {ordered : Limit → Option Ordering} (hordered : ∀ bound ∈ lower.toList ++ upper.toList,
      ordered bound.limit = some (order v (Decimal.toInt bound.digits))) :
    Admit ⟨lower.map Bound.limit, upper.map Bound.limit⟩ ordered ↔ Within order lower upper v := by
  have hlower : (∀ limit ∈ lower.map Bound.limit,
        ∃ o, ordered limit = some o ∧ (Comparison.below limit.strict).holds o.swap = true) ↔
      ∀ bound ∈ lower, (Comparison.below bound.strict).holds (order (Decimal.toInt bound.digits) v) = true := by
    cases lower with
    | none => simp
    | some bound => simp [hordered bound (by simp), ← hswap]
  have hupper : (∀ limit ∈ upper.map Bound.limit,
        ∃ o, ordered limit = some o ∧ (Comparison.below limit.strict).holds o = true) ↔
      ∀ bound ∈ upper, (Comparison.below bound.strict).holds (order v (Decimal.toInt bound.digits)) = true := by
    cases upper with
    | none => simp
    | some bound => simp [hordered bound (by simp)]
  exact and_congr hlower hupper

/-! ## Numbers -/

section

variable [Checker]

/-- An integer is a number within bounds if it is exactly, or as its double. -/
theorem Checker.ComparesNumbers.accepts_number (hnumbers : Checker.ComparesNumbers)
    (hpoint : ∀ bound ∈ lower.toList ++ upper.toList, Descriptor.hasPoint bound.digits = false)
    (h : checkable (.number false ⟨lower.map Bound.limit, upper.map Bound.limit⟩) = true) :
    accepts (.number false ⟨lower.map Bound.limit, upper.map Bound.limit⟩) (.int v) = true ↔
      Within compare lower upper v ∨ Within Binary64.roundedOrder lower upper v := by
  have hlimits : (Bounds.limits ⟨lower.map Bound.limit, upper.map Bound.limit⟩) =
      (lower.toList ++ upper.toList).map Bound.limit := by
    cases lower <;> cases upper <;> rfl
  have hvalue (bound : Bound) (hbound : bound ∈ lower.toList ++ upper.toList) :=
    Bound.value_limit (hpoint bound hbound)
  have hwhole : ∀ limit ∈ Bounds.limits ⟨lower.map Bound.limit, upper.map Bound.limit⟩,
      ∃ n, limit.value = .int n := by
    rw [hlimits]
    exact List.forall_mem_map.mpr fun bound hbound => ⟨_, hvalue bound hbound⟩
  have hdouble : ∀ bound ∈ lower.toList ++ upper.toList, ∃ y, Binary64.ofInt (Decimal.toInt bound.digits) = some y :=
    fun bound hbound => hnumbers.exists_double h (hlimits ▸ List.mem_map_of_mem hbound) (hvalue bound hbound)
  have hexact : Bounds.Admit ⟨lower.map Bound.limit, upper.map Bound.limit⟩ (Limit.orderOfInt v) ↔
      Within compare lower upper v := by
    refine Bounds.admit_iff_within (fun m n => Std.OrientedCmp.eq_swap) fun bound hbound => ?_
    rw [Limit.orderOfInt, hvalue bound hbound]
  rw [hnumbers.accepts_int h hwhole, hexact]
  cases hv : Binary64.ofInt v with
  | some x =>
    have hrounded : Bounds.Admit ⟨lower.map Bound.limit, upper.map Bound.limit⟩ (Limit.orderOfDouble x) ↔
        Within Binary64.roundedOrder lower upper v := by
      refine Bounds.admit_iff_within Binary64.roundedOrder_swap fun bound hbound => ?_
      obtain ⟨y, hy⟩ := hdouble bound hbound
      rw [Limit.orderOfDouble, hvalue bound hbound]
      dsimp only
      rw [hy]
      exact Binary64.compareReals_ofInt hv hy
    simp [hrounded]
  | none =>
    -- Beyond the doubles the order is the exact one.
    have hsame : Within Binary64.roundedOrder lower upper v ↔ Within compare lower upper v := by
      refine Descriptor.within_congr Binary64.roundedOrder_swap (fun m n => Std.OrientedCmp.eq_swap) ?_
      intro bound hbound
      obtain ⟨y, hy⟩ := hdouble bound hbound
      rw [Binary64.roundedOrder, hv, hy, if_neg (Option.some_ne_none y).symm]
    simp [hsame]

end

/-! ## Verdicts -/

namespace ShapeCache.Faithful

theorem tokensOf_number : Descriptor.tokensOf (txt "number") = .ok [.name (txt "number")] :=
  eq_ok_of_toOption (by decide +kernel)

section

variable [Checker] {cache : ShapeCache} {comparison : Comparison} {digits : Text} {n : Int}

/-- An integer passes a comparison if it compares exactly, or as its double. -/
theorem decides_comparison (h : cache.Faithful) (hnumbers : Checker.ComparesNumbers) (v : Int)
    (hn : Decimal.Writes digits n) (hcompiles : cache.Compiles (comparison.text (txt "number") digits)) :
    cache.Decides (.int v) (comparison.text (txt "number") digits)
      (comparison.holds (compare v n) = true ∨ comparison.holds (Binary64.roundedOrder v n) = true) := by
  obtain ⟨shape, hread, hcheckable⟩ := h.compiles_iff.mp hcompiles
  obtain ⟨-, rfl⟩ := (Descriptor.read_text tokensOf_number hn .number).mp hread
  have hpoint : ∀ bound ∈ (comparison.lower digits).toList ++ (comparison.upper digits).toList,
      Descriptor.hasPoint bound.digits = false := Descriptor.hasPoint_of_comparison hn
  have hdecides := h.decides (v := .int v) hread hcheckable nofun
  rwa [hnumbers.accepts_number hpoint hcheckable,
    Descriptor.within_comparison Std.OrientedCmp.eq_swap hn,
    Descriptor.within_comparison (Binary64.roundedOrder_swap n v) hn] at hdecides

/-- An integer passes a range if it is in it exactly, or as its double. -/
theorem decides_number_range (h : cache.Faithful) (hnumbers : Checker.ComparesNumbers) (v : Int)
    {low high : Bound} {a b : Int}
    (hlow : Decimal.Writes low.digits a) (hhigh : Decimal.Writes high.digits b)
    (hcompiles : cache.Compiles (Descriptor.rangeText low (txt "number") high)) :
    cache.Decides (.int v) (Descriptor.rangeText low (txt "number") high)
      ((Comparison.below low.strict).holds (compare a v) = true ∧
          (Comparison.below high.strict).holds (compare v b) = true ∨
        (Comparison.below low.strict).holds (Binary64.roundedOrder a v) = true ∧
          (Comparison.below high.strict).holds (Binary64.roundedOrder v b) = true) := by
  obtain ⟨shape, hread, hcheckable⟩ := h.compiles_iff.mp hcompiles
  obtain ⟨-, rfl⟩ := (Descriptor.read_rangeText tokensOf_number hlow hhigh .number).mp hread
  have hpoint := Descriptor.hasPoint_of_range hlow hhigh
  have hdecides := h.decides (v := .int v) hread hcheckable nofun
  rw [hnumbers.accepts_number hpoint hcheckable,
    Descriptor.within_range hlow hhigh, Descriptor.within_range hlow hhigh] at hdecides
  exact hdecides

/-- **Bounds on a number**: an integer passes a comparison if it compares, or if equality is enough and it has the
double of the bound. It passes a range if it compares on both sides, or if its double does. Where the bounds have up to
53 binary digits it has to compare. -/
theorem number_bounds (h : cache.Faithful) (hnumbers : Checker.ComparesNumbers) (v : Int) :
    (∀ (comparison : Comparison) (digits : Text) (n : Int), Decimal.Writes digits n →
      cache.Compiles (comparison.text (txt "number") digits) →
      cache.Decides (.int v) (comparison.text (txt "number") digits)
          (comparison.holds (compare v n) = true ∨
            comparison.holds .eq = true ∧ Binary64.ofInt v = Binary64.ofInt n) ∧
        (n.natAbs < 2 ^ 53 → cache.Decides (.int v) (comparison.text (txt "number") digits)
          (comparison.holds (compare v n) = true))) ∧
    ∀ (low high : Bound) (a b : Int), Decimal.Writes low.digits a → Decimal.Writes high.digits b →
      cache.Compiles (Descriptor.rangeText low (txt "number") high) →
      cache.Decides (.int v) (Descriptor.rangeText low (txt "number") high)
          ((Comparison.below low.strict).holds (compare a v) = true ∧
              (Comparison.below high.strict).holds (compare v b) = true ∨
            (Comparison.below low.strict).holds (Binary64.roundedOrder a v) = true ∧
              (Comparison.below high.strict).holds (Binary64.roundedOrder v b) = true) ∧
        (a.natAbs < 2 ^ 53 → b.natAbs < 2 ^ 53 → cache.Decides (.int v) (Descriptor.rangeText low (txt "number") high)
          ((Comparison.below low.strict).holds (compare a v) = true ∧
            (Comparison.below high.strict).holds (compare v b) = true)) := by
  constructor
  · intro comparison digits n hn hcompiles
    have hdecides := h.decides_comparison hnumbers v hn hcompiles
    refine ⟨?_, fun hsmall => ?_⟩
    · by_cases heq : Binary64.ofInt v = Binary64.ofInt n <;> simpa [Binary64.roundedOrder, heq] using hdecides
    · rwa [Binary64.roundedOrder_eq v hsmall, or_self] at hdecides
  · intro low high a b hlow hhigh hcompiles
    have hdecides := h.decides_number_range hnumbers v hlow hhigh hcompiles
    refine ⟨hdecides, fun ha hb => ?_⟩
    rwa [Binary64.roundedOrder_swap a v, Binary64.roundedOrder_eq v ha, Binary64.roundedOrder_eq v hb,
      ← Std.OrientedCmp.eq_swap, or_self] at hdecides

end

end ShapeCache.Faithful

/-! ## The checker of the program -/

section

variable {bounds : Bounds} {limit : Limit}

theorem Bounds.admit_congr {order order' : Limit → Option Ordering}
    (h : ∀ limit ∈ bounds.limits, order limit = order' limit) : bounds.Admit order ↔ bounds.Admit order' := by
  obtain ⟨lower, upper⟩ := bounds
  cases lower <;> cases upper <;> simp_all [Admit, limits]

theorem Limit.exceededBy_above {order : Option Ordering} : limit.exceededBy true order = false ↔
    ∃ o, order = some o ∧ (Comparison.below limit.strict).holds o = true := by
  unfold exceededBy Comparison.below
  cases limit.strict <;> rcases order with _ | _ | _ | _ <;> simp [Comparison.holds]

theorem Limit.exceededBy_below {order : Option Ordering} : limit.exceededBy false order = false ↔
    ∃ o, order = some o ∧ (Comparison.below limit.strict).holds o.swap = true := by
  unfold exceededBy Comparison.below
  cases limit.strict <;> rcases order with _ | _ | _ | _ <;> simp [Comparison.holds]

namespace Shape

/-- Nothing is wrong with a number that is within its bounds. -/
theorem rangeComplaint?_eq_none {order : Limit → Option Ordering} {shown : Limit → Text} :
    rangeComplaint? bounds order shown = none ↔ bounds.Admit order := by
  have hlower : (bounds.lower.filter fun limit => limit.exceededBy false (order limit)) = none ↔
      ∀ limit ∈ bounds.lower, ∃ o, order limit = some o ∧ (Comparison.below limit.strict).holds o.swap = true := by
    simp [Limit.exceededBy_below]
  have hupper : (bounds.upper.filter fun limit => limit.exceededBy true (order limit)) = none ↔
      ∀ limit ∈ bounds.upper, ∃ o, order limit = some o ∧ (Comparison.below limit.strict).holds o = true := by
    simp [Limit.exceededBy_above]
  rw [Bounds.Admit, ← hlower, ← hupper, and_comm]
  unfold rangeComplaint?
  cases bounds.upper.filter fun limit => limit.exceededBy true (order limit) with
  | some limit => simp
  | none => simp

theorem integerComplaint?_eq_none (hwhole : ∀ limit ∈ bounds.limits, ∃ n, limit.value = .int n) :
    integerComplaint? bounds (.int v) = none ↔ bounds.Admit (Limit.orderOfInt v) := by
  refine rangeComplaint?_eq_none.trans (Bounds.admit_congr fun limit hlimit => ?_)
  obtain ⟨n, hn⟩ := hwhole limit hlimit
  simp [Limit.orderOfInt, hn, Number.whole?]

theorem doubleComplaint?_eq_none
    (hdouble : ∀ limit ∈ bounds.limits, ∀ n, limit.value = .int n → ∃ y, Binary64.ofInt n = some y) :
    doubleComplaint? false bounds (.int v) = none ↔
      ∃ x, Binary64.ofInt v = some x ∧ bounds.Admit (Limit.orderOfDouble x) := by
  unfold doubleComplaint? double?
  dsimp only
  cases hv : Binary64.ofInt v with
  | none => simp
  | some x =>
    have hadmit : bounds.Admit (fun limit => Number.compareReals x limit.value.nearestDouble) ↔
        bounds.Admit (Limit.orderOfDouble x) := by
      refine Bounds.admit_congr fun limit hlimit => ?_
      cases hvalue : limit.value with
      | int n =>
        obtain ⟨y, hy⟩ := hdouble limit hlimit n hvalue
        simp [Limit.orderOfDouble, hvalue, Number.nearestDouble, hy]
      | real y => simp [Limit.orderOfDouble, hvalue, Number.nearestDouble]
    simp [rangeComplaint?_eq_none, hadmit]

theorem exists_ofInt {whole : Bool} (h : checkable (.number whole bounds) = true) (hlimit : limit ∈ bounds.limits)
    {n : Int} (hvalue : limit.value = .int n) : ∃ y, Binary64.ofInt n = some y := by
  have hcheckable := List.all_eq_true.mp h limit hlimit
  rw [checkableLimit, hvalue] at hcheckable
  exact Option.isSome_iff_exists.mp hcheckable

/-- The checker of the program compares an integer in both ways. -/
theorem comparesNumbers : Checker.ComparesNumbers where
  exists_double {whole bounds} h {limit} hlimit {n} hvalue := exists_ofInt h hlimit hvalue
  accepts_int {bounds} h hwhole v := by
    have hdouble : ∀ limit ∈ bounds.limits, ∀ n, limit.value = .int n → ∃ y, Binary64.ofInt n = some y :=
      fun limit hlimit n hvalue => exists_ofInt h hlimit hvalue
    rw [← integerComplaint?_eq_none hwhole, ← doubleComplaint?_eq_none hdouble]
    change (numberComplaints false bounds (.int v)).isEmpty = true ↔ _
    unfold numberComplaints
    cases integerComplaint? bounds (.int v) <;> cases doubleComplaint? false bounds (.int v) <;> simp

end Shape

end

namespace ShapeCache.Faithful

/-- The first integer that is no double. -/
theorem writes_unrounded : Decimal.Writes (txt "9007199254740993") 9007199254740993 :=
  .plain (by decide) (by decide)

theorem read_unrounded : Descriptor.read (Comparison.ge.text (txt "number") (txt "9007199254740993")) =
    .ok (.number false ⟨some ⟨.int 9007199254740993, false⟩, none⟩) := rfl

theorem compiles_unrounded : Compiles [] (Comparison.ge.text (txt "number") (txt "9007199254740993")) :=
  faithful_nil.compiles_iff.mpr ⟨_, read_unrounded, by decide +kernel⟩

/-- Five is not over five, and the power 53 of two passes a bound that is greater by one. -/
theorem number_bounds_large :
    ¬Passes [] (.int 5) (Descriptor.rangeText ⟨txt "5", true⟩ (txt "number") ⟨txt "07", false⟩) ∧
      Passes [] (.int 9007199254740992) (Comparison.ge.text (txt "number") (txt "9007199254740993")) := by
  have hfive : Decimal.Writes (txt "5") 5 := Decimal.writes_ofInt 5
  have hseven : Decimal.Writes (txt "07") 7 := .plain (by decide) (by decide)
  obtain ⟨-, hrange⟩ := faithful_nil.number_bounds Shape.comparesNumbers 5
  obtain ⟨hbound, -⟩ := faithful_nil.number_bounds Shape.comparesNumbers 9007199254740992
  constructor
  · have hread : Descriptor.read (Descriptor.rangeText ⟨txt "5", true⟩ (txt "number") ⟨txt "07", false⟩) =
        .ok (.number false ⟨some ⟨.int 5, true⟩, some ⟨.int 7, false⟩⟩) := rfl
    have hcompiles := faithful_nil.compiles_iff.mpr ⟨_, hread, by decide +kernel⟩
    rw [((hrange _ _ _ _ hfive hseven hcompiles).2 (by decide) (by decide)).passes_iff]
    decide
  · rw [(hbound _ _ _ writes_unrounded compiles_unrounded).1.passes_iff]
    exact .inr ⟨rfl, by decide +kernel⟩

/-- So what passes a comparison need not compare. -/
theorem not_exact_of_rounded :
    ¬∀ (v n : Int) (comparison : Comparison) (digits : Text), Decimal.Writes digits n →
      Compiles [] (comparison.text (txt "number") digits) →
      (Passes [] (.int v) (comparison.text (txt "number") digits) ↔ comparison.holds (compare v n) = true) := by
  intro hexact
  have hpasses : Passes [] (.int 9007199254740992) (Comparison.ge.text (txt "number") (txt "9007199254740993")) :=
    (faithful_nil.passes_iff read_unrounded (by decide +kernel) nofun).mpr (by decide +kernel)
  exact absurd ((hexact _ _ _ _ writes_unrounded compiles_unrounded).mp hpasses) (by decide)

end ShapeCache.Faithful

end Mixfix
