import Mixfix.Host.Checker
import Mixfix.Proofs.Descriptor.Join
import Mixfix.Proofs.Validator.Verdict

/-!
# Composed descriptors

A bar between two descriptors means either of them, and brackets behind a descriptor in parentheses mean a list of
what it describes: in what compiles and in what passes (**`Faithful.composes`**). `Join` says to which shapes the
composed texts are read. That what checks values treats such shapes by their parts is assumed (`Checker.Composes`).
-/

set_option autoImplicit false

namespace Mixfix

/-- Unions and lists are checked by their parts, and anything has the shape of anything. -/
structure Checker.Composes [Checker] : Prop where
  checkable_union (shapes : List Shape) : checkable (.union shapes) = shapes.all checkable
  accepts_union (shapes : List Shape) (value : Value) :
    accepts (.union shapes) value = shapes.any fun shape => accepts shape value
  checkable_array (item : Shape) : checkable (.array item) = checkable item
  accepts_array (item : Shape) (value : Value) :
    accepts (.array item) value = true ↔ ∃ items, value = .list items ∧ ∀ v ∈ items, accepts item v = true
  accepts_anything (value : Value) : accepts .anything value = true

section

variable [Checker]

namespace Checker.Composes

variable (h : Checker.Composes)
include h

/-- A value has the shape of some alternatives if it has that of one of them. -/
theorem accepts_ofAlternatives (shapes : List Shape) (value : Value) :
    accepts (Descriptor.Shape.ofAlternatives shapes) value = shapes.any fun shape => accepts shape value := by
  match shapes with
  | [] => simp [Descriptor.Shape.ofAlternatives, h.accepts_union]
  | [shape] => simp [Descriptor.Shape.ofAlternatives]
  | first :: second :: shapes => simp [Descriptor.Shape.ofAlternatives, h.accepts_union]

/-- A checker is made of some alternatives if one is made of each. -/
theorem checkable_ofAlternatives (shapes : List Shape) :
    checkable (Descriptor.Shape.ofAlternatives shapes) = shapes.all checkable := by
  match shapes with
  | [] => simp [Descriptor.Shape.ofAlternatives, h.checkable_union]
  | [shape] => simp [Descriptor.Shape.ofAlternatives]
  | first :: second :: shapes => simp [Descriptor.Shape.ofAlternatives, h.checkable_union]

end Checker.Composes

namespace ShapeCache

variable {cache : ShapeCache} {s t : Text}

/-- **Descriptors compose.** With a bar between them they compile, and what passes is what passes one of them. With
brackets behind it in parentheses a descriptor compiles, and what passes is a list of items that pass it. -/
theorem Faithful.composes (hcomposes : Checker.Composes) (h : cache.Faithful) (hs : cache.Compiles s)
    (ht : cache.Compiles t) :
    (cache.Compiles (s ++ (txt " | " ++ t)) ∧
        ∀ value, cache.Decides value (s ++ (txt " | " ++ t)) (cache.Passes value s ∨ cache.Passes value t)) ∧
      cache.Compiles (txt "(" ++ (s ++ txt ")[]")) ∧
        ∀ value, cache.Decides value (txt "(" ++ (s ++ txt ")[]"))
          (∃ items, value = .list items ∧ ∀ item ∈ items, cache.Passes item s) := by
  obtain ⟨shape, hshape, hcheckable⟩ := h.compiles_iff.mp hs
  obtain ⟨other, hother, hcheckable'⟩ := h.compiles_iff.mp ht
  have hanything {shape : Shape} {value : Value} (hshape : shape = .anything) :
      Checker.accepts shape value = true := hshape ▸ hcomposes.accepts_anything value
  have hpasses (value : Value) := h.passes_iff (v := value) hshape hcheckable hanything
  have hpasses' (value : Value) := h.passes_iff (v := value) hother hcheckable' hanything
  obtain ⟨shapes, others, rfl, rfl, hjoin⟩ := Descriptor.read_join hshape hother
  rw [hcomposes.checkable_ofAlternatives] at hcheckable hcheckable'
  have hboth : Checker.checkable (Descriptor.Shape.ofAlternatives (shapes ++ others)) = true := by
    rw [hcomposes.checkable_ofAlternatives, List.all_append, hcheckable, hcheckable', Bool.and_self]
  have hlist := Descriptor.read_list hshape
  have hitems : Checker.checkable (.array (Descriptor.Shape.ofAlternatives shapes)) = true := by
    rwa [hcomposes.checkable_array, hcomposes.checkable_ofAlternatives]
  refine ⟨⟨h.compiles_iff.mpr ⟨_, hjoin, hboth⟩, fun value => ?_⟩, h.compiles_iff.mpr ⟨_, hlist, hitems⟩,
    fun value => ?_⟩
  · have hdecides := h.decides (v := value) hjoin hboth hanything
    rw [hcomposes.accepts_ofAlternatives, List.any_append, Bool.or_eq_true] at hdecides
    rwa [hpasses, hpasses', hcomposes.accepts_ofAlternatives, hcomposes.accepts_ofAlternatives]
  · have hdecides := h.decides (v := value) hlist hitems hanything
    simpa only [hpasses, hcomposes.accepts_array] using hdecides

end ShapeCache

end

/-! ## The checker of the program -/

namespace Shape

theorem anyAccepts_eq_any (shapes : List Shape) (value : Value) :
    anyAccepts shapes value = shapes.any fun shape => accepts shape value := by
  induction shapes with
  | nil => rfl
  | cons shape shapes ih => rw [anyAccepts, ih, List.any_cons]

theorem allCheckable_eq_all (shapes : List Shape) : allCheckable shapes = shapes.all checkable := by
  induction shapes with
  | nil => rfl
  | cons shape shapes ih => rw [allCheckable, ih, List.all_cons]

/-- The checker of the program checks shapes by their parts. -/
theorem checker_composes : Checker.Composes where
  checkable_union := allCheckable_eq_all
  accepts_union := anyAccepts_eq_any
  checkable_array item := rfl
  accepts_array item value := by
    cases value <;> simp [Checker.accepts, accepts]
  accepts_anything value := rfl

end Shape

/-- Texts of two letters, or else a truth value or a list of nothing but null. -/
theorem ShapeCache.composes_words :
    let s := txt "string > 1"
    let t := txt "true | null[] "
    Compiles [] s ∧ Compiles [] t ∧
      Passes [] (.list [.null]) (s ++ (txt " | " ++ t)) ∧
      ¬Passes [] (.list [.str (txt "ab"), .null]) (txt "(" ++ (s ++ txt ")[]")) := by
  intro s t
  have hwords : Descriptor.read s = .ok (.text .any (some 2) none) := rfl
  have hchoice : Descriptor.read t = .ok (.union [.literal (.bool true), .array .null]) := rfl
  have hcheckable : (Shape.text .any (some 2) none).checkable = true := by decide +kernel
  have hcheckable' : (Shape.union [.literal (.bool true), .array .null]).checkable = true := by decide +kernel
  have hs := faithful_nil.compiles_iff.mpr ⟨_, hwords, hcheckable⟩
  have ht := faithful_nil.compiles_iff.mpr ⟨_, hchoice, hcheckable'⟩
  obtain ⟨⟨-, hjoin⟩, -, hlist⟩ := faithful_nil.composes Shape.checker_composes hs ht
  refine ⟨hs, ht, ?_, ?_⟩
  · rw [(hjoin _).passes_iff, faithful_nil.passes_iff hchoice hcheckable' nofun]
    exact .inr (by simp [Checker.accepts, Shape.accepts, Shape.anyAccepts])
  · rw [(hlist _).passes_iff]
    rintro ⟨items, hitems, hall⟩
    cases hitems
    have hnull := (faithful_nil.passes_iff hwords hcheckable nofun).mp (hall .null (by simp))
    cases hnull

end Mixfix
