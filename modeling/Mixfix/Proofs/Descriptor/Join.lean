import Mixfix.Proofs.Descriptor.Complete
import Mixfix.Proofs.Descriptor.Token

/-!
# Descriptors made of descriptors

The grammar of descriptors is closed under the bar, and under brackets behind parentheses. The tokens of the
composed text are those of the parts with the symbols between them (`tokensOf_join`, `tokensOf_list`), so it is
read as the parts are: alternatives are appended to alternatives (**`read_join`**), and a shape in parentheses
becomes the shape of items (**`read_list`**). A union of schemas is therefore written as a descriptor if the schemas
are descriptors (`Accepted.join`).
-/

set_option autoImplicit false

namespace Mixfix.Descriptor

variable {tokens more : List Token} {shape other : Shape} {shapes others : List Shape} {s t : Text}

/-! ## The grammar -/

/-- Alternatives with a bar between them and more alternatives are alternatives. -/
theorem AreAlternatives.append {tokens : List Token} {shapes : List Shape} (h : AreAlternatives tokens shapes)
    (hmore : AreAlternatives more others) :
    AreAlternatives (tokens ++ .symbol .bar :: more) (shapes ++ others) := by
  cases h with
  | one h => exact .more h hmore
  | more hfirst hrest =>
    rw [List.append_assoc]
    exact .more hfirst (hrest.append hmore)
termination_by tokens.length

/-- A descriptor is made of alternatives. -/
theorem isDescriptor_iff :
    IsDescriptor tokens shape ↔ ∃ shapes, AreAlternatives tokens shapes ∧ shape = Shape.ofAlternatives shapes := by
  constructor
  · intro h
    cases h with
    | alternative h => exact ⟨[shape], .one h, rfl⟩
    | union h => exact ⟨_, h, rfl⟩
  · rintro ⟨shapes, h, rfl⟩
    exact h.isDescriptor

/-! ## Texts -/

/-- **Descriptors with a bar between them** describe the alternatives of both. -/
theorem read_join (hs : read s = .ok shape) (ht : read t = .ok other) :
    ∃ shapes others, shape = Shape.ofAlternatives shapes ∧ other = Shape.ofAlternatives others ∧
      read (s ++ (txt " | " ++ t)) = .ok (Shape.ofAlternatives (shapes ++ others)) := by
  obtain ⟨front, hfront, hconvertible, hdescriptor⟩ := read_eq_ok_iff.mp hs
  obtain ⟨back, hback, hconvertible', hdescriptor'⟩ := read_eq_ok_iff.mp ht
  obtain ⟨shapes, hshapes, rfl⟩ := isDescriptor_iff.mp hdescriptor
  obtain ⟨others, hothers, rfl⟩ := isDescriptor_iff.mp hdescriptor'
  refine ⟨shapes, others, rfl, rfl, read_eq_ok_iff.mpr ?_⟩
  exact ⟨_, tokensOf_join hfront hback, by simp [hconvertible, hconvertible'], (hshapes.append hothers).isDescriptor⟩

/-- **A descriptor in parentheses with brackets behind it** describes the lists of what it describes. -/
theorem read_list (hs : read s = .ok shape) : read (txt "(" ++ (s ++ txt ")[]")) = .ok (.array shape) := by
  obtain ⟨tokens, htokens, hconvertible, hdescriptor⟩ := read_eq_ok_iff.mp hs
  have hlist : IsAlternative ((.symbol .opening :: tokens ++ [.symbol .closing]) ++ [.symbol .list]) (.array shape) :=
    .list (.primary (.parentheses hdescriptor))
  refine read_eq_ok_iff.mpr ⟨_, tokensOf_list htokens, by simp [hconvertible], ?_⟩
  simpa using IsDescriptor.alternative hlist

/-! ## What is accepted -/

/-- A descriptor that describes a shape. -/
def Accepted (descriptor : Text) : Prop :=
  ∃ shape, read descriptor = .ok shape

/-- Descriptors are accepted with a bar between them. -/
theorem Accepted.bar (hs : Accepted s) (ht : Accepted t) : Accepted (s ++ (txt " | " ++ t)) := by
  obtain ⟨shape, hshape⟩ := hs
  obtain ⟨other, hother⟩ := ht
  obtain ⟨shapes, others, -, -, hjoin⟩ := read_join hshape hother
  exact ⟨_, hjoin⟩

theorem Accepted.join {schemas : List Text} (hne : schemas ≠ []) (h : ∀ schema ∈ schemas, Accepted schema) :
    Accepted (Text.join (txt " | ") schemas) := by
  induction schemas with
  | nil => exact absurd rfl hne
  | cons schema schemas ih =>
    cases schemas with
    | nil => exact h schema List.mem_cons_self
    | cons second schemas =>
      rw [Text.join_cons _ _ (List.cons_ne_nil second schemas)]
      exact (h schema List.mem_cons_self).bar
        (ih (List.cons_ne_nil second schemas) fun other hmem => h other (List.mem_cons_of_mem schema hmem))

end Mixfix.Descriptor
