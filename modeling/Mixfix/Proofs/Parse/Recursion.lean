import Mathlib.Data.Finset.Prod
import Mathlib.Order.Monotone.Basic
import Mixfix.Proofs.Parse.Simulation

/-!
# The plain recursion

`Parse.plain` takes fuel by its definition. A parse that does not use its fuel up gives the same with more
(`parseFrom_mono`). And `depth` is enough fuel for a parse that ends with any: the parses inside of it are
those of so many ends of its text from so many levels, and each unit of fuel settles one of them at least, or
none of them from there on (`parseFrom_eq_plain`). So the plain parse satisfies the recursion that the engine is
about (`plain_eq`): the candidates in order, each matched element by element, with the plain parse itself for
its subexpressions. This holds of all grammars. A rule that begins with itself makes both sides endless.

`plain_induction` is how properties of parsed nodes are proved: what holds of the nodes of a rule whenever it
holds of the subexpressions parsed for it holds of all.
-/

set_option autoImplicit false

namespace Mixfix

namespace Parse

open Engine

variable {grammar : Grammar} {context : Context}

/-! ## More fuel -/

/-- One run has used up its fuel, or two runs are the same. What the second gives has a property. -/
structure Refines {α : Type} (Q : α → Prop) (x y : Except Interruption α) : Prop where
  same : x = .error .endlessRecursion ∨ x = y
  result : ∀ a, y = .ok a → Q a

theorem Refines.bind {α β : Type} {Q : α → Prop} {Q' : β → Prop} {x y : Except Interruption α}
    {f g : α → Except Interruption β} (h : Refines Q x y) (hfg : ∀ a, Q a → Refines Q' (f a) (g a)) :
    Refines Q' (x >>= f) (y >>= g) := by
  obtain ⟨hsame, hresult⟩ := h
  cases y with
  | error e =>
    refine ⟨?_, fun b hb => by cases hb⟩
    rcases hsame with rfl | rfl
    · exact .inl rfl
    · exact .inr rfl
  | ok a =>
    have hstep := hfg a (hresult a rfl)
    rcases hsame with rfl | rfl
    · exact ⟨.inl rfl, hstep.result⟩
    · exact hstep

/-- Runs that give the same up to fuel of either are the same. -/
theorem Refines.antisymm {α : Type} {Q : α → Prop} {x y : Except Interruption α} (h : Refines Q x y)
    (h' : Refines Q y x) : x = y := by
  rcases h.same with hx | hxy
  · rcases h'.same with hy | hyx
    · rw [hx, hy]
    · exact hyx.symm
  · exact hxy

/-- Plain runs, of which the first may use up its fuel. -/
def plainSimulation (source : Text) : Simulation plainHooks plainHooks source where
  Rel := Refines
  pure ha := ⟨.inr rfl, fun _ h => Except.ok.inj h ▸ ha⟩
  bind := Refines.bind
  interrupt _ := ⟨.inr rfl, nofun⟩
  reached _ _ := ⟨.inr rfl, fun _ _ => trivial⟩

/-- **More fuel changes nothing** unless the fuel is used up. -/
theorem parseFrom_mono {fuel more : Nat} (h : fuel ≤ more) (start : Nat) (s : Text) :
    Refines (Stays s) (parseFrom plainHooks grammar context fuel start s)
      (parseFrom plainHooks grammar context more start s) :=
  (plainSimulation s).parseFrom_rel_of_le (fun _ _ _ => rfl) (fun hx => ⟨.inl rfl, hx.result⟩) h start
    List.suffix_rfl

/-- A step is the same for parses that are the same. -/
theorem attempt_congr {p₁ p₂ : Nat → Text → Except Interruption Found} {start : Nat} {s : Text}
    (hstays : ∀ start t found, p₂ start t = .ok found → Stays t found)
    (h : ∀ start t, start ≤ grammar.length → t <:+ s → p₁ start t = p₂ start t) :
    attempt plainHooks p₁ grammar context start s = attempt plainHooks p₂ grammar context start s :=
  (plainSimulation s).attempt_congr Refines.antisymm (fun start t => ⟨.inr rfl, hstays start t⟩)
    List.suffix_rfl h

/-! ## Enough fuel -/

/-- Whether a run has used up its fuel. -/
def isEndless {α : Type} : Except Interruption α → Bool
  | .error .endlessRecursion => true
  | _ => false

theorem isEndless_iff {α : Type} {x : Except Interruption α} :
    isEndless x = true ↔ x = .error .endlessRecursion := by
  constructor
  · intro h
    unfold isEndless at h
    split at h
    · rfl
    · cases h
  · rintro rfl
    rfl

/-- The parses of ends of a text that come to an end with some fuel: the level that they start from, and how
much of the text is dropped before. -/
def settled (grammar : Grammar) (context : Context) (s : Text) (fuel : Nat) : Finset (Nat × Nat) :=
  (Finset.range (grammar.length + 1) ×ˢ Finset.range (s.length + 1)).filter fun parse =>
    !isEndless (parseFrom plainHooks grammar context fuel parse.1 (s.drop parse.2))

theorem mem_settled {s t : Text} (ht : t <:+ s) {fuel start : Nat} (hstart : start ≤ grammar.length) :
    (start, s.length - t.length) ∈ settled grammar context s fuel ↔
      parseFrom plainHooks grammar context fuel start t ≠ .error .endlessRecursion := by
  have hdropped : s.length - t.length < s.length + 1 := by omega
  simp only [settled, Finset.mem_filter, Finset.mem_product, Finset.mem_range,
    ← List.suffix_iff_eq_drop.mp ht, Nat.lt_succ_of_le hstart, hdropped, and_self, true_and,
    Bool.not_eq_true', ← Bool.not_eq_true, isEndless_iff, ne_eq]

theorem settled_mono (s : Text) : Monotone (settled grammar context s) := by
  intro fuel more h
  refine Finset.monotone_filter_right _ fun parse _ hends => ?_
  have hrefines : Refines _ (parseFrom plainHooks grammar context fuel parse.1 (s.drop parse.2)) _ :=
    parseFrom_mono h _ _
  rcases hrefines.same with hrun | hrun
  · rw [isEndless_iff.mpr hrun] at hends
    cases hends
  · rw [← hrun]
    exact hends

/-- Parses that one more unit of fuel brings to no end are the same with it. -/
theorem parseFrom_eq_of_settled_eq {s : Text} {fuel more : Nat} (hfuel : fuel ≤ more)
    (h : settled grammar context s fuel = settled grammar context s more) {start : Nat}
    (hstart : start ≤ grammar.length) {t : Text} (ht : t <:+ s) :
    parseFrom plainHooks grammar context fuel start t = parseFrom plainHooks grammar context more start t := by
  rcases (parseFrom_mono hfuel start t).same with hrun | hrun
  · have hends : (start, s.length - t.length) ∉ settled grammar context s fuel :=
      (mem_settled ht hstart).not.mpr (not_not.mpr hrun)
    rw [h, mem_settled ht hstart, not_not] at hends
    rw [hrun, hends]
  · exact hrun

/-- If a unit of fuel brings no parse to an end, the next one brings none either. -/
theorem card_settled_stable (s : Text) (fuel : Nat)
    (h : (settled grammar context s fuel).card = (settled grammar context s (fuel + 1)).card) :
    (settled grammar context s (fuel + 1)).card = (settled grammar context s (fuel + 2)).card := by
  have hsettled : settled grammar context s fuel = settled grammar context s (fuel + 1) :=
    Finset.eq_of_subset_of_card_le (settled_mono s (Nat.le_succ fuel)) (Nat.le_of_eq h.symm)
  have hstep : ∀ start dropped,
      parseFrom plainHooks grammar context (fuel + 1) start (s.drop dropped) =
        parseFrom plainHooks grammar context (fuel + 2) start (s.drop dropped) := fun start dropped =>
    attempt_congr (fun start t => (parseFrom_mono (Nat.le_refl (fuel + 1)) start t).result) fun start t hstart ht =>
      parseFrom_eq_of_settled_eq (Nat.le_succ fuel) hsettled hstart (ht.trans (List.drop_suffix dropped s))
  unfold settled
  simp only [hstep]

/-- One unit of fuel for each parse that there can be settles as many of them as any more. -/
theorem card_settled_eq (s : Text) {fuel : Nat} (h : (s.length + 1) * (grammar.length + 1) ≤ fuel) :
    (settled grammar context s fuel).card =
      (settled grammar context s ((s.length + 1) * (grammar.length + 1))).card := by
  have hbound : ∀ fuel, (settled grammar context s fuel).card ≤ (s.length + 1) * (grammar.length + 1) := by
    intro fuel
    refine (Finset.card_filter_le _ _).trans (Nat.le_of_eq ?_)
    rw [Finset.card_product, Finset.card_range, Finset.card_range, Nat.mul_comm]
  exact Nat.stabilises_of_monotone (fun _ _ hfuel => Finset.card_le_card (settled_mono s hfuel)) hbound
    (card_settled_stable s) h

/-- Where there is a level to start from, so much fuel gives what any more gives. -/
theorem parseFrom_eq_of_le {s : Text} {fuel start : Nat} (hstart : start ≤ grammar.length)
    (h : (s.length + 1) * (grammar.length + 1) ≤ fuel) :
    parseFrom plainHooks grammar context ((s.length + 1) * (grammar.length + 1)) start s =
      parseFrom plainHooks grammar context fuel start s := by
  have hsettled : settled grammar context s ((s.length + 1) * (grammar.length + 1)) =
      settled grammar context s fuel :=
    Finset.eq_of_subset_of_card_le (settled_mono s h) (Nat.le_of_eq (card_settled_eq s h))
  exact parseFrom_eq_of_settled_eq h hsettled hstart List.suffix_rfl

/-- There is nothing to try from beyond the last level. -/
theorem candidates_eq_nil {start : Nat} (h : grammar.length ≤ start) : candidates grammar start = [] := by
  rw [candidates, List.drop_eq_nil_of_le h]
  rfl

/-- **The fuel of a parse is enough.** From `depth` on, and with one unit less, all amounts of fuel give the
plain parse. -/
theorem parseFrom_eq_plain {fuel : Nat} {s : Text} (h : depth grammar s ≤ fuel + 1) (start : Nat) :
    parseFrom plainHooks grammar context fuel start s = plain grammar context start s := by
  have hfuel : (s.length + 1) * (grammar.length + 1) ≤ fuel := Nat.le_of_succ_le_succ h
  by_cases hstart : start ≤ grammar.length
  · exact (parseFrom_eq_of_le hstart hfuel).symm.trans (parseFrom_eq_of_le hstart (Nat.le_succ _))
  · have hrun : ∀ fuel, parseFrom plainHooks grammar context (fuel + 1) start s = .ok none := by
      intro fuel
      rw [parseFrom_succ]
      show firstSome _ (candidates grammar start) = _
      rw [candidates_eq_nil (Nat.le_of_not_le hstart)]
      rfl
    have hpos : 0 < (s.length + 1) * (grammar.length + 1) :=
      Nat.mul_pos (Nat.succ_pos _) (Nat.succ_pos _)
    obtain ⟨fuel, rfl⟩ := Nat.exists_eq_succ_of_ne_zero (Nat.ne_of_gt (Nat.lt_of_lt_of_le hpos hfuel))
    exact (hrun fuel).trans (hrun _).symm

/-- A match of a plain parse leaves an end of the text. -/
theorem plain_stays {start : Nat} {s : Text} {found : Found} (h : plain grammar context start s = .ok found) :
    Stays s found :=
  (parseFrom_mono (Nat.le_refl (depth grammar s)) start s).result found h

theorem depth_le_of_suffix {s t : Text} (h : t <:+ s) : depth grammar t ≤ depth grammar s :=
  Nat.succ_le_succ (Nat.mul_le_mul_right _ (Nat.succ_le_succ h.length_le))

/-- **The recursion that a plain parse is**: the first of the candidates whose elements all match, where
subexpressions are parsed in the same way. -/
theorem plain_eq (start : Nat) (s : Text) :
    plain grammar context start s =
      firstSome (fun (index, rule) => matchRule plainHooks (plain grammar context) context index rule s)
        (candidates grammar start) :=
  attempt_congr (fun _ _ _ h => plain_stays h) fun start _ _ ht =>
    parseFrom_eq_plain (depth_le_of_suffix ht) start

/-- What a rule of a level makes of a text. -/
def attemptRule (grammar : Grammar) (context : Context) (index : Nat) (rule : Rule) (s : Text) :
    Except Interruption Found :=
  matchRule plainHooks (plain grammar context) context index rule s

/-- An element leaves an end of the text. -/
theorem matchElement_stays {index : Nat} {kind : ElementKind} {s : Text} {r : Match Node}
    (h : matchElement plainHooks (plain grammar context) context index kind s = .ok (some r)) : r.rest <:+ s := by
  cases kind with
  | terminal t => exact Terminal.match?_suffix (matchElement_terminal.mp h)
  | subexpression role constraint => exact plain_stays (matchElement_subexpression.mp h).1 r rfl

/-- Elements in a row leave an end of the text. -/
theorem matchElements_stays {index : Nat} {pattern : List Element} {s : Text} {matched : Match (List Node)}
    (h : matchElements plainHooks (plain grammar context) context index pattern s = .ok (some matched)) :
    matched.rest <:+ s := by
  induction pattern generalizing s matched with
  | nil => exact matchElements_nil.mp h ▸ List.suffix_rfl
  | cons element pattern ih =>
    obtain ⟨first, others, hfirst, hothers, rfl⟩ := matchElements_cons.mp h
    exact (ih hothers).trans (matchElement_stays hfirst)

/-! ## Induction -/

/-- **Induction over plain parses**: the first match of the candidates has the property if all matches of
the parse of their subexpressions have it. -/
theorem plain_induction {P : Nat → Text → Match Node → Prop}
    (step : ∀ parse : Nat → Text → Except Interruption Found,
      (∀ start s r, parse start s = .ok (some r) → P start s r) →
      ∀ start s r, firstSome (fun (index, rule) => matchRule plainHooks parse context index rule s)
        (candidates grammar start) = .ok (some r) → P start s r)
    {start : Nat} {s : Text} {r : Match Node} (h : plain grammar context start s = .ok (some r)) :
    P start s r := by
  suffices hfuel : ∀ fuel start s r,
      parseFrom plainHooks grammar context fuel start s = .ok (some r) → P start s r from
    hfuel _ _ _ _ h
  intro fuel
  induction fuel with
  | zero =>
    intro start s r hparse
    cases hparse
  | succ fuel ih =>
    intro start s r hparse
    exact step _ ih start s r hparse

end Parse

end Mixfix
