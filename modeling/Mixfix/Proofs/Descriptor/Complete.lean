import Mixfix.Proofs.Descriptor.Failure

/-!
# Reading exactly the grammar

The descriptors of the grammar are read, to the shapes that it tells (`IsDescriptor.readNested_eq`), as long as
their numbers are converted. With what `Reader` says of everything that is read, a text is read exactly if its
tokens are a descriptor whose numbers are converted (`read_eq_ok_iff`), and a number that is too long stops the reader
exactly where `Failure` says that it can (`read_eq_tooManyDigits_iff`). Where no number is too long, a descriptor is
accepted exactly if its tokens derive it, and the problem with any other text is told (`read_iff_derives`).
-/

set_option autoImplicit false

namespace Mixfix.Descriptor

variable {name digits : Text} {tokens rest : List Token} {shape : Shape} {lower upper : Option Bound}

/-! ## Primaries -/

theorem Describes.not_truth (h : Describes lower upper name shape) :
    (name == txt "true" || name == txt "false") = false := by
  cases h with
  | number => decide
  | integer => decide
  | string kind => cases kind <;> decide

theorem IsPlain.not_truth (h : IsPlain name shape) : (name == txt "true" || name == txt "false") = false := by
  cases h <;> decide

theorem readFromName_unbounded (hname : (name == txt "true" || name == txt "false") = false)
    (hshape : typeShape name .all = .ok shape) (hrest : comparison? rest = none) :
    readFromName name rest = .ok (shape, rest) := by
  unfold readFromName
  rw [hname, hrest, hshape]
  rfl

/-- A lower bound before the type. -/
theorem readPrimary_over (nested : List Token → Except ReadError (Reading Shape)) {low : Bound}
    {limit : Option Limit} (hlow : Converts low.digits)
    (hupper : readUpper tokens = .ok (limit, rest))
    (hshape : typeShape name ⟨some low.limit, limit⟩ = .ok shape) :
    readPrimary nested (low.token :: .symbol low.less :: .name name :: tokens) = .ok (shape, rest) := by
  simp only [readPrimary, Bound.token, numberOf_of_converts hlow, ok_bind, readFromNumber, comparison?_less]
  rw [isLess_less, if_pos rfl, hupper, ok_bind, less_eq_less]
  change typeShape name ⟨some low.limit, limit⟩ >>= _ = _
  rw [hshape]
  rfl

/-- A bound after the type. -/
theorem readPrimary_compared (nested : List Token → Except ReadError (Reading Shape)) {bound : Bound}
    {bounds : Bounds} {s : Symbol} (hbound : Converts bound.digits)
    (hname : (name == txt "true" || name == txt "false") = false)
    (hcomparison : comparison? (.symbol s :: bound.token :: rest) = some (s, bound.token :: rest))
    (hbounds : boundsRight s (numeral bound.digits) = bounds) (hshape : typeShape name bounds = .ok shape) :
    readPrimary nested (.name name :: .symbol s :: bound.token :: rest) = .ok (shape, rest) := by
  simp only [readPrimary, readFromName, hname, Bool.false_eq_true, if_false, hcomparison]
  simp only [Bound.token, readNumber_of_converts hbound, ok_bind, hbounds, hshape]
  rfl

/-- A type with bounds is read where its numbers are converted. -/
theorem readPrimary_bounded (nested : List Token → Except ReadError (Reading Shape))
    (hbounded : Bounded name lower upper tokens) (hdescribes : Describes lower upper name shape)
    (hconvertible : Convertible tokens) (hrest : comparison? rest = none) :
    readPrimary nested (tokens ++ rest) = .ok (shape, rest) := by
  have hshape := typeShape_eq_ok.mpr (.inl hdescribes)
  have hname := hdescribes.not_truth
  cases hbounded with
  | upper bound =>
    have hbound := hconvertible bound.digits (by simp [Bound.token])
    exact readPrimary_compared nested hbound hname (comparison?_less bound) (boundsRight_less bound) hshape
  | lower bound =>
    have hbound := hconvertible bound.digits (by simp [Bound.token])
    exact readPrimary_compared nested hbound hname (comparison?_greater bound) (boundsRight_greater bound) hshape
  | before bound =>
    have hbound := hconvertible bound.digits (by simp [Bound.token])
    have hupper : readUpper rest = .ok (none, rest) := by
      unfold readUpper
      rw [hrest]
    exact readPrimary_over nested hbound hupper hshape
  | between low high =>
    have hlow := hconvertible low.digits (by simp [Bound.token])
    have hhigh := hconvertible high.digits (by simp [Bound.token])
    have hupper : readUpper (.symbol high.less :: high.token :: rest) = .ok (some high.limit, rest) := by
      unfold readUpper
      rw [comparison?_less]
      dsimp only
      rw [isLess_less, if_pos rfl, less_eq_less, Bound.token, readNumber_of_converts hhigh]
      rfl
    exact readPrimary_over nested hlow hupper hshape

/-! ## Descriptors -/

/-- What stands after a descriptor: nothing, or the parenthesis that closes it. -/
def AtEnd (rest : List Token) : Prop :=
  ∀ token ∈ rest.head?, token = .symbol .closing

theorem AtEnd.comparison?_eq_none (h : AtEnd rest) : comparison? rest = none := by
  cases rest with
  | nil => rfl
  | cons token rest =>
    obtain rfl := h token rfl
    rfl

theorem AtEnd.readSuffixes_eq (h : AtEnd rest) (shape : Shape) : readSuffixes shape rest = (shape, rest) := by
  cases rest with
  | nil => rfl
  | cons token rest =>
    obtain rfl := h token rfl
    rfl

/-- One alternative at the end. -/
theorem readAlternatives_of_end {fuel : Nat} {primary : Shape} {after : List Token}
    (hprimary : readPrimary (readNested fuel) tokens = .ok (primary, after))
    (hsuffixes : readSuffixes primary after = readSuffixes shape rest) (hrest : AtEnd rest) :
    readAlternatives (fuel + 1) tokens = .ok ([shape], rest) := by
  rw [hrest.readSuffixes_eq] at hsuffixes
  change (readPrimary (readNested fuel) tokens >>= _) = _
  rw [hprimary, ok_bind]
  dsimp only
  rw [hsuffixes]
  cases rest with
  | nil => rfl
  | cons token rest =>
    obtain rfl := hrest token rfl
    rfl

/-- An alternative before a bar. -/
theorem readAlternatives_of_bar {fuel : Nat} {primary : Shape} {shapes : List Shape} {after : List Token}
    {others : List Token} (hprimary : readPrimary (readNested fuel) tokens = .ok (primary, after))
    (hsuffixes : readSuffixes primary after = readSuffixes shape (.symbol .bar :: others))
    (hothers : readAlternatives fuel others = .ok (shapes, rest)) :
    readAlternatives (fuel + 1) tokens = .ok (shape :: shapes, rest) := by
  change (readPrimary (readNested fuel) tokens >>= _) = _
  rw [hprimary, ok_bind]
  dsimp only
  rw [hsuffixes]
  change (readAlternatives fuel others >>= _) = _
  rw [hothers]
  rfl

-- The induction is on the number of tokens, and where it stays the same on the rules of the grammar in their
-- order. An alternative is read up to the brackets behind it: it does not matter how many of them the derivation
-- has taken, since the reader takes them all.
mutual

theorem IsDescriptor.readNested_eq {tokens : List Token} {shape : Shape} (h : IsDescriptor tokens shape)
    (hconvertible : Convertible tokens) {fuel : Nat} (hfuel : tokens.length < fuel) {rest : List Token}
    (hrest : AtEnd rest) : readNested fuel (tokens ++ rest) = .ok (shape, rest) := by
  cases h with
  | alternative h =>
    obtain ⟨fuel, rfl⟩ := Nat.exists_eq_add_one_of_ne_zero (Nat.ne_zero_of_lt hfuel)
    obtain ⟨primary, after, hprimary, hsuffixes⟩ :=
      h.exists_readPrimary hconvertible (Nat.le_of_lt_succ hfuel) hrest.comparison?_eq_none
    unfold readNested
    rw [readAlternatives_of_end hprimary hsuffixes hrest]
    rfl
  | union h =>
    unfold readNested
    rw [h.readAlternatives_eq hconvertible hfuel hrest]
    rfl
termination_by (tokens.length, 3)

theorem AreAlternatives.readAlternatives_eq {tokens : List Token} {shapes : List Shape}
    (h : AreAlternatives tokens shapes) (hconvertible : Convertible tokens) {fuel : Nat} (hfuel : tokens.length < fuel)
    {rest : List Token} (hrest : AtEnd rest) : readAlternatives fuel (tokens ++ rest) = .ok (shapes, rest) := by
  obtain ⟨fuel, rfl⟩ := Nat.exists_eq_add_one_of_ne_zero (Nat.ne_zero_of_lt hfuel)
  cases h with
  | one h =>
    obtain ⟨primary, after, hprimary, hsuffixes⟩ :=
      h.exists_readPrimary hconvertible (Nat.le_of_lt_succ hfuel) hrest.comparison?_eq_none
    exact readAlternatives_of_end hprimary hsuffixes hrest
  | @more first others shape shapes hfirst hothers =>
    have hlength : first.length + (others.length + 1) < fuel + 1 := by
      rwa [List.length_append, List.length_cons] at hfuel
    obtain ⟨hconvertibleFirst, hconvertibleOthers⟩ := convertible_append.mp hconvertible
    obtain ⟨primary, after, hprimary, hsuffixes⟩ := hfirst.exists_readPrimary hconvertibleFirst
      (show first.length ≤ fuel by omega) (show comparison? (.symbol .bar :: (others ++ rest)) = none from rfl)
    have hmore := hothers.readAlternatives_eq (convertible_symbol.mp hconvertibleOthers)
      (show others.length < fuel by omega) hrest
    rw [List.append_assoc]
    exact readAlternatives_of_bar hprimary hsuffixes hmore
termination_by (tokens.length, 2)

theorem IsAlternative.exists_readPrimary {tokens : List Token} {shape : Shape} (h : IsAlternative tokens shape)
    (hconvertible : Convertible tokens) {fuel : Nat} (hfuel : tokens.length ≤ fuel) {rest : List Token}
    (hrest : comparison? rest = none) :
    ∃ primary after, readPrimary (readNested fuel) (tokens ++ rest) = .ok (primary, after) ∧
      readSuffixes primary after = readSuffixes shape rest := by
  cases h with
  | primary h => exact ⟨shape, rest, h.readPrimary_eq hconvertible hfuel hrest, rfl⟩
  | @list tokens shape h =>
    have hfront : Convertible tokens := (convertible_append.mp hconvertible).1
    have hlength : tokens.length ≤ fuel := by
      rw [List.length_append] at hfuel
      omega
    rw [List.append_assoc]
    exact h.exists_readPrimary hfront hlength (show comparison? (.symbol .list :: rest) = none from rfl)
termination_by (tokens.length, 1)

theorem IsPrimary.readPrimary_eq {tokens : List Token} {shape : Shape} (h : IsPrimary tokens shape)
    (hconvertible : Convertible tokens) {fuel : Nat} (hfuel : tokens.length ≤ fuel) {rest : List Token}
    (hrest : comparison? rest = none) :
    readPrimary (readNested fuel) (tokens ++ rest) = .ok (shape, rest) := by
  cases h with
  | @parentheses tokens shape h =>
    have hinside : Convertible tokens := by simpa using hconvertible
    have hlength : tokens.length < fuel := by
      rw [List.length_append, List.length_cons] at hfuel
      omega
    have hclosing : AtEnd (.symbol .closing :: rest) := by
      intro token htoken
      exact (Option.some.inj htoken).symm
    have hinner := h.readNested_eq hinside hlength hclosing
    rw [List.append_assoc]
    change (readNested fuel (tokens ++ .symbol .closing :: rest) >>= _) = _
    rw [hinner]
    rfl
  | quoted source => rfl
  | number digits =>
    have hdigits := hconvertible digits (List.mem_singleton_self _)
    change (numberOf digits >>= fun value => readFromNumber value rest) = _
    rw [numberOf_of_converts hdigits, ok_bind, readFromNumber, hrest]
  | true => rfl
  | false => rfl
  | plain hplain =>
    exact readFromName_unbounded hplain.not_truth (typeShape_eq_ok.mpr (.inr ⟨rfl, rfl, hplain⟩)) hrest
  | unbounded hdescribes =>
    exact readFromName_unbounded hdescribes.not_truth (typeShape_eq_ok.mpr (.inl hdescribes)) hrest
  | bounded hbounded hdescribes => exact readPrimary_bounded _ hbounded hdescribes hconvertible hrest
termination_by (tokens.length, 0)

end

/-! ## Numbers that are too long -/

theorem numberOf_of_long (h : ¬Converts digits) : numberOf digits = .error .tooManyDigits :=
  numberOf_eq_error.mpr ⟨rfl, h⟩

theorem readNumber_of_long (h : ¬Converts digits) (rest : List Token) :
    readNumber (.number digits :: rest) = .error .tooManyDigits := by
  unfold readNumber
  dsimp only
  rw [numberOf_of_long h]
  rfl

theorem Symbol.IsComparison.comparison?_eq {s : Symbol} (h : s.IsComparison) (rest : List Token) :
    comparison? (.symbol s :: rest) = some (s, rest) := by
  rcases h with (rfl | rfl) | rfl | rfl <;> rfl

theorem Symbol.IsLess.decide_eq_true {s : Symbol} (h : s.IsLess) :
    (decide (s = .less) || decide (s = .lessEqual)) = true := by
  rcases h with rfl | rfl <;> rfl

theorem readAlternatives_of_error {fuel : Nat} {e : ReadError}
    (h : readPrimary (readNested fuel) tokens = .error e) : readAlternatives (fuel + 1) tokens = .error e := by
  change (readPrimary (readNested fuel) tokens >>= _) = _
  rw [h]
  rfl

/-- **A number that is too long stops the reader where one is awaited.** -/
theorem AwaitsNumber.readAlternatives_eq {front : List Token} (h : AwaitsNumber front)
    (hconvertible : Convertible front) (hlong : ¬Converts digits) {fuel : Nat} (hfuel : front.length ≤ fuel) :
    readAlternatives (fuel + 1) (front ++ .number digits :: rest) = .error .tooManyDigits := by
  induction h generalizing fuel with
  | primary =>
    refine readAlternatives_of_error ?_
    change (numberOf digits >>= _) = _
    rw [numberOf_of_long hlong]
    rfl
  | @parentheses front _ ih =>
    obtain ⟨fuel, rfl⟩ := Nat.exists_eq_add_one_of_ne_zero (Nat.ne_zero_of_lt hfuel)
    have hinside := ih (convertible_symbol.mp hconvertible) (Nat.le_of_succ_le_succ hfuel)
    refine readAlternatives_of_error ?_
    change ((readAlternatives (fuel + 1) (front ++ .number digits :: rest) >>= _) >>= _) = _
    rw [hinside]
    rfl
  | @alternative first front shape hfirst _ ih =>
    obtain ⟨hbefore, hafter⟩ := convertible_append.mp hconvertible
    rw [List.length_append, List.length_cons] at hfuel
    obtain ⟨fuel, rfl⟩ := Nat.exists_eq_add_one_of_ne_zero (show fuel ≠ 0 by omega)
    obtain ⟨primary, after, hprimary, hsuffixes⟩ := hfirst.exists_readPrimary hbefore
      (show first.length ≤ fuel + 1 by omega)
      (show comparison? (.symbol .bar :: (front ++ .number digits :: rest)) = none from rfl)
    have hothers := ih (convertible_symbol.mp hafter) (show front.length ≤ fuel by omega)
    rw [List.append_assoc]
    change (readPrimary (readNested (fuel + 1)) (first ++ .symbol .bar :: (front ++ .number digits :: rest)) >>= _) = _
    rw [hprimary, ok_bind]
    dsimp only
    rw [hsuffixes]
    change (readAlternatives (fuel + 1) (front ++ .number digits :: rest) >>= _) = _
    rw [hothers]
    rfl
  | @bound name s htrue hfalse hs =>
    refine readAlternatives_of_error ?_
    have hname : (name == txt "true" || name == txt "false") = false := by simp [htrue, hfalse]
    change readFromName name (.symbol s :: .number digits :: rest) = _
    unfold readFromName
    rw [hname, if_neg Bool.false_ne_true, hs.comparison?_eq]
    dsimp only
    rw [readNumber_of_long hlong]
    rfl
  | @upperBound number name s t hs ht =>
    refine readAlternatives_of_error ?_
    have hnumber := (convertible_number.mp hconvertible).1
    have hupper : readUpper (.symbol t :: .number digits :: rest) = .error .tooManyDigits := by
      unfold readUpper
      rw [Symbol.IsComparison.comparison?_eq (.inl ht)]
      dsimp only
      rw [if_pos ht.decide_eq_true, readNumber_of_long hlong]
      rfl
    change (numberOf number >>= fun value =>
      readFromNumber value (.symbol s :: .name name :: .symbol t :: .number digits :: rest)) = _
    rw [numberOf_of_converts hnumber, ok_bind]
    unfold readFromNumber
    rw [Symbol.IsComparison.comparison?_eq (.inl hs)]
    dsimp only
    rw [if_pos hs.decide_eq_true, hupper]
    rfl

/-! ## Reading a descriptor -/

/-- A text is a descriptor, of a shape, where its tokens are one. -/
def Derives (descriptor : Text) (shape : Shape) : Prop :=
  ∃ tokens, tokenize descriptor.length descriptor = .ok tokens ∧ IsDescriptor tokens shape

theorem IsDescriptor.ne_nil (h : IsDescriptor tokens shape) : tokens ≠ [] := by
  rintro rfl
  have hread : readNested 1 ([] ++ []) = .ok (shape, []) := h.readNested_eq convertible_nil Nat.one_pos nofun
  cases hread

variable {descriptor : Text}

/-- **What is read**: the descriptors whose numbers are converted, with nothing after them. -/
theorem read_eq_ok_iff : read descriptor = .ok shape ↔
    ∃ tokens, tokenize descriptor.length descriptor = .ok tokens ∧ Convertible tokens ∧
      IsDescriptor tokens shape := by
  constructor
  · intro h
    unfold read at h
    split at h
    · cases h
    · cases h
    · rename_i tokens hne htokens
      obtain ⟨⟨shapes, rest⟩, hshapes, hrest⟩ := bind_eq_ok.mp h
      obtain ⟨front, rfl, halternatives, hconvertible⟩ := readAlternatives_eq_ok hshapes
      dsimp only at hrest
      split at hrest
      · cases hrest
        rw [List.append_nil] at htokens
        exact ⟨front, htokens, hconvertible, halternatives.isDescriptor⟩
      · cases hrest
  · rintro ⟨tokens, htokens, hconvertible, hdescriptor⟩
    have hnested := hdescriptor.readNested_eq hconvertible (Nat.lt_succ_self _) (show AtEnd [] from nofun)
    rw [List.append_nil] at hnested
    obtain ⟨⟨shapes, rest⟩, hshapes, h⟩ := bind_eq_ok.mp hnested
    cases h
    unfold read
    rw [htokens]
    cases tokens with
    | nil => exact absurd rfl hdescriptor.ne_nil
    | cons token tokens => exact bind_eq_ok.mpr ⟨_, hshapes, rfl⟩

/-- A number is too long to read on exactly where one is met that is. -/
theorem read_eq_tooManyDigits_iff : read descriptor = .error .tooManyDigits ↔ MeetsLongNumber descriptor := by
  constructor
  · intro h
    rcases read_eq_error h with ⟨problem, hproblem⟩ | ⟨-, hmeets⟩
    · cases hproblem
    · exact hmeets
  · rintro ⟨front, digits, rest, htokens, ⟨hawaits, hconvertible⟩, hlong⟩
    have hfuel : front.length ≤ (front ++ .number digits :: rest).length := by simp
    have hread : readAlternatives ((front ++ .number digits :: rest).length + 1) (front ++ .number digits :: rest) =
        .error .tooManyDigits := hawaits.readAlternatives_eq hconvertible hlong hfuel
    unfold read
    rw [htokens]
    cases hall : front ++ .number digits :: rest with
    | nil => exact absurd hall (by simp)
    | cons token tokens =>
      rw [hall] at hread
      dsimp only
      rw [hread]
      rfl

/-- **A descriptor has a shape exactly if its tokens derive it.** Where they derive none, the problem with the
descriptor is told. -/
theorem read_iff_derives
    (hshort : ∀ tokens, tokenize descriptor.length descriptor = .ok tokens → ShortNumbers tokens) :
    (∀ shape, read descriptor = .ok shape ↔ Derives descriptor shape) ∧
      ((¬∃ shape, Derives descriptor shape) → ∃ problem, read descriptor = .error (.malformed problem)) := by
  have hread : ∀ shape, read descriptor = .ok shape ↔ Derives descriptor shape := by
    intro shape
    rw [read_eq_ok_iff]
    constructor
    · rintro ⟨tokens, htokens, -, hdescriptor⟩
      exact ⟨tokens, htokens, hdescriptor⟩
    · rintro ⟨tokens, htokens, hdescriptor⟩
      exact ⟨tokens, htokens, (hshort tokens htokens).convertible, hdescriptor⟩
  refine ⟨hread, fun hnone => ?_⟩
  cases hresult : read descriptor with
  | ok shape => exact absurd ⟨shape, (hread shape).mp hresult⟩ hnone
  | error e =>
    rcases read_eq_error hresult with ⟨problem, rfl⟩ | ⟨-, front, digits, rest, htokens, -, hlong⟩
    · exact ⟨problem, rfl⟩
    · exact absurd ((hshort _ htokens).convertible digits (by simp)) hlong

/-- A list of a range or a word, or else some letters. -/
theorem read_iff_derives_choice :
    read (txt "(0 < number <= 1.5 | 'a|b')[] | string.alpha >= 3") =
      .ok (.union [
        .array (.union [
          .number false ⟨some ⟨.int 0, true⟩, some ⟨.real (Binary64.readDecimal (txt "1.5")), false⟩⟩,
          .literal (.str (txt "a|b"))]),
        .text .alpha (some 3) none]) := by
  let descriptor := txt "(0 < number <= 1.5 | 'a|b')[] | string.alpha >= 3"
  let low : Bound := ⟨txt "0", true⟩
  let high : Bound := ⟨txt "1.5", false⟩
  let least : Bound := ⟨txt "3", false⟩
  let range : List Token := [low.token, .symbol low.less, .name (txt "number"), .symbol high.less, high.token]
  let word : List Token := [.quoted (txt "'a|b'")]
  let letters : List Token := [.name (txt "string.alpha"), .symbol least.greater, least.token]
  let tokens : List Token :=
    ((.symbol .opening :: (range ++ .symbol .bar :: word) ++ [.symbol .closing]) ++ [.symbol .list]) ++
      .symbol .bar :: letters
  have htokens : tokenize descriptor.length descriptor = .ok tokens :=
    eq_ok_of_toOption (by decide +kernel)
  have hshort : ∀ read, tokenize descriptor.length descriptor = .ok read → ShortNumbers read := by
    intro read hread digits hmem
    have hall : (tokens.all fun token => decide (Decimal.digitCount token.text ≤ Decimal.digitLimit)) = true := by
      decide +kernel
    obtain rfl := Except.ok.inj (htokens.symm.trans hread)
    exact of_decide_eq_true (List.all_eq_true.mp hall _ hmem)
  have hrange : IsPrimary range (.number false ⟨some low.limit, some high.limit⟩) :=
    .bounded (.between low high) .number
  have hword : IsPrimary word (.literal (.str (txt "a|b"))) := .quoted (txt "'a|b'")
  have hletters : IsPrimary letters (.text .alpha (some 3) none) :=
    .bounded (.lower least) (.string .alpha (by decide))
  have hchoice := IsDescriptor.union (.more (.primary hrange) (.one (.primary hword)))
  have hlist := IsAlternative.list (.primary (.parentheses hchoice))
  have hunion := IsDescriptor.union (.more hlist (.one (.primary hletters)))
  exact ((read_iff_derives hshort).1 _).mpr ⟨tokens, htokens, hunion⟩

/-- An upper bound is no lower one. -/
example : read (txt "1 < number > 2") = .error (.malformed (.upperBound (txt ">"))) := by rfl

end Mixfix.Descriptor
