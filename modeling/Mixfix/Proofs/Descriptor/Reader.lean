import Mathlib.Tactic.SplitIfs
import Mixfix.Proofs.Descriptor.Grammar
import Mixfix.Proofs.Except

/-!
# What is read of a descriptor

What each reader accepts, and the shape it gives for it. Together they accept only what is of the grammar
(`readAlternatives_eq_ok`).
-/

set_option autoImplicit false

namespace Mixfix.Descriptor

variable {name digits : Text} {tokens rest : List Token} {shape : Shape} {lower upper : Option Bound}

/-! ## Types -/

theorem textClass?_eq_some {kind : TextClass} : textClass? name = some kind ↔ name = kind.typeName := by
  constructor
  · intro h
    unfold textClass? at h
    split_ifs at h with hany halpha halphanumeric hdigits hlower hupper huuid <;> cases h
    · exact beq_iff_eq.mp hany
    · exact beq_iff_eq.mp halpha
    · exact beq_iff_eq.mp halphanumeric
    · exact beq_iff_eq.mp hdigits
    · exact beq_iff_eq.mp hlower
    · exact beq_iff_eq.mp hupper
    · exact beq_iff_eq.mp huuid
  · rintro rfl
    cases kind <;> decide

theorem plainShape?_eq_some : plainShape? name = some shape ↔ IsPlain name shape := by
  constructor
  · intro h
    unfold plainShape? at h
    split_ifs at h with hboolean hnull hundefined hanything hemail hurl <;> cases h
    · exact beq_iff_eq.mp hboolean ▸ .boolean
    · exact beq_iff_eq.mp hnull ▸ .null
    · exact beq_iff_eq.mp hundefined ▸ .undefined
    · rcases (Bool.or_eq_true _ _).mp hanything with hunknown | hany
      · exact beq_iff_eq.mp hunknown ▸ .unknown
      · exact beq_iff_eq.mp hany ▸ .any
    · exact beq_iff_eq.mp hemail ▸ .email
    · exact beq_iff_eq.mp hurl ▸ .url
  · intro h
    cases h <;> rfl

/-- A bound on a length is an integer. -/
theorem lengthLimit_eq_ok {bound : Bound} {step n : Int} :
    lengthLimit step bound.limit = .ok n ↔ hasPoint bound.digits = false ∧
      (if bound.strict then Decimal.toInt bound.digits + step else Decimal.toInt bound.digits) = n := by
  unfold lengthLimit Bound.limit numeral
  cases hasPoint bound.digits with
  | true => simp
  | false => simp

/-- There is a limit on lengths where there is a bound. -/
theorem mapM_lengthLimit {bound : Option Bound} {step : Int} {limit : Option Int} :
    (bound.map Bound.limit).mapM (lengthLimit step) = .ok limit ↔
      (∀ b ∈ bound.toList, hasPoint b.digits = false) ∧
        (bound.map fun b =>
          if b.strict then Decimal.toInt b.digits + step else Decimal.toInt b.digits) = limit := by
  cases bound with
  | none =>
    change Except.ok none = .ok limit ↔ _
    simp
  | some b =>
    change (lengthLimit step b.limit).map some = .ok limit ↔ _
    simp only [map_eq_ok, lengthLimit_eq_ok, Option.toList_some, List.forall_mem_singleton, Option.map_some]
    constructor
    · rintro ⟨n, ⟨hpoint, rfl⟩, rfl⟩
      exact ⟨hpoint, rfl⟩
    · rintro ⟨hpoint, rfl⟩
      exact ⟨_, ⟨hpoint, rfl⟩, rfl⟩

/-- Classes of strings limit the lengths, by integers. -/
theorem typeShape_of_string {kind : TextClass} :
    typeShape kind.typeName ⟨lower.map Bound.limit, upper.map Bound.limit⟩ = .ok shape ↔
      (∀ bound ∈ lower.toList ++ upper.toList, hasPoint bound.digits = false) ∧
        shape = .text kind (lower.map Bound.leastLength) (upper.map Bound.greatestLength) := by
  have hnumber : (kind.typeName == txt "number") = false := by cases kind <;> decide
  have hinteger : (kind.typeName == txt "number.integer") = false := by cases kind <;> decide
  unfold typeShape
  rw [hnumber, hinteger, textClass?_eq_some.mpr rfl]
  simp only [Bool.false_eq_true, if_false, bind_eq_ok, mapM_lengthLimit]
  constructor
  · rintro ⟨least, ⟨hlower, rfl⟩, most, ⟨hupper, rfl⟩, h⟩
    cases h
    exact ⟨List.forall_mem_append.mpr ⟨hlower, hupper⟩, rfl⟩
  · rintro ⟨hwhole, rfl⟩
    obtain ⟨hlower, hupper⟩ := List.forall_mem_append.mp hwhole
    exact ⟨_, ⟨hlower, rfl⟩, _, ⟨hupper, rfl⟩, rfl⟩

theorem isEmpty_limits :
    (Bounds.limits ⟨lower.map Bound.limit, upper.map Bound.limit⟩).isEmpty = true ↔
      lower = none ∧ upper = none := by
  cases lower <;> cases upper <;> simp [Bounds.limits]

/-- **A type with bounds has a shape exactly if the grammar describes one.** -/
theorem typeShape_eq_ok :
    typeShape name ⟨lower.map Bound.limit, upper.map Bound.limit⟩ = .ok shape ↔
      Describes lower upper name shape ∨ lower = none ∧ upper = none ∧ IsPlain name shape := by
  constructor
  · intro h
    cases hkind : textClass? name with
    | some kind =>
      obtain rfl := textClass?_eq_some.mp hkind
      obtain ⟨hwhole, rfl⟩ := typeShape_of_string.mp h
      exact .inl (.string kind hwhole)
    | none =>
      unfold typeShape at h
      rw [hkind] at h
      dsimp only at h
      split_ifs at h with hnumber hinteger hnone
      · cases h
        exact .inl (beq_iff_eq.mp hnumber ▸ .number)
      · cases h
        exact .inl (beq_iff_eq.mp hinteger ▸ .integer)
      · split at h
        · rename_i plain hplain
          cases h
          obtain ⟨hlower, hupper⟩ := isEmpty_limits.mp hnone
          exact .inr ⟨hlower, hupper, plainShape?_eq_some.mp hplain⟩
        · cases h
      · split at h <;> cases h
  · rintro (h | ⟨rfl, rfl, h⟩)
    · cases h with
      | number => rfl
      | integer => rfl
      | string kind hwhole => exact typeShape_of_string.mpr ⟨hwhole, rfl⟩
    · cases h <;> rfl

/-! ## Numbers -/

/-- A number is converted if it is written with a fraction, or with no more digits than are converted. -/
def Converts (digits : Text) : Prop :=
  hasPoint digits = true ∨ Decimal.digitCount digits ≤ Decimal.digitLimit

/-- Every number among some tokens is converted. -/
def Convertible (tokens : List Token) : Prop :=
  ∀ digits, .number digits ∈ tokens → Converts digits

@[simp] theorem convertible_nil : Convertible [] := nofun

theorem convertible_cons {token : Token} : Convertible (token :: tokens) ↔
    (∀ digits, token = .number digits → Converts digits) ∧ Convertible tokens := by
  constructor
  · intro h
    refine ⟨?_, fun digits hmem => h digits (List.mem_cons_of_mem token hmem)⟩
    rintro digits rfl
    exact h digits List.mem_cons_self
  · rintro ⟨hfirst, hrest⟩ digits hmem
    rcases List.mem_cons.mp hmem with heq | hmem
    · exact hfirst digits heq.symm
    · exact hrest digits hmem

@[simp] theorem convertible_number : Convertible (.number digits :: tokens) ↔ Converts digits ∧ Convertible tokens := by
  simp [convertible_cons]

@[simp] theorem convertible_symbol {s : Symbol} : Convertible (.symbol s :: tokens) ↔ Convertible tokens := by
  simp [convertible_cons]

@[simp] theorem convertible_name : Convertible (.name name :: tokens) ↔ Convertible tokens := by
  simp [convertible_cons]

@[simp] theorem convertible_quoted {source : Text} :
    Convertible (.quoted source :: tokens) ↔ Convertible tokens := by
  simp [convertible_cons]

@[simp] theorem convertible_append : Convertible (tokens ++ rest) ↔ Convertible tokens ∧ Convertible rest := by
  simp [Convertible, or_imp, forall_and]

/-- No number among some tokens has more digits than are converted. -/
def ShortNumbers (tokens : List Token) : Prop :=
  ∀ digits, .number digits ∈ tokens → Decimal.digitCount digits ≤ Decimal.digitLimit

theorem ShortNumbers.convertible (h : ShortNumbers tokens) : Convertible tokens :=
  fun digits hmem => .inr (h digits hmem)

/-- A number is converted to what its digits write, or it has too many of them. -/
theorem numberOf_cases (digits : Text) :
    (Converts digits ∧ numberOf digits = .ok (numeral digits)) ∨
      (¬Converts digits ∧ numberOf digits = .error .tooManyDigits) := by
  unfold Converts numberOf numeral Decimal.readInt
  change _ ∧ (if hasPoint digits = true then _ else _) = _ ∨ _ ∧ (if hasPoint digits = true then _ else _) = _
  by_cases hpoint : hasPoint digits = true
  · simp [hpoint]
  · by_cases hshort : Decimal.digitCount digits ≤ Decimal.digitLimit
    · simp [hpoint, hshort]
    · simp [hpoint, hshort]

theorem numberOf_eq_ok {value : Number} : numberOf digits = .ok value ↔ Converts digits ∧ value = numeral digits := by
  rcases numberOf_cases digits with ⟨hconverts, h⟩ | ⟨hconverts, h⟩
  · simp [h, hconverts, eq_comm]
  · simp [h, hconverts]

theorem numberOf_eq_error {e : ReadError} :
    numberOf digits = .error e ↔ e = .tooManyDigits ∧ ¬Converts digits := by
  rcases numberOf_cases digits with ⟨hconverts, h⟩ | ⟨hconverts, h⟩
  · simp [h, hconverts]
  · simp [h, hconverts, eq_comm]

theorem numberOf_of_converts (h : Converts digits) : numberOf digits = .ok (numeral digits) :=
  numberOf_eq_ok.mpr ⟨h, rfl⟩

/-- A number is what its digits write. -/
theorem readNumber_eq_ok {value : Number} (h : readNumber tokens = .ok (value, rest)) :
    ∃ digits, tokens = .number digits :: rest ∧ value = numeral digits ∧ Converts digits := by
  cases tokens with
  | nil => cases h
  | cons token tokens =>
    cases token with
    | number digits =>
      obtain ⟨value', hvalue, h⟩ := bind_eq_ok.mp h
      cases h
      obtain ⟨hconverts, rfl⟩ := numberOf_eq_ok.mp hvalue
      exact ⟨digits, rfl, rfl, hconverts⟩
    | quoted source => cases h
    | name s => cases h
    | symbol s => cases h

theorem readNumber_of_converts (h : Converts digits) (rest : List Token) :
    readNumber (.number digits :: rest) = .ok (numeral digits, rest) := by
  unfold readNumber
  dsimp only
  rw [numberOf_of_converts h]
  rfl

/-! ## Comparisons -/

theorem comparison?_eq_some {s : Symbol} (h : comparison? tokens = some (s, rest)) :
    tokens = .symbol s :: rest ∧
      ((∃ strict, s = Bound.less ⟨[], strict⟩) ∨ ∃ strict, s = Bound.greater ⟨[], strict⟩) := by
  unfold comparison? at h
  split at h
  · split at h <;> cases h
    · exact ⟨rfl, .inl ⟨true, rfl⟩⟩
    · exact ⟨rfl, .inl ⟨false, rfl⟩⟩
    · exact ⟨rfl, .inr ⟨true, rfl⟩⟩
    · exact ⟨rfl, .inr ⟨false, rfl⟩⟩
  · cases h

@[simp] theorem comparison?_less (bound : Bound) :
    comparison? (.symbol bound.less :: rest) = some (bound.less, rest) := by
  unfold Bound.less
  split <;> rfl

@[simp] theorem comparison?_greater (bound : Bound) :
    comparison? (.symbol bound.greater :: rest) = some (bound.greater, rest) := by
  unfold Bound.greater
  split <;> rfl

@[simp] theorem isLess_less (bound : Bound) :
    (decide (bound.less = .less) || decide (bound.less = .lessEqual)) = true := by
  unfold Bound.less
  split <;> rfl

@[simp] theorem isLess_greater (bound : Bound) :
    (decide (bound.greater = .less) || decide (bound.greater = .lessEqual)) = false := by
  unfold Bound.greater
  split <;> rfl

@[simp] theorem less_eq_less (bound : Bound) : decide (bound.less = .less) = bound.strict := by
  unfold Bound.less
  cases bound.strict <;> rfl

@[simp] theorem boundsRight_less (bound : Bound) :
    boundsRight bound.less (numeral bound.digits) = ⟨none, some bound.limit⟩ := by
  unfold Bound.less Bound.limit
  cases bound.strict <;> rfl

@[simp] theorem boundsRight_greater (bound : Bound) :
    boundsRight bound.greater (numeral bound.digits) = ⟨some bound.limit, none⟩ := by
  unfold Bound.greater Bound.limit
  cases bound.strict <;> rfl

/-! ## What is read is of the grammar -/

/-- The upper end of a range is absent, or a bound. -/
theorem readUpper_eq_ok {limit : Option Limit} (h : readUpper tokens = .ok (limit, rest)) :
    (limit = none ∧ tokens = rest) ∨
      ∃ bound : Bound, limit = some bound.limit ∧ tokens = .symbol bound.less :: bound.token :: rest ∧
        Converts bound.digits := by
  unfold readUpper at h
  split at h
  · cases h
    exact .inl ⟨rfl, rfl⟩
  · rename_i s after hcomparison
    obtain ⟨rfl, ⟨strict, rfl⟩ | ⟨strict, rfl⟩⟩ := comparison?_eq_some hcomparison
    · rw [isLess_less, if_pos rfl] at h
      obtain ⟨⟨value, after'⟩, hnumber, h⟩ := bind_eq_ok.mp h
      obtain ⟨digits, rfl, rfl, hconverts⟩ := readNumber_eq_ok hnumber
      cases h
      refine .inr ⟨⟨digits, strict⟩, ?_, rfl, hconverts⟩
      rw [less_eq_less]
      rfl
    · rw [isLess_greater, if_neg Bool.false_ne_true] at h
      cases h

/-- A type that has a bound is no plain one. -/
theorem describes_of_typeShape (hbound : ¬(lower = none ∧ upper = none))
    (h : typeShape name ⟨lower.map Bound.limit, upper.map Bound.limit⟩ = .ok shape) :
    Describes lower upper name shape := by
  rcases typeShape_eq_ok.mp h with hdescribes | ⟨hlower, hupper, -⟩
  · exact hdescribes
  · exact absurd ⟨hlower, hupper⟩ hbound

/-- What begins with a number is the number, or a type over this lower bound. -/
theorem readFromNumber_eq_ok (hconverts : Converts digits)
    (h : readFromNumber (numeral digits) tokens = .ok (shape, rest)) :
    ∃ front, .number digits :: tokens = front ++ rest ∧ IsPrimary front shape ∧ Convertible front := by
  unfold readFromNumber at h
  split at h
  · cases h
    exact ⟨[.number digits], rfl, .number digits, by simpa using hconverts⟩
  · rename_i s after hcomparison
    obtain ⟨rfl, ⟨strict, rfl⟩ | ⟨strict, rfl⟩⟩ := comparison?_eq_some hcomparison
    · rw [isLess_less, if_pos rfl] at h
      split at h
      · rename_i name after
        obtain ⟨⟨limit, after'⟩, hupper, h⟩ := bind_eq_ok.mp h
        obtain ⟨shape', hshape, h⟩ := bind_eq_ok.mp h
        cases h
        rw [less_eq_less] at hshape
        let low : Bound := ⟨digits, strict⟩
        rcases readUpper_eq_ok hupper with ⟨rfl, rfl⟩ | ⟨high, rfl, rfl, hhigh⟩
        · have hdescribes : Describes (some low) none name shape :=
            describes_of_typeShape (fun h => nomatch h.1) hshape
          exact ⟨_, rfl, .bounded (.before low) hdescribes, by simpa [Bound.token, low] using hconverts⟩
        · have hdescribes : Describes (some low) (some high) name shape :=
            describes_of_typeShape (fun h => nomatch h.1) hshape
          exact ⟨_, rfl, .bounded (.between low high) hdescribes, by simp [Bound.token, low, hconverts, hhigh]⟩
      · cases h
    · rw [isLess_greater, if_neg Bool.false_ne_true] at h
      cases h

/-- What begins with a name is a truth value, or a type with a bound or without. -/
theorem readFromName_eq_ok (h : readFromName name tokens = .ok (shape, rest)) :
    ∃ front, .name name :: tokens = front ++ rest ∧ IsPrimary front shape ∧ Convertible front := by
  unfold readFromName at h
  split_ifs at h with hword
  · cases h
    refine ⟨[.name name], rfl, ?_, by simp⟩
    rcases (Bool.or_eq_true _ _).mp hword with htrue | hfalse
    · obtain rfl := beq_iff_eq.mp htrue
      exact .true
    · obtain rfl := beq_iff_eq.mp hfalse
      exact .false
  · split at h
    · obtain ⟨shape', hshape, h⟩ := bind_eq_ok.mp h
      cases h
      refine ⟨[.name name], rfl, ?_, by simp⟩
      have hunbounded : typeShape name ⟨(none : Option Bound).map Bound.limit, (none : Option Bound).map Bound.limit⟩
          = .ok shape := hshape
      rcases typeShape_eq_ok.mp hunbounded with hdescribes | ⟨-, -, hplain⟩
      · exact .unbounded hdescribes
      · exact .plain hplain
    · rename_i s after hcomparison
      obtain ⟨⟨value, after'⟩, hnumber, h⟩ := bind_eq_ok.mp h
      obtain ⟨shape', hshape, h⟩ := bind_eq_ok.mp h
      cases h
      obtain ⟨digits, rfl, rfl, hconverts⟩ := readNumber_eq_ok hnumber
      obtain ⟨rfl, ⟨strict, rfl⟩ | ⟨strict, rfl⟩⟩ := comparison?_eq_some hcomparison
      · let bound : Bound := ⟨digits, strict⟩
        have hdescribes : Describes none (some bound) name shape :=
          describes_of_typeShape (fun h => nomatch h.2) (boundsRight_less bound ▸ hshape)
        exact ⟨_, rfl, .bounded (.upper bound) hdescribes, by simpa [Bound.token, bound] using hconverts⟩
      · let bound : Bound := ⟨digits, strict⟩
        have hdescribes : Describes (some bound) none name shape :=
          describes_of_typeShape (fun h => nomatch h.1) (boundsRight_greater bound ▸ hshape)
        exact ⟨_, rfl, .bounded (.lower bound) hdescribes, by simpa [Bound.token, bound] using hconverts⟩

/-- A primary is one of the grammar, where what stands in parentheses is. -/
theorem readPrimary_eq_ok {nested : List Token → Except ReadError (Reading Shape)}
    (hnested : ∀ {tokens shape rest}, nested tokens = .ok (shape, rest) →
      ∃ front, tokens = front ++ rest ∧ IsDescriptor front shape ∧ Convertible front)
    (h : readPrimary nested tokens = .ok (shape, rest)) :
    ∃ front, tokens = front ++ rest ∧ IsPrimary front shape ∧ Convertible front := by
  unfold readPrimary at h
  split at h
  · obtain ⟨⟨shape', after⟩, hinner, hclosing⟩ := bind_eq_ok.mp h
    obtain ⟨inner, rfl, hdescriptor, hconvertible⟩ := hnested hinner
    dsimp only at hclosing
    split at hclosing
    · cases hclosing
      refine ⟨.symbol .opening :: inner ++ [.symbol .closing], ?_, .parentheses hdescriptor, ?_⟩
      · simp
      · simpa using hconvertible
    · cases hclosing
  · rename_i source after
    cases h
    exact ⟨[.quoted source], rfl, .quoted source, by simp⟩
  · obtain ⟨value, hvalue, h⟩ := bind_eq_ok.mp h
    obtain ⟨hconverts, rfl⟩ := numberOf_eq_ok.mp hvalue
    exact readFromNumber_eq_ok hconverts h
  · exact readFromName_eq_ok h
  · cases h

/-- Any number of `[]` after an alternative makes an alternative. -/
theorem IsAlternative.readSuffixes {front : List Token} (h : IsAlternative front shape) (tokens : List Token) :
    ∃ brackets, tokens = brackets ++ (readSuffixes shape tokens).2 ∧
      IsAlternative (front ++ brackets) (readSuffixes shape tokens).1 ∧ Convertible brackets := by
  fun_induction Descriptor.readSuffixes shape tokens generalizing front with
  | case1 shape rest ih =>
    obtain ⟨brackets, heq, halternative, hbrackets⟩ := ih h.list
    refine ⟨.symbol .list :: brackets, ?_, ?_, ?_⟩
    · exact congrArg _ heq
    · rwa [List.append_assoc] at halternative
    · simpa using hbrackets
  | case2 shape tokens => exact ⟨[], rfl, by rwa [List.append_nil], convertible_nil⟩

/-- Alternatives make a descriptor, whether there are bars between them or only one of them. -/
theorem AreAlternatives.isDescriptor {shapes : List Shape} (h : AreAlternatives tokens shapes) :
    IsDescriptor tokens (Shape.ofAlternatives shapes) := by
  cases h with
  | one halternative => exact .alternative halternative
  | more hfirst hrest =>
    have hall := AreAlternatives.more hfirst hrest
    cases hrest with
    | one => exact .union hall
    | more => exact .union hall

/-- What stands in parentheses. -/
def readNested (fuel : Nat) (tokens : List Token) : Except ReadError (Reading Shape) := do
  let (shapes, rest) ← readAlternatives fuel tokens
  return (Shape.ofAlternatives shapes, rest)

/-- What is read in parentheses is a descriptor, where what is read as alternatives is alternatives. -/
theorem readNested_eq_ok {fuel : Nat}
    (halternatives : ∀ {tokens shapes rest}, readAlternatives fuel tokens = .ok (shapes, rest) →
      ∃ front, tokens = front ++ rest ∧ AreAlternatives front shapes ∧ Convertible front)
    (h : readNested fuel tokens = .ok (shape, rest)) :
    ∃ front, tokens = front ++ rest ∧ IsDescriptor front shape ∧ Convertible front := by
  obtain ⟨⟨shapes, after⟩, hshapes, heq⟩ := bind_eq_ok.mp h
  cases heq
  obtain ⟨front, rfl, hfront, hconvertible⟩ := halternatives hshapes
  exact ⟨front, rfl, hfront.isDescriptor, hconvertible⟩

/-- **What is read as alternatives is alternatives**, and its numbers are converted. -/
theorem readAlternatives_eq_ok {fuel : Nat} {shapes : List Shape}
    (h : readAlternatives fuel tokens = .ok (shapes, rest)) :
    ∃ front, tokens = front ++ rest ∧ AreAlternatives front shapes ∧ Convertible front := by
  induction fuel generalizing tokens shapes rest with
  | zero => cases h
  | succ fuel ih =>
    obtain ⟨⟨primary, after⟩, hprimary, hmore⟩ := bind_eq_ok.mp h
    obtain ⟨front, rfl, hisPrimary, hfront⟩ := readPrimary_eq_ok (readNested_eq_ok ih) hprimary
    obtain ⟨brackets, heq, halternative, hbrackets⟩ := (IsAlternative.primary hisPrimary).readSuffixes after
    dsimp only at hmore
    split at hmore
    · rename_i after' hbar
      obtain ⟨⟨shapes', after''⟩, hshapes, hall⟩ := bind_eq_ok.mp hmore
      cases hall
      obtain ⟨others, rfl, halternatives, hothers⟩ := ih hshapes
      refine ⟨(front ++ brackets) ++ .symbol .bar :: others, ?_, .more halternative halternatives, ?_⟩
      · rw [heq, hbar]
        simp
      · simp [hfront, hbrackets, hothers]
    · cases hmore
      refine ⟨front ++ brackets, by rw [List.append_assoc, ← heq], .one halternative, ?_⟩
      simp [hfront, hbrackets]

end Mixfix.Descriptor
