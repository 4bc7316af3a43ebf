import Mixfix.Proofs.Text
import Mixfix.Token

/-!
# What scanners read

Each scanner skips blanks and then reads something, so what it leaves is a shorter end of the text
(`advances_of_number` and its companions). For numbers the reading is exact: `signedNumber?_eq_some`
says that a number is read where a numeral stands that does not go on, and that a point which no
fraction follows is swallowed after it.
-/

set_option autoImplicit false

namespace Mixfix

open Decimal (TooManyDigits)

/-! ## Numerals -/

/-- The notation of a number: an optional sign, digits, and digits after a point where there is one. -/
structure Numeral where
  negative : Bool
  whole : Text
  fraction : Text
  whole_ne_nil : whole ≠ []
  whole_digits : whole.all CodePoint.isDigit = true
  fraction_digits : fraction.all CodePoint.isDigit = true

namespace Numeral

/-- Digits after a point, or nothing where there are none. -/
def pointed : Text → Text
  | [] => []
  | d :: digits => '.' :: d :: digits

/-- The minus sign of a negative number. -/
def sign : Bool → Text
  | true => ['-']
  | false => []

/-- The text of a numeral. -/
def text (n : Numeral) : Text :=
  sign n.negative ++ (n.whole ++ pointed n.fraction)

/-- Whether a numeral has a point. -/
def isFractional (n : Numeral) : Bool :=
  !n.fraction.isEmpty

/-- A numeral does not go on in the text after it: neither with a digit nor, before its point, with a
point and a digit. -/
def StopsAt (n : Numeral) (tail : Text) : Prop :=
  tail.begins CodePoint.isDigit = false ∧ (n.fraction = [] → Scan.fraction? tail = none)

theorem text_ne_nil (n : Numeral) : n.text ≠ [] := by
  simp [text, n.whole_ne_nil]

end Numeral

namespace Scan

theorem isDigit_point : CodePoint.isDigit '.' = false := by decide

/-- A fraction is a point and a run of digits. -/
theorem fraction?_eq_some {s digits rest : Text} :
    fraction? s = some (digits, rest) ↔
      ∃ fraction : Text, fraction ≠ [] ∧ fraction.all CodePoint.isDigit = true ∧
        digits = Numeral.pointed fraction ∧ s = digits ++ rest ∧
        rest.begins CodePoint.isDigit = false := by
  constructor
  · intro h
    unfold fraction? at h
    split at h
    · rename_i p d tail
      split at h
      · rename_i hp
        rw [Bool.and_eq_true, decide_eq_true_eq] at hp
        cases h
        refine ⟨(d :: tail).takeWhile CodePoint.isDigit, ?_, List.all_takeWhile, ?_, ?_,
          Text.begins_dropWhile _ _⟩
        · simp [hp.2]
        · simp [hp.1, hp.2, Numeral.pointed]
        · simp
      · cases h
    · cases h
  · rintro ⟨fraction, hne, hall, rfl, rfl, hrest⟩
    cases fraction with
    | nil => exact absurd rfl hne
    | cons d fraction =>
      have hd : d.isDigit = true := by
        rw [List.all_cons, Bool.and_eq_true] at hall
        exact hall.1
      have hrun := Text.takeRun_of_all hall hrest
      rw [List.cons_append] at hrun
      simp [fraction?, Numeral.pointed, hd, hrun]

/-- No fraction is read where no point stands with a digit after it. -/
theorem fraction?_eq_none_of_point {s : Text} (h : s.begins (· == '.') = false) :
    fraction? s = none := by
  unfold fraction?
  split
  · rename_i p d tail
    have hp : ¬ p = '.' := by simpa using h
    simp [hp]
  · rfl

/-- Digits and a fraction that do not go on are read as they stand. -/
theorem unsignedNumber?_append {whole fraction tail : Text} (hne : whole ≠ [])
    (hwhole : whole.all CodePoint.isDigit = true) (hfraction : fraction.all CodePoint.isDigit = true)
    (hdigit : tail.begins CodePoint.isDigit = false) (hpoint : fraction = [] → fraction? tail = none) :
    unsignedNumber? (whole ++ (Numeral.pointed fraction ++ tail)) =
      some (whole ++ Numeral.pointed fraction, !fraction.isEmpty, swallowPoint tail) := by
  have hpointed : Text.begins CodePoint.isDigit (Numeral.pointed fraction ++ tail) = false := by
    cases fraction with
    | nil => exact hdigit
    | cons => exact isDigit_point
  have hrun := Text.takeRun_of_all hwhole hpointed
  cases whole with
  | nil => exact absurd rfl hne
  | cons d whole =>
    cases fraction with
    | nil =>
      have hnone := hpoint rfl
      simp only [Numeral.pointed, List.nil_append, List.append_nil] at hrun ⊢
      rw [unsignedNumber?, hrun]
      simp [hnone]
    | cons f fraction =>
      have hf : fraction? (Numeral.pointed (f :: fraction) ++ tail) =
          some (Numeral.pointed (f :: fraction), tail) :=
        fraction?_eq_some.mpr ⟨f :: fraction, List.cons_ne_nil _ _, hfraction, rfl, rfl, hdigit⟩
      rw [unsignedNumber?, hrun]
      simp [hf]

/-- The digits of a number are a run, and the fraction after it if there is one. -/
theorem unsignedNumber?_eq_some {s raw rest : Text} {fractional : Bool} :
    unsignedNumber? s = some (raw, fractional, rest) ↔
      ∃ (n : Numeral) (tail : Text), n.negative = false ∧ s = n.text ++ tail ∧ n.StopsAt tail ∧
        raw = n.text ∧ fractional = n.isFractional ∧ rest = swallowPoint tail := by
  constructor
  · intro h
    have hsplit := Text.takeRun_append CodePoint.isDigit s
    have hall : (Text.takeRun CodePoint.isDigit s).1.all CodePoint.isDigit = true :=
      List.all_takeWhile
    have hstop : Text.begins CodePoint.isDigit (Text.takeRun CodePoint.isDigit s).2 = false :=
      Text.begins_dropWhile _ _
    unfold unsignedNumber? at h
    generalize Text.takeRun CodePoint.isDigit s = run at h hsplit hall hstop
    obtain ⟨whole, after⟩ := run
    cases whole with
    | nil => cases h
    | cons d whole =>
      dsimp only at h hsplit hall hstop
      cases hf : fraction? after with
      | none =>
        rw [hf] at h
        cases h
        refine ⟨⟨false, d :: whole, [], List.cons_ne_nil _ _, hall, rfl⟩, after, rfl, ?_,
          ⟨hstop, fun _ => hf⟩, ?_, rfl, rfl⟩
        · simp [Numeral.text, Numeral.sign, Numeral.pointed, ← hsplit]
        · simp [Numeral.text, Numeral.sign, Numeral.pointed]
      | some found =>
        obtain ⟨digits, tail⟩ := found
        rw [hf] at h
        cases h
        obtain ⟨fraction, hne, hfraction, rfl, rfl, htail⟩ := fraction?_eq_some.mp hf
        refine ⟨⟨false, d :: whole, fraction, List.cons_ne_nil _ _, hall, hfraction⟩, tail, rfl, ?_,
          ⟨htail, fun h => absurd h hne⟩, rfl, ?_, rfl⟩
        · simp [Numeral.text, Numeral.sign, ← hsplit]
        · cases fraction with
          | nil => exact absurd rfl hne
          | cons => rfl
  · rintro ⟨⟨negative, whole, fraction, hne, hwhole, hfraction⟩, tail, hneg, rfl, hstop, rfl, rfl, rfl⟩
    dsimp only at hneg
    subst hneg
    have hread := unsignedNumber?_append hne hwhole hfraction hstop.1 hstop.2
    rwa [← List.append_assoc] at hread

/-- A number is a numeral that does not go on, and a point after it is swallowed. -/
theorem signedNumber?_eq_some {s raw rest : Text} {fractional : Bool} :
    signedNumber? s = some (raw, fractional, rest) ↔
      ∃ (n : Numeral) (tail : Text), s = n.text ++ tail ∧ n.StopsAt tail ∧
        raw = n.text ∧ fractional = n.isFractional ∧ rest = swallowPoint tail := by
  constructor
  · intro h
    cases s with
    | nil => cases h
    | cons c s =>
      by_cases hc : c = '-'
      · rw [signedNumber?, if_pos hc, Option.map_eq_some_iff] at h
        obtain ⟨⟨raw, fractional, rest⟩, hu, h⟩ := h
        cases h
        obtain ⟨n, tail, hn, rfl, hstop, rfl, rfl, rfl⟩ := unsignedNumber?_eq_some.mp hu
        refine ⟨{ n with negative := true }, tail, ?_, hstop, ?_, rfl, rfl⟩
        · simp [Numeral.text, Numeral.sign, hn, hc]
        · simp [Numeral.text, Numeral.sign, hn, hc]
      · rw [signedNumber?, if_neg hc] at h
        obtain ⟨n, tail, -, hs, hstop, hraw, hf, hrest⟩ := unsignedNumber?_eq_some.mp h
        exact ⟨n, tail, hs, hstop, hraw, hf, hrest⟩
  · rintro ⟨⟨negative, whole, fraction, hne, hwhole, hfraction⟩, tail, rfl, hstop, rfl, rfl, rfl⟩
    have hread := unsignedNumber?_append hne hwhole hfraction hstop.1 hstop.2
    rw [← List.append_assoc] at hread
    cases negative with
    | true =>
      show (unsignedNumber? (whole ++ Numeral.pointed fraction ++ tail)).map _ = _
      rw [hread]
      rfl
    | false =>
      cases whole with
      | nil => exact absurd rfl hne
      | cons d whole =>
        have hd : ¬ d = '-' := by
          rintro rfl
          rw [List.all_cons, Bool.and_eq_true] at hwhole
          exact absurd hwhole.1 (by decide)
        show (if d = '-' then _ else unsignedNumber? (d :: whole ++ Numeral.pointed fraction ++ tail)) = _
        rw [if_neg hd, hread]
        rfl

/-- A point is swallowed where no digit follows it, and nothing else is. -/
theorem swallowPoint_cases (s : Text) :
    swallowPoint s = s ∧ (∀ tail : Text, s = CodePoint.ofChar '.' :: tail → tail.begins CodePoint.isDigit = true) ∨
      s = CodePoint.ofChar '.' :: swallowPoint s ∧ (swallowPoint s).begins CodePoint.isDigit = false := by
  unfold swallowPoint
  split
  · rename_i hfraction
    obtain ⟨⟨digits, rest⟩, hf⟩ := Option.isSome_iff_exists.mp hfraction
    obtain ⟨fraction, hne, hall, rfl, rfl, -⟩ := fraction?_eq_some.mp hf
    obtain ⟨d, fraction, rfl⟩ := List.exists_cons_of_ne_nil hne
    refine .inl ⟨rfl, fun tail htail => ?_⟩
    cases htail
    rw [List.all_cons, Bool.and_eq_true] at hall
    exact hall.1
  · rename_i hfraction
    cases s with
    | nil => exact .inl ⟨rfl, nofun⟩
    | cons c rest =>
      dsimp only
      split
      · rename_i hc
        refine .inr ⟨by rw [hc], ?_⟩
        cases rest with
        | nil => rfl
        | cons d rest =>
          by_contra hd
          rw [Bool.not_eq_false, Text.begins_cons] at hd
          exact hfraction (by simp [fraction?, hc, hd])
      · rename_i hc
        exact .inl ⟨rfl, fun tail htail => absurd (List.cons.inj htail).1 hc⟩

theorem swallowPoint_suffix (s : Text) : swallowPoint s <:+ s := by
  rcases swallowPoint_cases s with ⟨h, -⟩ | ⟨h, -⟩
  · exact ⟨[], h⟩
  · exact ⟨[CodePoint.ofChar '.'], h.symm⟩

/-! ## Exact readings -/

/-- A number is a numeral after blanks whose value can be told. -/
theorem number_eq_ok_some {s : Text} {token : Token} :
    number s = .ok (some token) ↔
      ∃ (n : Numeral) (tail : Text) (value : Value), s.trimStart = n.text ++ tail ∧ n.StopsAt tail ∧
        numberValue n.text n.isFractional = .ok value ∧
        token = ⟨.number, n.text, value, swallowPoint tail⟩ := by
  constructor
  · intro h
    unfold number at h
    split at h
    · cases h
    · rename_i raw fractional rest hs
      obtain ⟨n, tail, htrim, hstop, rfl, rfl, rfl⟩ := signedNumber?_eq_some.mp hs
      cases hv : numberValue n.text n.isFractional with
      | error e => rw [hv] at h; cases h
      | ok value =>
        rw [hv] at h
        cases h
        exact ⟨n, tail, value, htrim, hstop, hv, rfl⟩
  · rintro ⟨n, tail, value, hs, hstop, hv, rfl⟩
    have hread : signedNumber? s.trimStart = some (n.text, n.isFractional, swallowPoint tail) :=
      signedNumber?_eq_some.mpr ⟨n, tail, hs, hstop, rfl, rfl, rfl⟩
    simp only [number, hread, hv]
    rfl

/-- What a string holds is the text up to the closing mark. -/
theorem splitAtMark?_append {mark s raw rest : Text} (h : splitAtMark? mark s = some (raw, rest)) :
    s = raw ++ (mark ++ rest) := by
  fun_induction splitAtMark? mark s generalizing raw rest with
  | case1 => cases h
  | case2 => cases h
  | case3 e tail ih =>
    obtain ⟨⟨raw', rest'⟩, hr, h⟩ := Option.map_eq_some_iff.mp h
    cases h
    rw [ih hr]
    rfl
  | case4 c tail hc after ha =>
    cases h
    rw [Text.after?_eq_some.mp ha, List.nil_append]
  | case5 c tail hc ha ih =>
    obtain ⟨⟨raw', rest'⟩, hr, h⟩ := Option.map_eq_some_iff.mp h
    cases h
    rw [ih hr]
    rfl

/-- A string opens with one of the marks, which is not empty. -/
theorem openingMark?_append {marks : List Text} {s mark rest : Text}
    (h : openingMark? marks s = some (mark, rest)) :
    mark ∈ marks ∧ mark ≠ [] ∧ s = mark ++ rest := by
  obtain ⟨m, hmem, hm⟩ := List.exists_of_findSome?_eq_some h
  split at hm
  · cases hm
  · rename_i hne
    obtain ⟨after, ha, h⟩ := Option.map_eq_some_iff.mp hm
    cases h
    exact ⟨hmem, by simpa using hne, Text.after?_eq_some.mp ha⟩

/-- A string is read between two occurrences of a mark. -/
theorem string_append {marks : List Text} {s : Text} {token : Token}
    (h : string marks s = some token) :
    ∃ mark : Text, mark ≠ [] ∧ s.trimStart = mark ++ (token.raw ++ (mark ++ token.rest)) := by
  obtain ⟨⟨mark, body⟩, hopen, h⟩ := Option.bind_eq_some_iff.mp h
  obtain ⟨⟨raw, rest⟩, hsplit, h⟩ := Option.bind_eq_some_iff.mp h
  cases h
  obtain ⟨-, hne, hs⟩ := openingMark?_append hopen
  exact ⟨mark, hne, by rw [hs, splitAtMark?_append hsplit]⟩

/-- A text that an identifier can be: it begins as one and goes on as one. -/
def IsName (name : Text) : Prop :=
  name.begins CodePoint.startsIdentifier = true ∧ name.all CodePoint.continuesIdentifier = true

theorem IsName.ne_nil {name : Text} (h : IsName name) : name ≠ [] := by
  rintro rfl
  cases h.1

/-- An identifier is a name after blanks that does not go on. -/
theorem identifier_eq_some {s : Text} {token : Token} :
    identifier s = some token ↔
      ∃ name rest : Text, IsName name ∧ s.trimStart = name ++ rest ∧
        rest.begins CodePoint.continuesIdentifier = false ∧
        token = ⟨.identifier, name, .str name, rest⟩ := by
  constructor
  · intro h
    unfold identifier at h
    split at h
    · cases h
    · rename_i c tail hs
      split at h
      · rename_i hc
        cases h
        refine ⟨_, _, ⟨?_, List.all_takeWhile⟩, ?_, Text.begins_dropWhile _ _, rfl⟩
        · have hcont : c.continuesIdentifier = true := by
            rw [CodePoint.continuesIdentifier, hc, Bool.true_or]
          rw [List.takeWhile_cons_of_pos hcont, Text.begins_cons, hc]
        · rw [hs, List.takeWhile_append_dropWhile]
      · cases h
  · rintro ⟨name, rest, ⟨hbegin, hall⟩, hs, hrest, rfl⟩
    cases name with
    | nil => cases hbegin
    | cons c name =>
      have hrun := Text.takeRun_of_all hall hrest
      rw [List.cons_append] at hrun hs
      rw [Text.begins_cons] at hbegin
      simp only [identifier, hs, hbegin, if_true, hrun]

/-- A constant is its text after blanks. -/
theorem const_eq_some {value s : Text} {token : Token} :
    const value s = some token ↔
      ∃ rest : Text, s.trimStart = value ++ rest ∧ token = ⟨.const, value, .str value, rest⟩ := by
  constructor
  · intro h
    obtain ⟨rest, hrest, rfl⟩ := Option.map_eq_some_iff.mp h
    exact ⟨rest, Text.after?_eq_some.mp hrest, rfl⟩
  · rintro ⟨rest, hs, rfl⟩
    exact Option.map_eq_some_iff.mpr ⟨rest, Text.after?_eq_some.mpr hs, rfl⟩

theorem const_eq_none {value s : Text} :
    const value s = none ↔ ∀ rest : Text, s.trimStart ≠ value ++ rest := by
  rw [const, Option.map_eq_none_iff, Option.eq_none_iff_forall_ne_some]
  exact forall_congr' fun rest => not_congr Text.after?_eq_some

/-- A keyword is its word after blanks, where the word does not go on. -/
theorem keyword_eq_some {k : Keyword} {s : Text} {token : Token} :
    keyword k s = some token ↔
      ∃ rest : Text, s.trimStart = k.text ++ rest ∧
        rest.begins CodePoint.continuesIdentifier = false ∧
        token = ⟨.keyword, k.text, k.value, rest⟩ := by
  have hword : ∀ rest : Text, afterWord? k.text s = some rest ↔
      s.trimStart = k.text ++ rest ∧ rest.begins CodePoint.continuesIdentifier = false := by
    intro rest
    rw [← Text.after?_eq_some]
    unfold afterWord?
    cases h : Text.after? k.text s.trimStart with
    | none => simp
    | some after =>
      cases after with
      | nil =>
        simp only [Option.some.injEq]
        constructor
        · rintro rfl
          exact ⟨rfl, rfl⟩
        · exact And.left
      | cons c after =>
        cases hc : c.continuesIdentifier with
        | true =>
          simp only [hc, if_true, Option.some.injEq, reduceCtorEq, false_iff, not_and]
          rintro rfl
          simp [hc]
        | false =>
          simp only [hc, Bool.false_eq_true, if_false, Option.some.injEq]
          constructor
          · rintro rfl
            exact ⟨rfl, hc⟩
          · exact And.left
  constructor
  · intro h
    obtain ⟨rest, hrest, rfl⟩ := Option.map_eq_some_iff.mp h
    obtain ⟨hs, hstop⟩ := (hword rest).mp hrest
    exact ⟨rest, hs, hstop, rfl⟩
  · rintro ⟨rest, hs, hstop, rfl⟩
    exact Option.map_eq_some_iff.mpr ⟨rest, (hword rest).mpr ⟨hs, hstop⟩, rfl⟩

/-! ## Advancing -/

variable {s : Text} {token : Token}

theorem advances_of_number (h : number s = .ok (some token)) : s.Advances token.rest := by
  obtain ⟨n, tail, value, hs, -, -, rfl⟩ := number_eq_ok_some.mp h
  exact (Text.advances_of_trimStart hs n.text_ne_nil).to_suffix (swallowPoint_suffix tail)

theorem advances_of_string {marks : List Text} (h : string marks s = some token) :
    s.Advances token.rest := by
  obtain ⟨mark, hne, hs⟩ := string_append h
  rw [← List.append_assoc, ← List.append_assoc] at hs
  exact Text.advances_of_trimStart hs (by simp [hne])

theorem advances_of_identifier (h : identifier s = some token) : s.Advances token.rest := by
  obtain ⟨name, rest, hname, hs, -, rfl⟩ := identifier_eq_some.mp h
  exact Text.advances_of_trimStart hs hname.ne_nil

theorem advances_of_const {value : Text} (hne : value ≠ []) (h : const value s = some token) :
    s.Advances token.rest := by
  obtain ⟨rest, hs, rfl⟩ := const_eq_some.mp h
  exact Text.advances_of_trimStart hs hne

theorem advances_of_keyword {k : Keyword} (h : keyword k s = some token) : s.Advances token.rest := by
  obtain ⟨rest, hs, -, rfl⟩ := keyword_eq_some.mp h
  exact Text.advances_of_trimStart hs (by cases k <;> decide)

end Scan

end Mixfix
