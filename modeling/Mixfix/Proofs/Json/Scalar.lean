import Mixfix.Json.Reader
import Mixfix.Json.Writer
import Mixfix.Proofs.Decimal
import Mixfix.Proofs.Except
import Mixfix.Proofs.Text

/-!
# Strings and numbers of JSON

A text that is written as a JSON string is read back, whatever code points it has and whatever follows
(`Json.stringRest_quote`). A word or a number is read to the same value before everything that does not go on
with it (`Json.scalar_append`).
-/

set_option autoImplicit false

namespace Mixfix.Json

variable {s rest left : Text}

/-! ## Strings -/

/-- The escape of a control character is read back. -/
theorem unit?_hex {n : Nat} (h : n < 0x20) : unit? (Text.hex false 4 n) = some n := by
  have hall : ∀ m < 0x20, unit? (Text.hex false 4 m) = some m := by decide
  exact hall n h

/-- A code point stands in a string as it is, as the escape of one letter or as one with its number. -/
theorem quotedPoint_cases (c : CodePoint) :
    (quotedPoint false c = [c] ∧ c ≠ CodePoint.ofChar '"' ∧ 0x20 ≤ c.val ∧ c ≠ CodePoint.ofChar '\\') ∨
      (∃ e, quotedPoint false c = [CodePoint.ofChar '\\', e] ∧ letterEscape? e = some c) ∨
      (quotedPoint false c = unitEscape c.val ∧ c.val < 0x20) := by
  by_cases hquote : c = CodePoint.ofChar '"'
  · subst hquote
    exact .inr (.inl ⟨'"', rfl, rfl⟩)
  by_cases hbackslash : c = CodePoint.ofChar '\\'
  · subst hbackslash
    exact .inr (.inl ⟨'\\', rfl, rfl⟩)
  by_cases hnewline : c = CodePoint.ofChar '\n'
  · subst hnewline
    exact .inr (.inl ⟨'n', rfl, rfl⟩)
  by_cases hreturn : c = CodePoint.ofChar '\r'
  · subst hreturn
    exact .inr (.inl ⟨'r', rfl, rfl⟩)
  by_cases htab : c = CodePoint.ofChar '\t'
  · subst htab
    exact .inr (.inl ⟨'t', rfl, rfl⟩)
  by_cases hfeed : c.val = 0x0C
  · obtain rfl : c = CodePoint.ofNat 0x0C := Fin.ext hfeed
    exact .inr (.inl ⟨'f', rfl, rfl⟩)
  by_cases hback : c.val = 0x08
  · obtain rfl : c = CodePoint.ofNat 0x08 := Fin.ext hback
    exact .inr (.inl ⟨'b', rfl, rfl⟩)
  rw [quotedPoint, if_neg hquote, if_neg hbackslash, if_neg hnewline, if_neg hreturn, if_neg htab, if_neg hfeed,
    if_neg hback]
  by_cases hcontrol : c.val < 0x20
  · rw [if_pos hcontrol]
    exact .inr (.inr ⟨rfl, hcontrol⟩)
  · rw [if_neg hcontrol]
    exact .inl ⟨rfl, hquote, Nat.le_of_not_lt hcontrol, hbackslash⟩

theorem stringRest_letter {e d : CodePoint} (h : letterEscape? e = some d) (fuel : Nat) (s : Text) :
    stringRest (fuel + 1) (CodePoint.ofChar '\\' :: e :: s) =
      (stringRest fuel s).map fun (t, after) => (d :: t, after) := by
  conv_lhs => unfold stringRest
  rw [if_neg (by decide), if_neg (by decide), if_pos rfl]
  dsimp only
  rw [h]

/-- A control character is read back from the escape with its number. -/
theorem stringRest_unitEscape {c : CodePoint} (h : c.val < 0x20) (fuel : Nat) (s : Text) :
    stringRest (fuel + 1) (unitEscape c.val ++ s) = (stringRest fuel s).map fun (t, after) => (c :: t, after) := by
  have htake : (Text.hex false 4 c.val ++ s).take 4 = Text.hex false 4 c.val := rfl
  have hdrop : (Text.hex false 4 c.val ++ s).drop 4 = s := rfl
  have hhigh : (decide (0xD800 ≤ c.val) && decide (c.val ≤ 0xDBFF)) = false := by
    rw [Bool.and_eq_false_iff, decide_eq_false_iff_not]
    exact .inl (by omega)
  have hpoint : CodePoint.ofNat c.val = c := dif_pos c.isLt
  change stringRest (fuel + 1) (CodePoint.ofChar '\\' :: CodePoint.ofChar 'u' :: (Text.hex false 4 c.val ++ s)) = _
  conv_lhs => unfold stringRest
  rw [if_neg (by decide), if_neg (by decide), if_pos rfl]
  dsimp only
  rw [show letterEscape? (CodePoint.ofChar 'u') = none from rfl]
  dsimp only
  rw [if_pos rfl, htake, unit?_hex h]
  dsimp only
  rw [hhigh, if_neg Bool.false_ne_true, hdrop, hpoint]

/-- A code point is read back from its form in a string. -/
theorem stringRest_quotedPoint (c : CodePoint) (fuel : Nat) (s : Text) :
    stringRest (fuel + 1) (quotedPoint false c ++ s) =
      (stringRest fuel s).map fun (t, after) => (c :: t, after) := by
  rcases quotedPoint_cases c with ⟨h, hquote, hcontrol, hbackslash⟩ | ⟨e, h, he⟩ | ⟨h, hcontrol⟩
  · rw [h, List.singleton_append]
    conv_lhs => unfold stringRest
    rw [if_neg hquote, if_neg (Nat.not_lt_of_le hcontrol), if_neg hbackslash]
  · rw [h]
    exact stringRest_letter he fuel s
  · rw [h]
    exact stringRest_unitEscape hcontrol fuel s

theorem length_le_length_quoted (s : Text) : s.length ≤ (s.flatMap (quotedPoint false)).length := by
  induction s with
  | nil => exact Nat.le_refl 0
  | cons c s ih =>
    have hpositive : 0 < (quotedPoint false c).length := by
      rcases quotedPoint_cases c with ⟨h, -⟩ | ⟨e, h, -⟩ | ⟨h, -⟩ <;> rw [h] <;> exact Nat.succ_pos _
    rw [List.flatMap_cons, List.length_append, List.length_cons]
    omega

/-- **The text in a string is read back**, up to the closing mark. -/
theorem stringRest_quote {fuel : Nat} (hfuel : s.length < fuel) (rest : Text) :
    stringRest fuel (s.flatMap (quotedPoint false) ++ CodePoint.ofChar '"' :: rest) = .ok (s, rest) := by
  induction s generalizing fuel with
  | nil =>
    obtain ⟨fuel, rfl⟩ := Nat.exists_eq_add_one_of_ne_zero (Nat.ne_zero_of_lt hfuel)
    rfl
  | cons c s ih =>
    obtain ⟨fuel, rfl⟩ := Nat.exists_eq_add_one_of_ne_zero (Nat.ne_zero_of_lt hfuel)
    rw [List.flatMap_cons, List.append_assoc, stringRest_quotedPoint, ih (Nat.lt_of_succ_lt_succ hfuel)]
    rfl

/-! ## Numbers -/

/-- A code point that a number may go on with. -/
def continuesNumber (c : CodePoint) : Bool :=
  c.isDigit || c == '.' || c == 'e' || c == 'E' || c == '+' || c == '-'

theorem continuesNumber_of_isDigit {c : CodePoint} (h : c.isDigit = true) : continuesNumber c = true := by
  simp only [continuesNumber, h, Bool.true_or]

/-- A number is not gone on with. -/
def Ends (rest : Text) : Prop :=
  rest.begins continuesNumber = false

theorem begins_of_ends {p : CodePoint → Bool} (hp : ∀ c, p c = true → continuesNumber c = true)
    (hrest : Ends rest) : rest.begins p = false :=
  Bool.eq_false_iff.mpr fun h => Bool.false_ne_true (hrest.symm.trans (Text.begins_mono hp h))

/-- A run is as long before the end of a number. -/
theorem takeRun_append {p : CodePoint → Bool} (hp : ∀ c, p c = true → continuesNumber c = true)
    (hrest : Ends rest) (s : Text) :
    Text.takeRun p (s ++ rest) = ((Text.takeRun p s).1, (Text.takeRun p s).2 ++ rest) :=
  Text.takeRun_before (begins_of_ends hp hrest) s

theorem wholeDigits?_append {digits : Text} (hrest : Ends rest) (h : wholeDigits? s = some (digits, left)) :
    wholeDigits? (s ++ rest) = some (digits, left ++ rest) := by
  cases s with
  | nil => cases h
  | cons c s =>
    unfold wholeDigits? at h
    conv_lhs => unfold wholeDigits?
    dsimp only [List.cons_append] at h ⊢
    split at h
    · rename_i hzero
      cases h
      rw [if_pos hzero]
    · rename_i hzero
      rw [if_neg hzero]
      split at h
      · rename_i hdigit
        rw [if_pos hdigit, ← List.cons_append, takeRun_append (fun _ => continuesNumber_of_isDigit) hrest]
        cases h
        rfl
      · cases h

/-- What ends a number does not begin with a code point of one. -/
theorem Ends.ne_of_continues {c : CodePoint} (h : Ends (c :: rest)) {d : CodePoint} (hd : continuesNumber d = true) :
    c ≠ d := by
  rintro rfl
  exact Bool.false_ne_true (h.symm.trans hd)

theorem fractionDigits_append (hrest : Ends rest) (s : Text) :
    fractionDigits (s ++ rest) = ((fractionDigits s).1, (fractionDigits s).2 ++ rest) := by
  cases s with
  | nil =>
    cases rest with
    | nil => rfl
    | cons c rest =>
      have hpoint : c ≠ CodePoint.ofChar '.' := hrest.ne_of_continues (by decide)
      change fractionDigits (c :: rest) = ([], c :: rest)
      unfold fractionDigits
      exact if_neg hpoint
  | cons c s =>
    conv_lhs => unfold fractionDigits
    conv_rhs => unfold fractionDigits
    dsimp only [List.cons_append]
    by_cases hpoint : c = CodePoint.ofChar '.'
    · rw [if_pos hpoint, if_pos hpoint, takeRun_append (fun _ => continuesNumber_of_isDigit) hrest]
      cases hrun : Text.takeRun CodePoint.isDigit s with
      | mk run left => cases run <;> rfl
    · rw [if_neg hpoint, if_neg hpoint]
      rfl

/-- The digits of an exponent, where a sign may stand before them. -/
def exponentDigits (s : Text) : Text × Text :=
  let signed := s.head? == some (CodePoint.ofChar '-') || s.head? == some (CodePoint.ofChar '+')
  Text.takeRun CodePoint.isDigit (if signed then s.drop 1 else s)

theorem exponentDigits_append (hrest : Ends rest) (s : Text) :
    exponentDigits (s ++ rest) = ((exponentDigits s).1, (exponentDigits s).2 ++ rest) := by
  cases s with
  | nil =>
    cases rest with
    | nil => rfl
    | cons c rest =>
      have hminus : c ≠ CodePoint.ofChar '-' := hrest.ne_of_continues (by decide)
      have hplus : c ≠ CodePoint.ofChar '+' := hrest.ne_of_continues (by decide)
      have hunsigned : exponentDigits (c :: rest) = Text.takeRun CodePoint.isDigit (c :: rest) := by
        simp only [exponentDigits, List.head?_cons, Option.some_beq_some, beq_eq_false_iff_ne.mpr hminus,
          beq_eq_false_iff_ne.mpr hplus, Bool.or_self, Bool.false_eq_true, if_false]
      exact hunsigned.trans (takeRun_append (fun _ => continuesNumber_of_isDigit) hrest [])
  | cons c s =>
    unfold exponentDigits
    dsimp only [List.cons_append, List.head?_cons, List.drop_one, List.tail_cons]
    split
    · exact takeRun_append (fun _ => continuesNumber_of_isDigit) hrest s
    · exact takeRun_append (fun _ => continuesNumber_of_isDigit) hrest (c :: s)

theorem exponent_cons {c : CodePoint} (h : (c = CodePoint.ofChar 'e' || c = CodePoint.ofChar 'E') = true) (s : Text) :
    exponent (c :: s) =
      match exponentDigits s with
      | ([], _) => (none, c :: s)
      | (digits, after) =>
        (some (if s.head? == some (CodePoint.ofChar '-') then -(Decimal.toNat digits : Int)
          else Decimal.toNat digits), after) := by
  unfold exponent
  exact if_pos h

theorem exponent_append (hrest : Ends rest) (s : Text) :
    exponent (s ++ rest) = ((exponent s).1, (exponent s).2 ++ rest) := by
  cases s with
  | nil =>
    cases rest with
    | nil => rfl
    | cons c rest =>
      have hsmall : c ≠ CodePoint.ofChar 'e' := hrest.ne_of_continues (by decide)
      have hlarge : c ≠ CodePoint.ofChar 'E' := hrest.ne_of_continues (by decide)
      change exponent (c :: rest) = (none, c :: rest)
      unfold exponent
      exact if_neg (by simp only [hsmall, hlarge, decide_false, Bool.or_self, Bool.false_eq_true, not_false_eq_true])
  | cons c s =>
    by_cases hmark : (c = CodePoint.ofChar 'e' || c = CodePoint.ofChar 'E') = true
    · rw [List.cons_append, exponent_cons hmark, exponent_cons hmark, exponentDigits_append hrest]
      cases hdigits : exponentDigits s with
      | mk digits left =>
        cases digits with
        | nil => rfl
        | cons d digits =>
          cases s with
          | nil => cases hdigits
          | cons e s => rfl
    · have hnone : ∀ t, exponent (c :: t) = (none, c :: t) := by
        intro t
        unfold exponent
        exact if_neg hmark
      rw [List.cons_append, hnone, hnone]
      rfl

/-- A number is the same before everything that does not go on with it. -/
theorem unsigned_append {negative : Bool} {v : Value} (hrest : Ends rest) (h : unsigned negative s = .ok (v, left)) :
    unsigned negative (s ++ rest) = .ok (v, left ++ rest) := by
  unfold unsigned at h ⊢
  split at h
  · cases h
  · rename_i digits after hwhole
    rw [wholeDigits?_append hrest hwhole]
    dsimp only at h ⊢
    rw [fractionDigits_append hrest, exponent_append hrest]
    dsimp only
    split at h
    · rename_i hinteger
      rw [if_pos hinteger]
      split at h
      · cases h
        rfl
      · cases h
    · rename_i hinteger
      rw [if_neg hinteger]
      cases h
      rfl

theorem begins_of_unsigned {negative : Bool} {v : Value} (h : unsigned negative s = .ok (v, left)) :
    s.begins CodePoint.isDigit = true := by
  cases s with
  | nil => cases h
  | cons c s =>
    by_contra hdigit
    have hzero : c ≠ CodePoint.ofChar '0' := by
      rintro rfl
      exact hdigit rfl
    have hnone : wholeDigits? (c :: s) = none := by
      unfold wholeDigits?
      exact (if_neg hzero).trans (if_neg hdigit)
    unfold unsigned at h
    rw [hnone] at h
    cases h

/-- The word at the front of a text, and what it stands for. -/
def word? (s : Text) : Option (Reading Value) :=
  words.findSome? fun (word, value) => (Text.after? word s).map fun rest => (value, rest)

theorem word?_append {reading : Reading Value} (h : word? s = some reading) (rest : Text) :
    word? (s ++ rest) = some (reading.1, reading.2 ++ rest) := by
  obtain ⟨⟨word, value⟩, hmem, hread⟩ := List.exists_of_findSome?_eq_some h
  obtain ⟨left, hleft, rfl⟩ := Option.map_eq_some_iff.mp hread
  obtain rfl := Text.after?_eq_some.mp hleft
  simp only [words, List.mem_cons, List.not_mem_nil, or_false, Prod.mk.injEq] at hmem
  rcases hmem with ⟨rfl, rfl⟩ | ⟨rfl, rfl⟩ | ⟨rfl, rfl⟩ | ⟨rfl, rfl⟩ | ⟨rfl, rfl⟩ | ⟨rfl, rfl⟩
  all_goals rfl

theorem exists_of_mem_words {entry : Text × Value} (h : entry ∈ words) :
    ∃ a b rest, entry.1 = a :: b :: rest ∧ a.isDigit = false ∧ b.isDigit = false := by
  simp only [words, List.mem_cons, List.not_mem_nil, or_false] at h
  rcases h with rfl | rfl | rfl | rfl | rfl | rfl
  all_goals exact ⟨_, _, _, rfl, rfl, rfl⟩

theorem word?_eq_none (h : ∀ entry ∈ words, ∀ rest, s ≠ entry.1 ++ rest) : word? s = none := by
  apply List.findSome?_eq_none_iff.mpr
  intro entry hentry
  apply Option.map_eq_none_iff.mpr
  apply Option.eq_none_iff_forall_ne_some.mpr
  intro rest hrest
  exact h entry hentry rest (Text.after?_eq_some.mp hrest)

/-- No word begins with a digit. -/
theorem word?_of_digit (h : s.begins CodePoint.isDigit = true) : word? s = none := by
  apply word?_eq_none
  rintro entry hentry rest rfl
  obtain ⟨a, b, tail, hword, ha, -⟩ := exists_of_mem_words hentry
  rw [hword] at h
  exact Bool.false_ne_true (ha.symm.trans h)

/-- No word has a digit after a minus sign. -/
theorem word?_of_minus (h : s.begins CodePoint.isDigit = true) : word? (CodePoint.ofChar '-' :: s) = none := by
  apply word?_eq_none
  intro entry hentry rest heq
  obtain ⟨a, b, tail, hword, -, hb⟩ := exists_of_mem_words hentry
  rw [hword] at heq
  cases heq
  exact Bool.false_ne_true (hb.symm.trans h)

theorem scalar_of_word {reading : Reading Value} (h : word? s = some reading) : scalar s = .ok reading := by
  unfold word? at h
  unfold scalar
  rw [h]

theorem scalar_of_digit (h : s.begins CodePoint.isDigit = true) : scalar s = unsigned false s := by
  have hword := word?_of_digit h
  unfold word? at hword
  unfold scalar
  rw [hword]
  cases hminus : Text.after? (txt "-") s with
  | none => rfl
  | some t =>
    obtain rfl := Text.after?_eq_some.mp hminus
    cases h

theorem scalar_of_minus (h : s.begins CodePoint.isDigit = true) :
    scalar (CodePoint.ofChar '-' :: s) = unsigned true s := by
  have hword := word?_of_minus h
  unfold word? at hword
  unfold scalar
  rw [hword]
  rfl

/-- How a scalar begins: it is a word, a number, or a number after a minus sign. -/
theorem scalar_cases {v : Value} (h : scalar s = .ok (v, left)) :
    word? s = some (v, left) ∨ (s.begins CodePoint.isDigit = true ∧ unsigned false s = .ok (v, left)) ∨
      ∃ t : Text, s = CodePoint.ofChar '-' :: t ∧ t.begins CodePoint.isDigit = true ∧
        unsigned true t = .ok (v, left) := by
  unfold scalar at h
  split at h
  · rename_i reading hword
    cases h
    exact .inl hword
  · split at h
    · rename_i t hminus
      obtain rfl := Text.after?_eq_some.mp hminus
      exact .inr (.inr ⟨t, rfl, begins_of_unsigned h, h⟩)
    · exact .inr (.inl ⟨begins_of_unsigned h, h⟩)

/-- **A scalar is the same before everything that does not go on with it.** -/
theorem scalar_append {v : Value} (hrest : Ends rest) (h : scalar s = .ok (v, left)) :
    scalar (s ++ rest) = .ok (v, left ++ rest) := by
  rcases scalar_cases h with hword | ⟨hdigit, hnumber⟩ | ⟨t, rfl, hdigit, hnumber⟩
  · exact scalar_of_word (word?_append hword rest)
  · rw [scalar_of_digit (Text.begins_append hdigit rest)]
    exact unsigned_append hrest hnumber
  · rw [List.cons_append, scalar_of_minus (Text.begins_append hdigit rest)]
    exact unsigned_append hrest hnumber

/-- The code points that a word or a number begins with. -/
def beginsScalar (c : CodePoint) : Bool :=
  c.isDigit || [CodePoint.ofChar '-', CodePoint.ofChar 'n', CodePoint.ofChar 't', CodePoint.ofChar 'f',
    CodePoint.ofChar 'N', CodePoint.ofChar 'I'].contains c

theorem begins_of_scalar {v : Value} (h : scalar s = .ok (v, left)) : s.begins beginsScalar = true := by
  rcases scalar_cases h with hword | ⟨hdigit, -⟩ | ⟨t, rfl, -, -⟩
  · obtain ⟨⟨word, value⟩, hmem, hread⟩ := List.exists_of_findSome?_eq_some hword
    obtain ⟨rest, hrest, -⟩ := Option.map_eq_some_iff.mp hread
    obtain rfl := Text.after?_eq_some.mp hrest
    simp only [words, List.mem_cons, List.not_mem_nil, or_false, Prod.mk.injEq] at hmem
    rcases hmem with ⟨rfl, rfl⟩ | ⟨rfl, rfl⟩ | ⟨rfl, rfl⟩ | ⟨rfl, rfl⟩ | ⟨rfl, rfl⟩ | ⟨rfl, rfl⟩
    all_goals rfl
  · refine Text.begins_mono (fun c hc => ?_) hdigit
    rw [beginsScalar, hc, Bool.true_or]
  · rfl

/-- A scalar is read as a value. -/
theorem readValue_of_scalar {v : Value} (h : scalar s = .ok (v, left)) (fuel : Nat) :
    readValue (fuel + 1) s = .ok (v, left) := by
  have hbegins := begins_of_scalar h
  cases s with
  | nil => cases hbegins
  | cons c s =>
    have hother : ∀ d, beginsScalar d = false → c ≠ d := by
      rintro d hd rfl
      exact Bool.false_ne_true (hd.symm.trans hbegins)
    unfold readValue
    rw [if_neg (hother _ (by decide)), if_neg (hother _ (by decide)), if_neg (hother _ (by decide)), h]

/-! ## Integers -/

/-- The digits of a whole part: a lone zero, or digits that do not begin with one. -/
def IsWhole (whole : Text) : Prop :=
  whole = txt "0" ∨ Decimal.Leading whole

theorem wholeDigits?_of_whole {whole : Text} (h : IsWhole whole) (hrest : rest.begins CodePoint.isDigit = false) :
    wholeDigits? (whole ++ rest) = some (whole, rest) := by
  rcases h with rfl | ⟨hall, d, digits, rfl, hd⟩
  · rfl
  · have hdigit : d.isDigit = true := (Bool.and_eq_true_iff.mp hall).1
    have hrun := Text.takeRun_of_all hall hrest
    unfold wholeDigits?
    exact (if_neg hd).trans ((if_pos hdigit).trans (congrArg some hrun))

theorem isWhole_ofNat (n : Nat) : IsWhole (Decimal.ofNat n) := by
  cases n with
  | zero => exact .inl rfl
  | succ n => exact .inr (Decimal.leading_ofNat (Nat.succ_pos n))

theorem unsigned_ofNat {n : Nat} (negative : Bool) (h : (Decimal.ofNat n).length ≤ Decimal.digitLimit) :
    unsigned negative (Decimal.ofNat n) = .ok (.int (if negative then -(n : Int) else n), []) := by
  have hwhole := wholeDigits?_of_whole (isWhole_ofNat n) (Text.begins_nil _)
  rw [List.append_nil] at hwhole
  unfold unsigned
  simp only [hwhole, Decimal.readInt_ofNat h]
  rfl

/-- **An integer is read back** from its notation. -/
theorem scalar_ofInt {n : Int} (h : Decimal.digitCount (Decimal.ofInt n) ≤ Decimal.digitLimit) :
    scalar (Decimal.ofInt n) = .ok (.int n, []) := by
  have hbegins := Decimal.begins_ofNat n.natAbs
  rw [Decimal.digitCount_ofInt] at h
  rcases Decimal.ofInt_cases n with ⟨hsign, hn⟩ | ⟨hsign, hn⟩
  · rw [hn, scalar_of_minus hbegins, unsigned_ofNat true h, if_pos rfl]
    congr 3
    omega
  · rw [hn, scalar_of_digit hbegins, unsigned_ofNat false h, if_neg Bool.false_ne_true]
    congr 3
    omega

end Mixfix.Json
