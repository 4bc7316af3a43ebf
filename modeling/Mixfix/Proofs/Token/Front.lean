import Mixfix.Grammar
import Mixfix.Proofs.Token.Quotation

/-!
# Fronts of tokens

Most scanners tell by the first code point after the blanks that a text is not for them:
`number_of_begins`, `string_of_begins`, `identifier_of_begins` and `keyword_of_begins`. Keywords and
identifiers begin alike, and there the whole word decides (`keyword_of_name`).

`Quoted` is what a string can hold between two marks of one code point. It is what ends at the mark behind it
(`Quoted.endsAt`, `quoted_of_endsAt`), so a string of such a text is read as it stands (`string_of_quoted`). A
numeral has a value unless it is an integer of too many digits (`numberValue_eq_ok`).
-/

set_option autoImplicit false

namespace Mixfix

open Decimal (TooManyDigits)

namespace CodePoint

/-- A code point that a number may begin with. -/
def startsNumber (c : CodePoint) : Bool :=
  c.isDigit || c == '-'

/-- What an identifier begins with is no front of a number or a mark. -/
theorem ne_of_startsIdentifier {c : CodePoint} (h : c.startsIdentifier = true) :
    c.startsNumber = false ∧ c ≠ '"' ∧ c ≠ '\'' := by
  have hne : ∀ d : CodePoint, d.startsIdentifier = false → c ≠ d := by
    rintro d hd rfl
    rw [h] at hd
    cases hd
  refine ⟨?_, hne _ (by decide), hne _ (by decide)⟩
  have hminus : ¬ c = '-' := hne _ (by decide)
  have hdigit : c.isDigit = false := by
    by_contra hdigit
    simp only [isDigit, between, Bool.not_eq_false, Bool.and_eq_true, decide_eq_true_eq] at hdigit
    simp only [startsIdentifier, isLetter, between, Bool.or_eq_true, Bool.and_eq_true,
      decide_eq_true_eq, beq_iff_eq] at h
    simp only [Char.reduceToNat] at h hdigit
    rcases h with ((h | h) | rfl) | rfl
    · omega
    · omega
    · exact absurd hdigit (by decide)
    · exact absurd hdigit (by decide)
  simp [startsNumber, hdigit, hminus]

/-- No blank belongs to an identifier. -/
theorem not_continues_of_isBlank {c : CodePoint} (h : c.isBlank = true) :
    c.continuesIdentifier = false := by
  by_contra hcontinues
  simp only [continuesIdentifier, startsIdentifier, isLetter, isDigit, between, Bool.not_eq_false,
    Bool.or_eq_true, Bool.and_eq_true, decide_eq_true_eq, beq_iff_eq, Char.reduceToNat] at hcontinues
  simp only [isBlank, Bool.or_eq_true, Bool.and_eq_true, decide_eq_true_eq, beq_iff_eq] at h
  rcases hcontinues with (((hupper | hlower) | rfl) | rfl) | hdigit
  · omega
  · omega
  · exact absurd h (by decide)
  · exact absurd h (by decide)
  · omega

theorem isBlank_of_isDigit {c : CodePoint} (h : c.isDigit = true) : c.isBlank = false := by
  by_contra hblank
  have hcontinues := not_continues_of_isBlank (Bool.not_eq_false _ ▸ hblank)
  rw [continuesIdentifier, h, Bool.or_true] at hcontinues
  cases hcontinues

end CodePoint

/-! ## Values of numerals -/

namespace Numeral

/-- The value of a numeral: a double if it has a point, else an integer. -/
def value (n : Numeral) : Value :=
  if n.isFractional then .float (Binary64.readDecimal n.text) else .int (Decimal.toInt n.text)

/-- Whether the value of a numeral can be told: it has a point, or not too many digits. -/
def isReadable (n : Numeral) : Bool :=
  n.isFractional || n.whole.length ≤ Decimal.digitLimit

/-- The digits of an integer are those of its whole part. -/
theorem digitCount_text {n : Numeral} (h : n.isFractional = false) :
    Decimal.digitCount n.text = n.whole.length := by
  obtain ⟨negative, whole, fraction, hne, hwhole, hfraction⟩ := n
  have hnil : fraction = [] := by simpa [isFractional] using h
  subst hnil
  have hcount : whole.countP CodePoint.isDigit = whole.length :=
    List.countP_eq_length.mpr fun c hc => List.all_eq_true.mp hwhole c hc
  have hsign : (sign negative).countP CodePoint.isDigit = 0 := by cases negative <;> decide
  simp only [Decimal.digitCount, text, pointed, List.append_nil, List.countP_append, hsign, hcount,
    Nat.zero_add]

end Numeral

/-- Different keywords have different texts. -/
theorem Keyword.text_injective : Function.Injective Keyword.text := by
  intro k k' h
  cases k <;> cases k'
  all_goals first
    | rfl
    | exact absurd h (by decide)

namespace Scan

/-- A numeral has a value exactly if it is readable. -/
theorem numberValue_eq_ok {n : Numeral} {value : Value} :
    numberValue n.text n.isFractional = .ok value ↔ n.isReadable = true ∧ value = n.value := by
  unfold numberValue Numeral.isReadable Numeral.value
  cases hf : n.isFractional with
  | true => simp [eq_comm]
  | false =>
    rw [Decimal.readInt, n.digitCount_text hf]
    by_cases hlimit : n.whole.length ≤ Decimal.digitLimit
    · simp [hlimit, Except.map, eq_comm]
    · simp [hlimit, Except.map]

/-! ## Refusals -/

variable {s : Text}

/-- Only a digit or a minus sign begins a number. -/
theorem number_of_begins (h : s.trimStart.begins CodePoint.startsNumber = false) :
    number s = .ok none := by
  have hnone : signedNumber? s.trimStart = none := by
    cases hs : s.trimStart with
    | nil => rfl
    | cons c rest =>
      rw [hs, Text.begins_cons, CodePoint.startsNumber, Bool.or_eq_false_iff] at h
      have hminus : ¬ c = '-' := by simpa using h.2
      have hrun : Text.takeRun CodePoint.isDigit (c :: rest) = ([], c :: rest) := by
        simp [Text.takeRun, h.1]
      simp only [signedNumber?, hminus, if_false, unsignedNumber?, hrun]
  simp only [number, hnone]

/-- Only a mark begins a string. -/
theorem string_of_begins {marks : List Text}
    (h : ∀ mark ∈ marks, ∀ rest : Text, s.trimStart ≠ mark ++ rest) :
    string marks s = none := by
  have hnone : openingMark? marks s.trimStart = none := by
    refine List.findSome?_eq_none_iff.mpr fun mark hmark => ?_
    split
    · rfl
    · rw [Option.map_eq_none_iff, Option.eq_none_iff_forall_ne_some]
      exact fun rest hrest => h mark hmark rest (Text.after?_eq_some.mp hrest)
  simp [string, hnone]

/-- Only a front of an identifier begins one. -/
theorem identifier_of_begins (h : s.trimStart.begins CodePoint.startsIdentifier = false) :
    identifier s = none := by
  rw [Option.eq_none_iff_forall_ne_some]
  rintro token htoken
  obtain ⟨name, rest, hname, hs, -, -⟩ := identifier_eq_some.mp htoken
  cases name with
  | nil => cases hname.1
  | cons c name =>
    rw [hs, List.cons_append, Text.begins_cons] at h
    exact absurd hname.1 (by rw [Text.begins_cons, h]; exact Bool.false_ne_true)

/-- Keywords are names. -/
theorem isName_keyword (k : Keyword) : IsName k.text := by
  cases k <;> exact ⟨by decide, by decide⟩

/-- Only a front of an identifier begins a keyword. -/
theorem keyword_of_begins (k : Keyword) (h : s.trimStart.begins CodePoint.startsIdentifier = false) :
    keyword k s = none := by
  rw [Option.eq_none_iff_forall_ne_some]
  rintro token htoken
  obtain ⟨rest, hs, hrest, -⟩ := keyword_eq_some.mp htoken
  have hidentifier := identifier_eq_some.mpr ⟨k.text, rest, isName_keyword k, hs, hrest, rfl⟩
  rw [identifier_of_begins h] at hidentifier
  cases hidentifier

/-- A word that stands at the front is a keyword only if it is the keyword's. -/
theorem keyword_of_name {k : Keyword} {name rest : Text} (hname : IsName name)
    (hs : s.trimStart = name ++ rest) (hrest : rest.begins CodePoint.continuesIdentifier = false)
    (hne : name ≠ k.text) : keyword k s = none := by
  rw [Option.eq_none_iff_forall_ne_some]
  rintro token htoken
  obtain ⟨rest', hs', hrest', -⟩ := keyword_eq_some.mp htoken
  have hrun := Text.takeRun_of_all hname.2 hrest
  have hrun' := Text.takeRun_of_all (isName_keyword k).2 hrest'
  rw [← hs, hs', hrun'] at hrun
  exact hne (congrArg Prod.fst hrun).symm

/-- A word that stands where no keyword does is no keyword. -/
theorem ne_text_of_keyword_none {name rest : Text} (hs : s.trimStart = name ++ rest)
    (hrest : rest.begins CodePoint.continuesIdentifier = false) (hfree : ∀ k, keyword k s = none) (k : Keyword) :
    name ≠ k.text := by
  rintro rfl
  have hkeyword := keyword_eq_some.mpr ⟨rest, hs, hrest, rfl⟩
  rw [hfree k] at hkeyword
  cases hkeyword

/-! ## Quoted texts -/

/-- A text that can stand between two marks: no mark is in it but behind a backslash, which hides one code
point. -/
inductive Quoted (mark : CodePoint) : Text → Prop
  | nil : Quoted mark []
  | plain {c : CodePoint} {raw : Text} : c ≠ '\\' → c ≠ mark → Quoted mark raw → Quoted mark (c :: raw)
  | hidden (c : CodePoint) {raw : Text} : Quoted mark raw → Quoted mark ('\\' :: c :: raw)

theorem Quoted.endsAt {mark : CodePoint} (hmark : mark ≠ '\\') {raw : Text} (h : Quoted mark raw) (rest : Text) :
    Text.EndsAt [mark] raw rest := by
  induction h with
  | nil => exact Text.endsAt_nil
  | plain hc hne _ ih => exact (Text.endsAt_cons hc).mpr ⟨fun h => hne (List.cons_prefix_cons.mp h).1.symm, ih⟩
  | hidden c _ ih => exact (Text.endsAt_hidden hmark).mpr ih

/-- A text that ends at a mark is quoted. The recursion is on its units: a backslash goes with what it hides. -/
theorem quoted_of_endsAt {mark : CodePoint} (hmark : mark ≠ '\\') {rest : Text} :
    ∀ {raw : Text}, Text.EndsAt [mark] raw rest → Quoted mark raw
  | [], _ => .nil
  | c :: raw, h => by
    by_cases hc : c = '\\'
    · subst hc
      cases raw with
      | nil => exact absurd h Text.not_endsAt_backslash
      | cons e raw => exact .hidden e (quoted_of_endsAt hmark ((Text.endsAt_hidden hmark).mp h))
    · obtain ⟨hnot, hends⟩ := (Text.endsAt_cons hc).mp h
      exact .plain hc (fun heq => hnot (heq ▸ List.prefix_append [c] _)) (quoted_of_endsAt hmark hends)

/-- A text ends at the first mark that is not hidden. -/
theorem splitAtMark?_eq_some {mark : CodePoint} (hmark : mark ≠ '\\') {raw rest : Text} :
    splitAtMark? [mark] s = some (raw, rest) ↔ Quoted mark raw ∧ s = raw ++ mark :: rest := by
  have hbegins : Text.begins (· == '\\') [mark] = false := beq_false_of_ne hmark
  rw [splitAtMark?_eq_some_endsAt (List.cons_ne_nil mark [])]
  exact ⟨fun ⟨_, hends, hs⟩ => ⟨quoted_of_endsAt hmark hends, hs⟩,
    fun ⟨hraw, hs⟩ => ⟨hbegins, hraw.endsAt hmark rest, hs⟩⟩

theorem mem_stringMarks {mark : CodePoint} : [mark] ∈ stringMarks ↔ mark = '"' ∨ mark = '\'' := by
  simp [stringMarks, Text.ofString]

/-- The marks of strings are of one code point, so what stands between them is quoted. -/
theorem quoted_of_splitAtMark? {mark raw rest : Text} (hmark : mark ∈ stringMarks)
    (h : splitAtMark? mark s = some (raw, rest)) :
    ∃ c : CodePoint, mark = [c] ∧ Quoted c raw ∧ s = raw ++ c :: rest := by
  have hsingle : ∃ c : CodePoint, mark = [c] ∧ c ≠ '\\' := by
    simp only [stringMarks, List.mem_cons, List.not_mem_nil, or_false] at hmark
    rcases hmark with rfl | rfl
    · exact ⟨_, rfl, by decide⟩
    · exact ⟨_, rfl, by decide⟩
  obtain ⟨c, rfl, hne⟩ := hsingle
  exact ⟨c, rfl, (splitAtMark?_eq_some hne).mp h⟩

/-- A string is read between two marks of one code point. -/
theorem string_of_quoted {mark : CodePoint} {raw rest : Text} (hmark : [mark] ∈ stringMarks)
    (hraw : Quoted mark raw) (hs : s.trimStart = mark :: (raw ++ mark :: rest)) :
    string stringMarks s = some ⟨.string, raw, .str raw.decodeEscapes, rest⟩ := by
  have hopen : openingMark? stringMarks s.trimStart = some ([mark], raw ++ mark :: rest) := by
    rcases mem_stringMarks.mp hmark with rfl | rfl
    · rw [hs]
      rfl
    · rw [hs]
      rfl
  have hne : mark ≠ '\\' := by
    rintro rfl
    exact absurd hmark (by decide)
  have hbody : splitAtMark? [mark] (raw ++ mark :: rest) = some (raw, rest) :=
    (splitAtMark?_eq_some hne).mpr ⟨hraw, rfl⟩
  simp only [string, hopen, hbody, Option.bind_eq_bind, Option.bind_some, Option.pure_def]

end Scan

end Mixfix
