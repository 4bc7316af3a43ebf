import Mixfix.Proofs.Parse.Atoms

/-!
# Texts with parentheses in pairs

`Text.Balanced s rest` says that what stands before an end of a text has its parentheses in pairs, where a string
is passed over as a whole, with the parentheses in it. There is one way only to go through a text like this
(`Balanced.linear`). `Text.Closed` says that every parenthesis which opens in a text is closed in it; others may be
closed in it too. A closed text stays closed behind what is balanced, and inside of the parenthesis that it begins
with.

The tokens of a grammar are balanced (`Terminal.balanced_of_match?`), if its constants have no parentheses and no
quotation marks in them.
-/

set_option autoImplicit false

namespace Mixfix

/-- A code point that neither opens nor closes parentheses or strings. -/
def CodePoint.isPlain (c : CodePoint) : Bool :=
  !(c == '(' || c == ')' || c == '"' || c == '\'')

/-- Whether a terminal reads strings between the usual marks, or neither parentheses nor quotation marks. -/
def Terminal.isPlain : Terminal → Bool
  | .string marks => marks == stringMarks
  | .const value => value.all CodePoint.isPlain
  | .number | .identifier | .null | .boolean | .undefined => true

namespace CodePoint

variable {c : CodePoint}

theorem isPlain_eq_true : c.isPlain = true ↔ c ≠ '(' ∧ c ≠ ')' ∧ c ≠ '"' ∧ c ≠ '\'' := by
  simp [isPlain, and_assoc]

/-- No quotation mark is plain. -/
theorem isPlain_of_mem_stringMarks (h : [c] ∈ stringMarks) : c.isPlain = false := by
  simp only [stringMarks, List.mem_cons, List.not_mem_nil, or_false] at h
  rcases h with h | h
  all_goals
    cases h
    decide

theorem isPlain_of_isBlank (h : c.isBlank = true) : c.isPlain = true := by
  rw [isPlain_eq_true]
  refine ⟨?_, ?_, ?_, ?_⟩
  all_goals
    rintro rfl
    exact absurd h (by decide)

theorem isPlain_of_continuesIdentifier (h : c.continuesIdentifier = true) : c.isPlain = true := by
  rw [isPlain_eq_true]
  refine ⟨?_, ?_, ?_, ?_⟩
  all_goals
    rintro rfl
    exact absurd h (by decide)

end CodePoint

namespace Text

/-- What is read of a text up to an end of it has its parentheses in pairs. -/
inductive Balanced : Text → Text → Prop
  | refl (s : Text) : Balanced s s
  | plain {c : CodePoint} {s rest : Text} : c.isPlain = true → Balanced s rest → Balanced (c :: s) rest
  | quoted {mark : CodePoint} {raw s rest : Text} : [mark] ∈ stringMarks → Scan.Quoted mark raw →
      Balanced s rest → Balanced (mark :: (raw ++ mark :: s)) rest
  | parentheses {s t rest : Text} : Balanced s (')' :: t) → Balanced t rest → Balanced ('(' :: s) rest

namespace Balanced

variable {s t u rest : Text}

theorem trans (h : Balanced s t) (hrest : Balanced t rest) : Balanced s rest := by
  induction h with
  | refl => exact hrest
  | plain hc _ ih => exact .plain hc (ih hrest)
  | quoted hmark hraw _ ih => exact .quoted hmark hraw (ih hrest)
  | parentheses hinside _ _ ih => exact .parentheses hinside (ih hrest)

theorem suffix (h : Balanced s rest) : rest <:+ s := by
  induction h with
  | refl s => exact List.suffix_rfl
  | plain _ _ ih => exact ih.trans (List.suffix_cons _ _)
  | @quoted mark raw s _ _ _ _ ih =>
    exact ih.trans ((List.suffix_cons mark s).trans ((List.suffix_append raw _).trans (List.suffix_cons mark _)))
  | @parentheses s t _ _ _ ihs iht =>
    exact iht.trans ((List.suffix_cons _ t).trans (ihs.trans (List.suffix_cons _ s)))

theorem of_all {read : Text} (h : read.all CodePoint.isPlain = true) (rest : Text) :
    Balanced (read ++ rest) rest := by
  induction read with
  | nil => exact .refl rest
  | cons c read ih =>
    rw [List.all_cons, Bool.and_eq_true] at h
    exact .plain h.1 (ih h.2)

/-- Leading blanks are balanced. -/
theorem trimStart (s : Text) : Balanced s s.trimStart := by
  have hblanks : (leadingBlanks s).all CodePoint.isPlain = true :=
    List.all_eq_true.mpr fun c hc =>
      CodePoint.isPlain_of_isBlank (List.all_eq_true.mp List.all_takeWhile c hc)
  have h := of_all hblanks s.trimStart
  rwa [leadingBlanks_append_trimStart] at h

/-- What is plain after the leading blanks is balanced. -/
theorem of_trimStart {read : Text} (hs : s.trimStart = read ++ rest) (h : read.all CodePoint.isPlain = true) :
    Balanced s rest :=
  (trimStart s).trans (hs ▸ of_all h rest)

/-- Nothing balanced begins with a closing parenthesis. -/
theorem eq_of_closing (h : Balanced (')' :: t) rest) : rest = CodePoint.ofChar ')' :: t := by
  cases h with
  | refl => rfl
  | plain hc => exact absurd hc (by decide)
  | quoted hmark => exact absurd hmark (by decide)

/-- **Balanced texts are gone through in one way**: of two ends of a text, one comes before the other. The
induction is on the first, and the second goes through the same code point, string or parenthesis. -/
theorem linear (ht : Balanced s t) (hu : Balanced s u) : Balanced t u ∨ Balanced u t := by
  induction ht generalizing u with
  | refl => exact .inl hu
  | plain hc h ih =>
    cases hu with
    | refl => exact .inr (.plain hc h)
    | plain _ hu => exact ih hu
    | quoted hmark => exact absurd hc (by rw [CodePoint.isPlain_of_mem_stringMarks hmark]; decide)
    | parentheses => exact absurd hc (by decide)
  | @quoted mark raw s _ hmark hraw h ih =>
    have hplain := CodePoint.isPlain_of_mem_stringMarks hmark
    generalize hs : mark :: (raw ++ mark :: s) = text at hu
    cases hu with
    | refl =>
      subst hs
      exact .inr (.quoted hmark hraw h)
    | plain hc =>
      cases hs
      exact absurd hc (by rw [hplain]; decide)
    | @quoted mark' raw' s' _ _ hraw' hu =>
      -- a string ends at the first mark that is not hidden
      obtain ⟨rfl, hbody⟩ := List.cons.inj hs
      have hne : mark ≠ '\\' := by
        rintro rfl
        exact absurd hmark (by decide)
      have hread : Scan.splitAtMark? [mark] (raw ++ mark :: s) = some (raw, s) :=
        (Scan.splitAtMark?_eq_some hne).mpr ⟨hraw, rfl⟩
      have hread' : Scan.splitAtMark? [mark] (raw' ++ mark :: s') = some (raw', s') :=
        (Scan.splitAtMark?_eq_some hne).mpr ⟨hraw', rfl⟩
      rw [hbody, hread'] at hread
      cases hread
      exact ih hu
    | parentheses =>
      cases hs
      exact absurd hmark (by decide)
  | parentheses hinside h ihinside ih =>
    cases hu with
    | refl => exact .inr (.parentheses hinside h)
    | plain hc => exact absurd hc (by decide)
    | quoted hmark => exact absurd hmark (by decide)
    | parentheses hinside' hu =>
      rcases ihinside hinside' with hsame | hsame
      · cases hsame.eq_of_closing
        exact ih hu
      · cases hsame.eq_of_closing
        exact ih hu

/-- What is balanced before a parenthesis that closes does not go on to blanks only. -/
theorem not_isBlank (hclosing : Balanced s (')' :: t)) (h : Balanced s rest) : rest.isBlank = false := by
  rw [Bool.eq_false_iff]
  intro hblank
  have hmem : CodePoint.ofChar ')' ∈ rest := by
    rcases hclosing.linear h with hsame | hsuffix
    · rw [hsame.eq_of_closing]
      exact List.mem_cons_self
    · exact hsuffix.suffix.subset List.mem_cons_self
  exact absurd (List.all_eq_true.mp hblank _ hmem) (by decide)

end Balanced

/-- Every parenthesis that opens in a text is closed in it. -/
inductive Closed : Text → Prop
  | blank {s rest : Text} : Balanced s rest → rest.isBlank = true → Closed s
  | closing {s t : Text} : Balanced s (')' :: t) → Closed t → Closed s

namespace Closed

variable {s rest : Text}

/-- Behind what is balanced a closed text is closed. -/
theorem of_balanced (h : s.Closed) (hrest : Balanced s rest) : rest.Closed := by
  cases h with
  | blank hblank hend =>
    rcases hrest.linear hblank with hlater | hearlier
    · exact .blank hlater hend
    · refine .blank (.refl rest) (List.all_eq_true.mpr fun c hc => ?_)
      exact List.all_eq_true.mp hend c (hearlier.suffix.subset hc)
  | closing hclosing ht =>
    rcases hrest.linear hclosing with hlater | hearlier
    · exact .closing hlater ht
    · rw [hearlier.eq_of_closing]
      exact .closing (.refl _) ht

/-- A parenthesis that a closed text begins with is closed, and what is in it is a closed text. -/
theorem inside (h : Closed ('(' :: s)) : s.Closed ∧ ∃ t, Balanced s (')' :: t) := by
  cases h with
  | blank hblank hend =>
    cases hblank with
    | refl =>
      rw [isBlank_cons, Bool.and_eq_true] at hend
      exact absurd hend.1 (by decide)
    | plain hc => exact absurd hc (by decide)
    | quoted hmark => exact absurd hmark (by decide)
    | parentheses hinside hrest => exact ⟨.closing hinside (.blank hrest hend), _, hinside⟩
  | closing hclosing ht =>
    cases hclosing with
    | plain hc => exact absurd hc (by decide)
    | quoted hmark => exact absurd hmark (by decide)
    | parentheses hinside hrest => exact ⟨.closing hinside (.closing hrest ht), _, hinside⟩

end Closed

end Text

/-! ## Tokens -/

/-- No digit, sign or point of a numeral is a parenthesis or a quotation mark. -/
theorem Numeral.isPlain_text (n : Numeral) : n.text.all CodePoint.isPlain = true := by
  have hdigits : ∀ digits : Text, digits.all CodePoint.isDigit = true → digits.all CodePoint.isPlain = true := by
    intro digits h
    refine List.all_eq_true.mpr fun c hc => CodePoint.isPlain_of_continuesIdentifier ?_
    rw [CodePoint.continuesIdentifier, List.all_eq_true.mp h c hc, Bool.or_true]
  obtain ⟨negative, whole, fraction, -, hwhole, hfraction⟩ := n
  have hsign : (sign negative).all CodePoint.isPlain = true := by cases negative <;> decide
  have hpointed : (pointed fraction).all CodePoint.isPlain = true := by
    cases fraction with
    | nil => rfl
    | cons d fraction =>
      rw [pointed, List.all_cons, hdigits _ hfraction]
      decide
  simp only [text, List.all_append, hsign, hdigits whole hwhole, hpointed, Bool.and_self]

namespace Scan

open Text

variable {s : Text}

theorem balanced_swallowPoint (tail : Text) : Balanced tail (swallowPoint tail) := by
  rcases swallowPoint_cases tail with ⟨hrest, -⟩ | ⟨htail, -⟩
  · rw [hrest]
    exact .refl tail
  · generalize swallowPoint tail = rest at htail ⊢
    subst htail
    exact .plain (by decide) (.refl rest)

theorem balanced_of_splitAtMark? {mark body raw rest : Text} (hmark : mark ∈ stringMarks)
    (hs : s.trimStart = mark ++ body) (hsplit : splitAtMark? mark body = some (raw, rest)) : Balanced s rest := by
  obtain ⟨c, rfl, hraw, rfl⟩ := quoted_of_splitAtMark? hmark hsplit
  have hquoted : Balanced s.trimStart rest := hs ▸ .quoted hmark hraw (.refl rest)
  exact (Balanced.trimStart s).trans hquoted

end Scan

/-- **What a terminal reads is balanced**, if it is one that reads no parentheses. -/
theorem Terminal.balanced_of_match? {context : Context} {s : Text} {t : Terminal} {r : Match Node}
    (ht : t.isPlain = true) (h : t.match? context s = .ok (some r)) : Text.Balanced s r.rest := by
  cases matches_of_match? h with
  | number n _ hs _ => exact (Text.Balanced.of_trimStart hs n.isPlain_text).trans (Scan.balanced_swallowPoint _)
  | @string marks _ _ _ _ hmark hs hsplit =>
    obtain rfl : marks = stringMarks := by simpa [isPlain] using ht
    exact Scan.balanced_of_splitAtMark? hmark hs hsplit
  | keyword k hs _ => exact .of_trimStart hs (by cases k <;> decide)
  | identifier hname hs _ =>
    refine .of_trimStart hs (List.all_eq_true.mpr fun c hc => ?_)
    exact CodePoint.isPlain_of_continuesIdentifier (List.all_eq_true.mp hname.2 c hc)
  | const value hs => exact .of_trimStart hs ht

end Mixfix
