import Mathlib.Data.List.Basic
import Mixfix.Text

/-!
# Fronts and rests of texts

What it means that a text is read up to a rest. `Text.Advances s rest` says that `rest` is an end of
`s` and that more than blanks stand before it. Every scanner advances, so every parse does, and this is
what bounds the parsing engine: an end of a text that something was read of is shorter than the text.
-/

set_option autoImplicit false

namespace Mixfix

namespace Text

/-- A text begins with `start` exactly where something follows `start` in it. -/
theorem after?_eq_some {start s rest : Text} : after? start s = some rest ↔ s = start ++ rest := by
  induction start generalizing s with
  | nil => simp only [after?, Option.some.injEq, List.nil_append]
  | cons a start ih =>
    cases s with
    | nil => simp [after?]
    | cons b s =>
      by_cases h : a = b
      · simp [after?, h, ih]
      · simp [after?, h, Ne.symm h]

@[simp] theorem after?_append (start rest : Text) : after? start (start ++ rest) = some rest :=
  after?_eq_some.mpr rfl

/-- The leading blanks of a text. -/
def leadingBlanks (s : Text) : Text :=
  s.takeWhile CodePoint.isBlank

theorem leadingBlanks_append_trimStart (s : Text) : leadingBlanks s ++ trimStart s = s :=
  List.takeWhile_append_dropWhile

@[simp] theorem isBlank_nil : isBlank [] = true := rfl

@[simp] theorem isBlank_cons (c : CodePoint) (s : Text) :
    isBlank (c :: s) = (c.isBlank && isBlank s) := rfl

@[simp] theorem isBlank_append (s t : Text) : isBlank (s ++ t) = (isBlank s && isBlank t) :=
  List.all_append

@[simp] theorem trimStart_nil : trimStart [] = [] := rfl

theorem trimStart_cons_of_blank {c : CodePoint} (h : c.isBlank = true) (s : Text) :
    trimStart (c :: s) = trimStart s :=
  List.dropWhile_cons_of_pos h

theorem trimStart_cons_of_not_blank {c : CodePoint} (h : c.isBlank = false) (s : Text) :
    trimStart (c :: s) = c :: s :=
  List.dropWhile_cons_of_neg (by simp [h])

/-- Blanks before a text go with its leading blanks. -/
theorem trimStart_append_of_blank {b : Text} (h : b.isBlank = true) (s : Text) :
    trimStart (b ++ s) = trimStart s := by
  induction b with
  | nil => rfl
  | cons c b ih =>
    rw [isBlank_cons, Bool.and_eq_true] at h
    rw [List.cons_append, trimStart_cons_of_blank h.1, ih h.2]

/-- A text without its leading blanks does not begin with a blank. -/
theorem isBlank_of_trimStart_eq_cons {s rest : Text} {c : CodePoint} (h : trimStart s = c :: rest) :
    c.isBlank = false := by
  induction s with
  | nil => cases h
  | cons d s ih =>
    cases hd : d.isBlank with
    | true => exact ih (by rwa [trimStart_cons_of_blank hd] at h)
    | false =>
      rw [trimStart_cons_of_not_blank hd] at h
      cases h
      exact hd

theorem trimStart_eq_nil_iff {s : Text} : trimStart s = [] ↔ s.isBlank = true := by
  induction s with
  | nil => simp
  | cons c s ih =>
    cases hc : c.isBlank with
    | true => simp [trimStart_cons_of_blank hc, hc, ih]
    | false => simp [trimStart_cons_of_not_blank hc, hc]

/-- A text that goes on behind what is left of its front without blanks. -/
theorem trimStart_append {s front : Text} {c : CodePoint} (h : trimStart s = c :: front) (t : Text) :
    trimStart (s ++ t) = c :: front ++ t := by
  have hblank : (leadingBlanks s).isBlank = true := List.all_takeWhile
  rw [← leadingBlanks_append_trimStart s, h, List.append_assoc, trimStart_append_of_blank hblank]
  exact trimStart_cons_of_not_blank (isBlank_of_trimStart_eq_cons h) (front ++ t)

/-- What is left behind the front of a text without its blanks is an end of it. -/
theorem suffix_of_trimStart {s read rest : Text} (h : trimStart s = read ++ rest) : rest <:+ s :=
  (List.suffix_append read rest).trans (h ▸ List.dropWhile_suffix _)

/-- Blanks stand around a text that is trimmed. -/
theorem exists_trim (s : Text) :
    ∃ front back : Text, front.isBlank = true ∧ back.isBlank = true ∧ s = front ++ (s.trim ++ back) := by
  let back : Text := (s.trimStart.reverse.takeWhile CodePoint.isBlank).reverse
  have hback : back.isBlank = true := List.all_reverse.trans List.all_takeWhile
  have hend : s.trim ++ back = s.trimStart := by
    rw [trim, trimEnd, ← List.reverse_append, List.takeWhile_append_dropWhile, List.reverse_reverse]
  refine ⟨s.leadingBlanks, back, List.all_takeWhile, hback, ?_⟩
  rw [hend, leadingBlanks_append_trimStart]

/-! ## Joining -/

theorem join_cons (separator s : Text) {rest : List Text} (h : rest ≠ []) :
    join separator (s :: rest) = s ++ (separator ++ join separator rest) := by
  cases rest with
  | nil => exact absurd rfl h
  | cons t rest => rw [join, List.append_assoc]

/-- Two lists of texts are joined one after the other, with a separator between them. -/
theorem join_append (separator : Text) {first second : List Text} (hfirst : first ≠ [])
    (hsecond : second ≠ []) :
    join separator (first ++ second) = join separator first ++ (separator ++ join separator second) := by
  induction first with
  | nil => exact absurd rfl hfirst
  | cons s first ih =>
    cases first with
    | nil => exact join_cons separator s hsecond
    | cons t first =>
      have hrest := ih (List.cons_ne_nil t first)
      calc join separator (s :: (t :: first ++ second))
          = s ++ (separator ++ join separator (t :: first ++ second)) :=
            join_cons separator s (List.cons_ne_nil _ _)
        _ = s ++ (separator ++ join separator (t :: first)) ++ (separator ++ join separator second) := by
            rw [hrest]
            simp only [List.append_assoc]
        _ = join separator (s :: t :: first) ++ (separator ++ join separator second) := by
            rw [join_cons separator s (List.cons_ne_nil t first)]

/-! ## Runs -/

/-- Whether a text begins with a code point of a property. -/
def begins (p : CodePoint → Bool) : Text → Bool
  | [] => false
  | c :: _ => p c

@[simp] theorem begins_nil (p : CodePoint → Bool) : begins p [] = false := rfl

@[simp] theorem begins_cons (p : CodePoint → Bool) (c : CodePoint) (s : Text) :
    begins p (c :: s) = p c := rfl

theorem begins_append {p : CodePoint → Bool} {s : Text} (h : begins p s = true) (t : Text) :
    begins p (s ++ t) = true := by
  cases s with
  | nil => cases h
  | cons c s => exact h

theorem begins_mono {p q : CodePoint → Bool} (hpq : ∀ c, p c = true → q c = true) {s : Text}
    (h : begins p s = true) : begins q s = true := by
  cases s with
  | nil => cases h
  | cons c s => exact hpq c h

/-- A text that begins with no blank has no leading blanks. -/
theorem trimStart_of_begins {p : CodePoint → Bool} (hp : ∀ c, p c = true → c.isBlank = false) {s : Text}
    (h : begins p s = true) : trimStart s = s := by
  cases s with
  | nil => cases h
  | cons c s => exact trimStart_cons_of_not_blank (hp c h) s

/-- What a run leaves does not begin with a code point of the run. -/
theorem begins_dropWhile (p : CodePoint → Bool) (s : Text) : begins p (s.dropWhile p) = false := by
  induction s with
  | nil => rfl
  | cons c s ih =>
    cases hc : p c with
    | true => rwa [List.dropWhile_cons_of_pos hc]
    | false => rw [List.dropWhile_cons_of_neg (by simp [hc]), begins_cons, hc]

/-- A run and what it leaves are the text. -/
theorem takeRun_append (p : CodePoint → Bool) (s : Text) : (takeRun p s).1 ++ (takeRun p s).2 = s :=
  List.takeWhile_append_dropWhile

/-- A run of a property is taken whole and no further. -/
theorem takeRun_of_all {p : CodePoint → Bool} {run rest : Text} (hrun : run.all p = true)
    (hrest : begins p rest = false) : takeRun p (run ++ rest) = (run, rest) := by
  induction run with
  | nil =>
    cases rest with
    | nil => rfl
    | cons c rest =>
      have hc : ¬ p c = true := by simpa using hrest
      simp [takeRun, hc]
  | cons c run ih =>
    rw [List.all_cons, Bool.and_eq_true] at hrun
    have h := ih hrun.2
    simp only [takeRun, Prod.mk.injEq] at h
    simp [takeRun, hrun.1, h]

/-- What begins with code points of one property begins with none of another that excludes it. -/
theorem begins_of_excludes {p q : CodePoint → Bool} (hpq : ∀ c, p c = true → q c = false) {s : Text}
    (h : begins p s = true) : begins q s = false := by
  cases s with
  | nil => rfl
  | cons c s => exact hpq c h

/-- A run is as long where the text goes on with something else. -/
theorem takeRun_before {p : CodePoint → Bool} {rest : Text} (hrest : begins p rest = false) (s : Text) :
    takeRun p (s ++ rest) = ((takeRun p s).1, (takeRun p s).2 ++ rest) := by
  have hleft : begins p ((takeRun p s).2 ++ rest) = false := by
    have hstop : begins p (takeRun p s).2 = false := begins_dropWhile p s
    cases hleft : (takeRun p s).2 with
    | nil => exact hrest
    | cons c left => rwa [hleft] at hstop
  have hrun : (takeRun p s).1.all p = true := List.all_takeWhile
  conv_lhs => rw [← takeRun_append p s, List.append_assoc]
  exact takeRun_of_all hrun hleft

/-! ## Advancing -/

/-- `rest` is an end of `s`, and more than blanks stand before it. -/
def Advances (s rest : Text) : Prop :=
  ∃ read : Text, s = read ++ rest ∧ read.isBlank = false

namespace Advances

variable {s t u : Text}

theorem suffix (h : Advances s t) : t <:+ s := by
  obtain ⟨read, rfl, -⟩ := h
  exact List.suffix_append read t

theorem length_lt (h : Advances s t) : t.length < s.length := by
  obtain ⟨read, rfl, hread⟩ := h
  cases read with
  | nil => cases hread
  | cons c read => simp only [List.cons_append, List.length_cons, List.length_append]; omega

/-- Blank text has nothing in it to read. -/
theorem not_isBlank (h : Advances s t) : s.isBlank = false := by
  obtain ⟨read, rfl, hread⟩ := h
  rw [isBlank_append, hread, Bool.false_and]

/-- Reading on from a rest advances too. -/
theorem of_suffix (h : Advances t u) (hs : t <:+ s) : Advances s u := by
  obtain ⟨before, rfl⟩ := hs
  obtain ⟨read, rfl, hread⟩ := h
  exact ⟨before ++ read, by rw [List.append_assoc], by rw [isBlank_append, hread, Bool.and_false]⟩

/-- A rest goes on to a rest that is an end of it. -/
theorem to_suffix (h : Advances s t) (hu : u <:+ t) : Advances s u := by
  obtain ⟨between, rfl⟩ := hu
  obtain ⟨read, rfl, hread⟩ := h
  exact ⟨read ++ between, by rw [List.append_assoc], by rw [isBlank_append, hread, Bool.false_and]⟩

end Advances

/-- What is read after the leading blanks begins with no blank, so it counts. -/
theorem advances_of_trimStart {s read rest : Text} (h : trimStart s = read ++ rest)
    (hread : read ≠ []) : Advances s rest := by
  cases read with
  | nil => exact absurd rfl hread
  | cons c read =>
    refine ⟨leadingBlanks s ++ c :: read, ?_, ?_⟩
    · rw [List.append_assoc, ← h, leadingBlanks_append_trimStart]
    · simp [isBlank_of_trimStart_eq_cons h]

end Text

end Mixfix
