import Mixfix.Descriptor.Token
import Mixfix.Proofs.Except
import Mixfix.Proofs.Json.Scalar
import Mixfix.Proofs.Token.Front

/-!
# Tokens of texts that go on

A token is read where its own text stands at the front (`token?_eq_some`), and it is the same token where the
text goes on with a blank or closes a parenthesis (`token?_before`): a number, a name or a symbol ends there, and a
quoted text ends where it is closed. So what has tokens keeps them before a blank (`tokensOf_space`), before a bar
(**`tokensOf_join`**) and in parentheses (`tokensOf_list`), and a JSON string is one token (`tokensOf_quote`).
-/

set_option autoImplicit false

namespace Mixfix.Descriptor

variable {s rest after read : Text} {mark : CodePoint} {token : Token}

/-! ## Quoted texts -/

/-- What stands in a quoted text behind its opening mark, up to the mark that closes it and with this. -/
inductive Closes (mark : CodePoint) : Text → Prop
  | mark : Closes mark [mark]
  | escape {e : CodePoint} {body : Text} : CodePoint.ofChar '\\' ≠ mark → e ≠ CodePoint.ofChar '\n' →
      Closes mark body → Closes mark (CodePoint.ofChar '\\' :: e :: body)
  | point {c : CodePoint} {body : Text} : c ≠ mark → c ≠ CodePoint.ofChar '\\' → Closes mark body →
      Closes mark (c :: body)

/-- A quoted text is read up to the mark that closes it, whatever follows. -/
theorem Closes.quotedRest?_append {body : Text} (h : Closes mark body) (rest : Text) :
    quotedRest? mark (body ++ rest) = some (body, rest) := by
  induction h with
  | mark =>
    unfold quotedRest?
    exact if_pos rfl
  | escape hmark he _ ih =>
    simp only [List.cons_append]
    unfold quotedRest?
    rw [if_neg hmark, if_pos rfl]
    dsimp only
    rw [if_neg he, ih]
    rfl
  | point hmark hbackslash _ ih =>
    rw [List.cons_append]
    unfold quotedRest?
    rw [if_neg hmark, if_neg hbackslash, ih]
    rfl

/-- What is read of a quoted text closes it. -/
theorem quotedRest?_eq_some {body : Text} (h : quotedRest? mark s = some (body, after)) :
    s = body ++ after ∧ Closes mark body := by
  fun_induction quotedRest? mark s generalizing body after with
  | case1 => cases h
  | case2 rest =>
    cases h
    exact ⟨rfl, .mark⟩
  | case3 | case4 => cases h
  | case5 e rest he hmark ih =>
    obtain ⟨⟨body, after⟩, hread, heq⟩ := Option.map_eq_some_iff.mp h
    cases heq
    obtain ⟨rfl, hcloses⟩ := ih hread
    exact ⟨rfl, .escape hmark he hcloses⟩
  | case6 c rest hmark hbackslash ih =>
    obtain ⟨⟨body, after⟩, hread, heq⟩ := Option.map_eq_some_iff.mp h
    cases heq
    obtain ⟨rfl, hcloses⟩ := ih hread
    exact ⟨rfl, .point hmark hbackslash hcloses⟩

/-- A mark that a quoted text can begin with. -/
def isMark (c : CodePoint) : Bool :=
  c == '"' || c == '\''

/-- A quoted text is a mark and what closes it. -/
theorem quoted?_eq_some :
    quoted? s = some (token, after) ↔ ∃ mark body, isMark mark = true ∧ Closes mark body ∧
      token = .quoted (mark :: body) ∧ s = mark :: body ++ after := by
  constructor
  · intro h
    cases s with
    | nil => cases h
    | cons c s =>
      unfold quoted? at h
      dsimp only at h
      split at h
      · rename_i hmark
        obtain ⟨⟨body, after⟩, hread, heq⟩ := Option.map_eq_some_iff.mp h
        cases heq
        obtain ⟨rfl, hcloses⟩ := quotedRest?_eq_some hread
        exact ⟨c, body, by simpa [isMark] using hmark, hcloses, rfl, rfl⟩
      · cases h
  · rintro ⟨mark, body, hmark, hcloses, rfl, rfl⟩
    unfold quoted?
    rw [List.cons_append]
    dsimp only
    rw [if_pos (by simpa [isMark] using hmark), hcloses.quotedRest?_append]
    rfl

/-! ## What is read stands at the front -/

theorem digits?_eq_some (h : digits? s = some (read, after)) : s = read ++ after ∧ read ≠ [] := by
  unfold digits? at h
  have hrun := Text.takeRun_append CodePoint.isDigit s
  generalize Text.takeRun CodePoint.isDigit s = run at h hrun
  obtain ⟨digits, rest⟩ := run
  cases digits with
  | nil => cases h
  | cons c digits =>
    cases h
    exact ⟨hrun.symm, List.cons_ne_nil _ _⟩

theorem unsigned?_eq_some (h : unsigned? s = some (read, after)) : s = read ++ after ∧ read ≠ [] := by
  obtain ⟨⟨whole, rest⟩, hwhole, hread⟩ := Option.bind_eq_some_iff.mp h
  clear h
  obtain ⟨rfl, hne⟩ := digits?_eq_some hwhole
  dsimp only at hread
  split at hread
  · cases hread
    exact ⟨rfl, hne⟩
  · rename_i c rest
    split at hread
    · split at hread
      · rename_i fraction left hfraction
        cases hread
        obtain ⟨rfl, -⟩ := digits?_eq_some hfraction
        exact ⟨by simp, by simp⟩
      · cases hread
        exact ⟨rfl, hne⟩
    · cases hread
      exact ⟨rfl, hne⟩

theorem number?_eq_some (h : number? s = some (token, after)) : s = token.text ++ after ∧ token.text ≠ [] := by
  unfold number? at h
  split at h
  · cases h
  · split at h
    · obtain ⟨⟨digits, after⟩, hread, heq⟩ := Option.map_eq_some_iff.mp h
      cases heq
      obtain ⟨rfl, -⟩ := unsigned?_eq_some hread
      exact ⟨rfl, List.cons_ne_nil _ _⟩
    · obtain ⟨⟨digits, after⟩, hread, heq⟩ := Option.map_eq_some_iff.mp h
      cases heq
      exact unsigned?_eq_some hread

/-- A code point that a word may begin with. -/
def startsWord (c : CodePoint) : Bool :=
  c.isLetter || c == '_'

/-- A code point that a word may go on with. -/
def continuesWord (c : CodePoint) : Bool :=
  c.isLetter || c.isDigit || c == '_'

theorem word?_eq (s : Text) :
    word? s = if s.begins startsWord then some (Text.takeRun continuesWord s) else none := by
  cases s <;> rfl

theorem word?_eq_some (h : word? s = some (read, after)) : s = read ++ after ∧ read ≠ [] := by
  rw [word?_eq] at h
  split at h
  · rename_i hstarts
    have hrun := Text.takeRun_append continuesWord s
    rw [Option.some.inj h] at hrun
    refine ⟨hrun.symm, ?_⟩
    rintro rfl
    cases s with
    | nil => cases hstarts
    | cons c s =>
      have hcontinues : continuesWord c = true := by
        rw [Text.begins_cons, startsWord] at hstarts
        rw [continuesWord, Bool.or_right_comm, hstarts, Bool.true_or]
      simp [Text.takeRun, hcontinues] at h
  · cases h

theorem moreWords_append (fuel : Nat) (s : Text) : (moreWords fuel s).1 ++ (moreWords fuel s).2 = s := by
  induction fuel generalizing s with
  | zero => rfl
  | succ fuel ih =>
    cases s with
    | nil => rfl
    | cons c s =>
      unfold moreWords
      dsimp only
      split
      · split
        · rename_i word rest hword
          obtain ⟨rfl, -⟩ := word?_eq_some hword
          simp [ih]
        · rfl
      · rfl

theorem name?_eq_some (h : name? s = some (token, after)) : s = token.text ++ after ∧ token.text ≠ [] := by
  obtain ⟨⟨word, rest⟩, hword, heq⟩ := Option.map_eq_some_iff.mp h
  cases heq
  obtain ⟨rfl, hne⟩ := word?_eq_some hword
  refine ⟨?_, fun hnil => hne (List.append_eq_nil_iff.mp hnil).1⟩
  rw [Token.text, List.append_assoc, moreWords_append]

theorem symbol?_eq_some (h : symbol? s = some (token, after)) : s = token.text ++ after ∧ token.text ≠ [] := by
  obtain ⟨symbol, -, hsymbol⟩ := List.exists_of_findSome?_eq_some h
  obtain ⟨rest, hrest, heq⟩ := Option.map_eq_some_iff.mp hsymbol
  cases heq
  refine ⟨Text.after?_eq_some.mp hrest, ?_⟩
  cases symbol <;> decide

/-- A token is read where its text stands, and it is not empty. -/
theorem token?_eq_some (h : token? s = some (token, after)) : s = token.text ++ after ∧ token.text ≠ [] := by
  unfold token? at h
  rcases Option.or_eq_some_iff.mp h with h | ⟨-, h⟩
  · obtain ⟨mark, body, -, -, rfl, rfl⟩ := quoted?_eq_some.mp h
    exact ⟨rfl, List.cons_ne_nil _ _⟩
  · rcases Option.or_eq_some_iff.mp h with h | ⟨-, h⟩
    · exact number?_eq_some h
    · rcases Option.or_eq_some_iff.mp h with h | ⟨-, h⟩
      · exact name?_eq_some h
      · exact symbol?_eq_some h

theorem length_lt_of_token? (h : token? s = some (token, after)) : after.length < s.length := by
  obtain ⟨rfl, hne⟩ := token?_eq_some h
  rw [List.length_append]
  exact Nat.lt_add_of_pos_left (List.length_pos_iff.mpr hne)

/-! ## Texts that go on behind a token -/

/-- What is read of a text that goes on: the same, with more text after it. -/
def before {α : Type} (rest : Text) : Option (α × Text) → Option (α × Text) :=
  Option.map fun found => (found.1, found.2 ++ rest)

theorem before_map {α β : Type} (f : α → β) (found : Option (α × Text)) :
    (before rest found).map (fun found => (f found.1, found.2)) =
      before rest (found.map fun found => (f found.1, found.2)) := by
  cases found <;> rfl

/-- A code point that ends the token before it: a blank, or the closing parenthesis. -/
def parts (c : CodePoint) : Bool :=
  c.isBlank || c == ')'

/-- A text that begins with what ends a token. -/
def Parted (rest : Text) : Prop :=
  rest.begins parts = true

theorem parted_of_blank (h : rest.begins CodePoint.isBlank = true) : Parted rest :=
  Text.begins_mono (fun _ hblank => Bool.or_eq_true_iff.mpr (.inl hblank)) h

namespace Parted

theorem ne {c d : CodePoint} (h : Parted (c :: rest)) (hd : parts d = false) : c ≠ d := by
  rintro rfl
  exact Bool.false_ne_true (hd.symm.trans h)

/-- What ends a token belongs to no number and to no name. -/
theorem begins {p : CodePoint → Bool} (h : Parted rest) (hp : ∀ c, p c = true → c.continuesIdentifier = true) :
    rest.begins p = false := by
  refine Text.begins_of_excludes (fun c hparts => ?_) h
  have hends : c.continuesIdentifier = false := by
    rcases Bool.or_eq_true_iff.mp hparts with hblank | hclosing
    · exact CodePoint.not_continues_of_isBlank hblank
    · rw [beq_iff_eq.mp hclosing]
      decide
  by_contra hc
  rw [Bool.not_eq_false] at hc
  exact Bool.false_ne_true (hends.symm.trans (hp c hc))

variable (hrest : Parted rest)
include hrest

theorem digits? (s : Text) : digits? (s ++ rest) = before rest (digits? s) := by
  have hdigit : rest.begins CodePoint.isDigit = false :=
    hrest.begins fun c hc => by simp [CodePoint.continuesIdentifier, hc]
  unfold Descriptor.digits?
  rw [Text.takeRun_before hdigit]
  cases Text.takeRun CodePoint.isDigit s with
  | mk run left => cases run <;> rfl

theorem unsigned? (s : Text) : unsigned? (s ++ rest) = before rest (unsigned? s) := by
  unfold Descriptor.unsigned?
  rw [hrest.digits?]
  cases Descriptor.digits? s with
  | none => rfl
  | some result =>
    obtain ⟨whole, left⟩ := result
    cases left with
    | nil =>
      cases rest with
      | nil => cases hrest
      | cons c rest => simp [before, hrest.ne (d := CodePoint.ofChar '.') (by decide)]
    | cons c left =>
      by_cases hpoint : c = CodePoint.ofChar '.'
      · subst hpoint
        simp only [before, Option.map_some, Option.bind_eq_bind, Option.bind_some, List.cons_append, if_true]
        rw [hrest.digits?]
        cases Descriptor.digits? left <;> simp [before]
      · simp [before, hpoint]

theorem number? {c : CodePoint} (s : Text) : number? (c :: s ++ rest) = before rest (number? (c :: s)) := by
  unfold Descriptor.number?
  rw [List.cons_append]
  dsimp only
  by_cases hminus : c = CodePoint.ofChar '-'
  · rw [if_pos hminus, if_pos hminus, hrest.unsigned?]
    exact before_map (fun digits => Token.number (c :: digits)) _
  · rw [if_neg hminus, if_neg hminus, ← List.cons_append, hrest.unsigned?]
    exact before_map Token.number _

theorem word? (s : Text) : word? (s ++ rest) = before rest (word? s) := by
  have hcontinues : rest.begins continuesWord = false := hrest.begins fun c hc => by
    simp only [continuesWord, Bool.or_eq_true] at hc
    simp only [CodePoint.continuesIdentifier, CodePoint.startsIdentifier, Bool.or_eq_true]
    tauto
  have hstarts : (s ++ rest).begins startsWord = s.begins startsWord := by
    cases s with
    | nil =>
      refine hrest.begins fun c hc => ?_
      rw [startsWord] at hc
      rw [CodePoint.continuesIdentifier, CodePoint.startsIdentifier, hc, Bool.true_or, Bool.true_or]
    | cons c s => rfl
  rw [word?_eq, word?_eq, hstarts, Text.takeRun_before hcontinues]
  split <;> rfl

theorem moreWords_eq (fuel : Nat) : Descriptor.moreWords fuel rest = ([], rest) := by
  cases fuel with
  | zero => rfl
  | succ fuel =>
    cases rest with
    | nil => rfl
    | cons c rest =>
      rw [Descriptor.moreWords]
      exact if_neg (hrest.ne (by decide))

/-- The fuel does not matter, as long as it is enough for the text before what ends the token. -/
theorem moreWords {fuel fuel' : Nat} {s : Text} (hfuel : s.length ≤ fuel) (hfuel' : s.length ≤ fuel') :
    moreWords fuel' (s ++ rest) = ((moreWords fuel s).1, (moreWords fuel s).2 ++ rest) := by
  induction fuel generalizing fuel' s with
  | zero =>
    obtain rfl := List.length_eq_zero_iff.mp (Nat.le_zero.mp hfuel)
    exact hrest.moreWords_eq fuel'
  | succ fuel ih =>
    cases s with
    | nil => exact hrest.moreWords_eq fuel'
    | cons c s =>
      obtain ⟨fuel', rfl⟩ := Nat.exists_eq_add_one_of_ne_zero (Nat.ne_zero_of_lt hfuel')
      rw [List.length_cons] at hfuel hfuel'
      rw [List.cons_append, Descriptor.moreWords, Descriptor.moreWords, hrest.word?]
      by_cases hpoint : c = CodePoint.ofChar '.'
      · rw [if_pos hpoint, if_pos hpoint]
        cases hword : Descriptor.word? s with
        | none => rfl
        | some found =>
          obtain ⟨word, left⟩ := found
          obtain ⟨rfl, -⟩ := word?_eq_some hword
          rw [List.length_append] at hfuel hfuel'
          simp only [before, Option.map_some]
          rw [ih (show left.length ≤ fuel by omega) (show left.length ≤ fuel' by omega)]
      · rw [if_neg hpoint, if_neg hpoint]
        rfl

theorem name? (s : Text) : name? (s ++ rest) = before rest (name? s) := by
  unfold Descriptor.name?
  rw [hrest.word?]
  cases Descriptor.word? s with
  | none => rfl
  | some result =>
    obtain ⟨word, left⟩ := result
    simp [before, hrest.moreWords (Nat.le_refl left.length)]

theorem after? {start : Text} (hstart : start.all (fun c => !parts c) = true) (s : Text) :
    Text.after? start (s ++ rest) = (Text.after? start s).map (· ++ rest) := by
  induction start generalizing s with
  | nil => rfl
  | cons a start ih =>
    simp only [List.all_cons, Bool.and_eq_true, Bool.not_eq_true'] at hstart
    cases s with
    | nil =>
      cases rest with
      | nil => rfl
      | cons c rest => exact if_neg (hrest.ne hstart.1).symm
    | cons b s =>
      rw [List.cons_append, Text.after?, Text.after?]
      split
      · exact ih hstart.2 s
      · rfl

/-- A parenthesis that stands first is a symbol of its own, and in no other symbol does it stand behind the first
code point. -/
theorem symbol? {c : CodePoint} (s : Text) : symbol? (c :: s ++ rest) = before rest (symbol? (c :: s)) := by
  unfold Descriptor.symbol? before
  rw [List.map_findSome?]
  refine congrArg (symbols.findSome? ·) (funext fun symbol => ?_)
  obtain ⟨first, others, htext, hothers⟩ : ∃ first others, symbol.text = first :: others ∧
      others.all (fun c => !parts c) = true := by
    cases symbol <;> exact ⟨_, _, rfl, rfl⟩
  have hafter : Text.after? symbol.text (c :: s ++ rest) = (Text.after? symbol.text (c :: s)).map (· ++ rest) := by
    rw [htext, List.cons_append, Text.after?, Text.after?]
    split
    · exact hrest.after? hothers s
    · rfl
  rw [hafter, Function.comp_apply]
  cases Text.after? symbol.text (c :: s) <;> rfl

end Parted

/-- Nothing but a quoted text begins with a mark. -/
theorem quoted?_of_mark {c : CodePoint} (hmark : isMark c = true) (s : Text) :
    token? (c :: s) = quoted? (c :: s) := by
  have hnone : number? (c :: s) = none ∧ name? (c :: s) = none ∧ symbol? (c :: s) = none := by
    rcases (Bool.or_eq_true _ _).mp hmark with h | h <;> rw [beq_iff_eq.mp h] <;> exact ⟨rfl, rfl, rfl⟩
  rw [token?, hnone.1, hnone.2.1, hnone.2.2]
  simp

/-- A token stays the same where its text goes on with what ends it. -/
theorem token?_before (hrest : Parted rest) (h : token? s = some (token, after)) :
    token? (s ++ rest) = some (token, after ++ rest) := by
  cases s with
  | nil => cases h
  | cons c s =>
    by_cases hmark : isMark c = true
    · rw [quoted?_of_mark hmark] at h
      obtain ⟨mark, body, hmark', hcloses, rfl, heq⟩ := quoted?_eq_some.mp h
      rw [List.cons_append, quoted?_of_mark hmark]
      refine quoted?_eq_some.mpr ⟨mark, body, hmark', hcloses, rfl, ?_⟩
      rw [← List.cons_append, heq, List.append_assoc]
    · have hquoted : ∀ t, quoted? (c :: t) = none := fun t => by
        unfold quoted?
        exact if_neg (by simpa [isMark] using hmark)
      have hbefore : token? (c :: s ++ rest) = before rest (token? (c :: s)) := by
        unfold token?
        rw [hrest.number?, hrest.name?, hrest.symbol?, List.cons_append, hquoted, hquoted]
        simp only [before, Option.map_or, Option.none_or]
      rw [hbefore, h]
      rfl

/-! ## All tokens -/

/-- Fuel for all of a text is enough, however much there is. -/
theorem tokenize_of_length_le {fuel fuel' : Nat} (hfuel : s.length ≤ fuel) (hfuel' : s.length ≤ fuel') :
    tokenize fuel s = tokenize fuel' s := by
  induction fuel generalizing fuel' s with
  | zero =>
    obtain rfl := List.length_eq_zero_iff.mp (Nat.le_zero.mp hfuel)
    cases fuel' <;> rfl
  | succ fuel ih =>
    cases fuel' with
    | zero =>
      obtain rfl := List.length_eq_zero_iff.mp (Nat.le_zero.mp hfuel')
      rfl
    | succ fuel' =>
      unfold tokenize
      have hlength : s.trimStart.length ≤ s.length := (List.dropWhile_suffix _).length_le
      split
      · rfl
      · rename_i c front htrim
        cases htoken : token? (c :: front) with
        | none => rfl
        | some found =>
          have hlt := length_lt_of_token? htoken
          rw [htrim] at hlength
          dsimp only
          rw [ih (show found.2.length ≤ fuel by omega) (show found.2.length ≤ fuel' by omega)]

/-- The tokens of a whole text. -/
def tokensOf (s : Text) : Except CodePoint (List Token) :=
  tokenize s.length s

theorem tokenize_eq_tokensOf {fuel : Nat} (hfuel : s.length ≤ fuel) : tokenize fuel s = tokensOf s :=
  tokenize_of_length_le hfuel (Nat.le_refl _)

/-- Blanks at the front have no tokens. -/
theorem tokensOf_append_of_blank {b : Text} (hb : b.isBlank = true) (s : Text) : tokensOf (b ++ s) = tokensOf s := by
  have hlength : s.length ≤ (b ++ s).length := List.length_append ▸ Nat.le_add_left ..
  rw [← tokenize_eq_tokensOf hlength, tokensOf]
  cases (b ++ s).length with
  | zero => rfl
  | succ fuel => rw [tokenize, tokenize, Text.trimStart_append_of_blank hb]

/-- The first token, and the tokens of what is after it. -/
theorem tokensOf_eq (s : Text) : tokensOf s =
    match s.trimStart with
    | [] => .ok []
    | c :: front =>
      match token? (c :: front) with
      | none => .error c
      | some (token, after) => (tokensOf after).map (token :: ·) := by
  have hlength : s.trimStart.length ≤ s.length := (List.dropWhile_suffix _).length_le
  rw [← tokenize_eq_tokensOf (Nat.le_succ s.length), tokenize]
  generalize s.trimStart = trimmed at hlength ⊢
  cases trimmed with
  | nil => rfl
  | cons c front =>
    dsimp only
    cases htoken : token? (c :: front) with
    | none => rfl
    | some found =>
      have hlt := length_lt_of_token? htoken
      dsimp only
      rw [tokenize_eq_tokensOf (show found.2.length ≤ s.length by omega)]

/-- The tokens of a text that goes on behind its last token are its own, and then those of what follows. -/
theorem tokensOf_append {front : List Token} (hrest : Parted rest) (h : tokensOf s = .ok front) :
    tokensOf (s ++ rest) = (tokensOf rest).map (front ++ ·) := by
  induction hn : s.length using Nat.strong_induction_on generalizing s front with
  | _ n ih =>
    have hlength : s.trimStart.length ≤ s.length := (List.dropWhile_suffix _).length_le
    rw [tokensOf_eq] at h
    cases htrim : s.trimStart with
    | nil =>
      rw [htrim] at h
      cases h
      rw [tokensOf_append_of_blank (Text.trimStart_eq_nil_iff.mp htrim)]
      cases tokensOf rest <;> rfl
    | cons c first =>
      rw [htrim] at h hlength
      dsimp only at h
      cases htoken : token? (c :: first) with
      | none =>
        rw [htoken] at h
        cases h
      | some found =>
        obtain ⟨token, after⟩ := found
        have hlt := length_lt_of_token? htoken
        rw [htoken] at h
        obtain ⟨others, hothers, rfl⟩ := map_eq_ok.mp h
        have hafter := ih after.length (by omega) hothers rfl
        have hbefore : token? (c :: (first ++ rest)) = some (token, after ++ rest) := token?_before hrest htoken
        rw [tokensOf_eq, Text.trimStart_append htrim, List.cons_append]
        dsimp only
        rw [hbefore]
        dsimp only
        rw [hafter]
        cases tokensOf rest <;> rfl

/-- The tokens of two texts with a blank between them. -/
theorem tokensOf_space {t : Text} {front others : List Token} (hs : tokensOf s = .ok front)
    (ht : tokensOf t = .ok others) : tokensOf (s ++ (txt " " ++ t)) = .ok (front ++ others) := by
  rw [tokensOf_append (parted_of_blank rfl) hs, tokensOf_append_of_blank (by decide), ht]
  rfl

/-- Blanks around a text have no tokens. -/
theorem tokensOf_of_trim {front : List Token} (h : tokensOf s.trim = .ok front) : tokensOf s = .ok front := by
  obtain ⟨blanks, back, hblanks, hback, hs⟩ := s.exists_trim
  rw [hs, tokensOf_append_of_blank hblanks]
  cases back with
  | nil => rwa [List.append_nil]
  | cons c back =>
    obtain ⟨hc, -⟩ := Bool.and_eq_true_iff.mp hback
    have hnone : tokensOf (c :: back) = .ok [] := by
      rw [← List.append_nil (c :: back), tokensOf_append_of_blank hback]
      rfl
    have hparted : Parted (c :: back) := parted_of_blank hc
    rw [tokensOf_append hparted h, hnone]
    exact congrArg Except.ok (List.append_nil front)

/-- A text that is one token. -/
theorem tokensOf_of_token? (hblank : s.begins CodePoint.isBlank = false) (h : token? s = some (token, [])) :
    tokensOf s = .ok [token] := by
  cases s with
  | nil => cases h
  | cons c s =>
    rw [tokensOf_eq, Text.trimStart_cons_of_not_blank hblank]
    dsimp only
    rw [h]
    rfl

/-- Some digits are a number. -/
theorem unsigned?_of_all {digits : Text} (hne : digits ≠ []) (hall : digits.all CodePoint.isDigit = true) :
    unsigned? digits = some (digits, []) := by
  have hrun : Text.takeRun CodePoint.isDigit (digits ++ []) = (digits, []) := Text.takeRun_of_all hall rfl
  rw [List.append_nil] at hrun
  unfold unsigned? digits?
  rw [hrun]
  cases digits with
  | nil => exact absurd rfl hne
  | cons c digits => rfl

/-- The notation of an integer is one token. -/
theorem tokensOf_of_writes {n : Int} (h : Decimal.Writes s n) : tokensOf s = .ok [.number s] := by
  cases h with
  | plain hne hall =>
    cases s with
    | nil => exact absurd rfl hne
    | cons c s =>
      have hc := (Bool.and_eq_true_iff.mp hall).1
      have hother : ∀ other : CodePoint, other.isDigit = false → c ≠ other := by
        rintro other hother rfl
        rw [hc] at hother
        cases hother
      have hmark : ¬(decide (c = '"') || decide (c = '\'')) = true := by simp [hother '"' rfl, hother '\'' rfl]
      refine tokensOf_of_token? (CodePoint.isBlank_of_isDigit hc) ?_
      unfold token? quoted? number?
      dsimp only
      rw [if_neg hmark, if_neg (hother '-' rfl), unsigned?_of_all hne hall]
      rfl
  | minus hne hall =>
    refine tokensOf_of_token? rfl ?_
    unfold token? quoted? number?
    dsimp only
    rw [if_neg (by decide), if_pos rfl, unsigned?_of_all hne hall]
    rfl

/-- A symbol of one code point before a text. -/
theorem tokensOf_symbol {c : CodePoint} {symbol : Symbol} {t : Text} {others : List Token}
    (htoken : ∀ t, token? (c :: t) = some (.symbol symbol, t)) (hc : c.isBlank = false)
    (ht : tokensOf t = .ok others) : tokensOf (c :: t) = .ok (.symbol symbol :: others) := by
  rw [tokensOf_eq, Text.trimStart_cons_of_not_blank hc]
  dsimp only
  rw [htoken]
  dsimp only
  rw [ht]
  rfl

/-- **What has tokens keeps them before a bar**, and so does what stands behind the bar. -/
theorem tokensOf_join {t : Text} {front others : List Token} (hs : tokensOf s = .ok front)
    (ht : tokensOf t = .ok others) :
    tokensOf (s ++ (txt " | " ++ t)) = .ok (front ++ .symbol .bar :: others) := by
  have hspace : tokensOf (txt " " ++ t) = .ok others := by rw [tokensOf_append_of_blank (by decide), ht]
  have hbar : tokensOf (txt "|" ++ (txt " " ++ t)) = .ok (.symbol .bar :: others) :=
    tokensOf_symbol (fun _ => rfl) (by decide) hspace
  exact tokensOf_space hs hbar

/-- What has tokens keeps them in parentheses, with the symbol of a list behind them. -/
theorem tokensOf_list {front : List Token} (hs : tokensOf s = .ok front) :
    tokensOf (txt "(" ++ (s ++ txt ")[]")) =
      .ok (.symbol .opening :: (front ++ [.symbol .closing, .symbol .list])) := by
  have hclosing : tokensOf (txt ")[]") = .ok [.symbol .closing, .symbol .list] := eq_ok_of_toOption (by decide +kernel)
  have hinner : tokensOf (s ++ txt ")[]") = .ok (front ++ [.symbol .closing, .symbol .list]) := by
    rw [tokensOf_append (show Parted (txt ")[]") from rfl) hs, hclosing]
    rfl
  exact tokensOf_symbol (fun _ => rfl) (by decide) hinner

/-! ## JSON strings -/

/-- An escape with a number does not close a quoted text. -/
theorem Closes.unitEscape {n : Nat} (hn : n < 0x20) {body : Text} (h : Closes '"' body) :
    Closes '"' (Json.unitEscape n ++ body) := by
  have hplain : ∀ m < 0x20, (Text.hex false 4 m).all (fun c => c != '"' && c != '\\') = true := by decide
  have hrun : ∀ run : Text, run.all (fun c => c != '"' && c != '\\') = true → Closes '"' (run ++ body) := by
    intro run hall
    induction run with
    | nil => exact h
    | cons c run ih =>
      simp only [List.all_cons, Bool.and_eq_true, bne_iff_ne] at hall
      exact .point hall.1.1 hall.1.2 (ih hall.2)
  exact .escape (by decide) (by decide) (hrun _ (hplain n hn))

/-- A code point of a JSON string does not close it. -/
theorem Closes.quotedPoint (c : CodePoint) {body : Text} (h : Closes '"' body) :
    Closes '"' (Json.quotedPoint false c ++ body) := by
  rcases Json.quotedPoint_cases c with ⟨hpoint, hquote, -, hbackslash⟩ | ⟨e, hpoint, he⟩ | ⟨hpoint, hcontrol⟩
  · rw [hpoint]
    exact .point hquote hbackslash h
  · have hnewline : e ≠ CodePoint.ofChar '\n' := by
      rintro rfl
      cases he
    rw [hpoint]
    exact .escape (by decide) hnewline h
  · rw [hpoint]
    exact h.unitEscape hcontrol

/-- **A JSON string is one token**, whatever text it is of. -/
theorem tokensOf_quote (s : Text) : tokensOf (Json.quote false s) = .ok [.quoted (Json.quote false s)] := by
  have hcloses : Closes '"' (s.flatMap (Json.quotedPoint false) ++ [CodePoint.ofChar '"']) := by
    induction s with
    | nil => exact .mark
    | cons c s ih =>
      rw [List.flatMap_cons, List.append_assoc]
      exact ih.quotedPoint c
  have hquote : Json.quote false s =
      CodePoint.ofChar '"' :: (s.flatMap (Json.quotedPoint false) ++ [CodePoint.ofChar '"']) := rfl
  have htoken : token? (Json.quote false s) = some (.quoted (Json.quote false s), []) := by
    rw [hquote, quoted?_of_mark rfl]
    exact quoted?_eq_some.mpr ⟨_, _, rfl, hcloses, rfl, (List.append_nil _).symm⟩
  have htrim : (Json.quote false s).trimStart = Json.quote false s := Text.trimStart_cons_of_not_blank rfl _
  rw [tokensOf_eq, htrim]
  rw [hquote] at htoken ⊢
  dsimp only
  rw [htoken]
  rfl

end Mixfix.Descriptor
