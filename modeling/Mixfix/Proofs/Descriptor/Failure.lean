import Mixfix.Proofs.Descriptor.Reader

/-!
# What is not read of a descriptor

A reader that fails tells what is wrong with the descriptor (`ReadError.Tells`), unless it reaches a number with
more digits than are converted. Where it can reach one is said in the words of the grammar: `AwaitsNumber` lists
the tokens after which a number is read, whether it may stand there or not. So `Fails` has two cases, and every
reader fails in one of them (**`readAlternatives_eq_error`**).

A text that is not read so has a problem that is told, or `MeetsLongNumber` holds of it (`read_eq_error`).
-/

set_option autoImplicit false

namespace Mixfix.Descriptor

variable {name digits : Text} {tokens rest : List Token} {shape : Shape} {e : ReadError}

/-- An error tells what is wrong with the descriptor. -/
def ReadError.Tells (e : ReadError) : Prop :=
  ∃ problem, e = .malformed problem

/-! ## Numbers that are awaited -/

/-- A comparison that a bound can stand before. -/
def Symbol.IsLess (s : Symbol) : Prop :=
  s = .less ∨ s = .lessEqual

/-- Any of the four comparisons. -/
def Symbol.IsComparison (s : Symbol) : Prop :=
  s.IsLess ∨ s = .greater ∨ s = .greaterEqual

/-- The tokens after which a number is read: it begins a primary, or it is the bound on a side of a name. -/
inductive AwaitsNumber : List Token → Prop
  | primary : AwaitsNumber []
  | parentheses {front : List Token} : AwaitsNumber front → AwaitsNumber (.symbol .opening :: front)
  | alternative {first front : List Token} {shape : Shape} : IsAlternative first shape → AwaitsNumber front →
      AwaitsNumber (first ++ .symbol .bar :: front)
  | bound {name : Text} {s : Symbol} : name ≠ txt "true" → name ≠ txt "false" → s.IsComparison →
      AwaitsNumber [.name name, .symbol s]
  | upperBound (digits name : Text) {s t : Symbol} : s.IsLess → t.IsLess →
      AwaitsNumber [.number digits, .symbol s, .name name, .symbol t]

/-- A number is awaited, and none that stands before it is too long. -/
def ReachesNumber (front : List Token) : Prop :=
  AwaitsNumber front ∧ Convertible front

/-- How reading fails. The error tells what is wrong, or after some tokens stands a number that is too long. -/
def Fails (e : ReadError) (After : List Token → Prop) (tokens : List Token) : Prop :=
  e.Tells ∨ e = .tooManyDigits ∧
    ∃ front digits rest, tokens = front ++ .number digits :: rest ∧ After front ∧ ¬Converts digits

/-- What fails behind some tokens fails with them before it. -/
theorem Fails.append {After Within : List Token → Prop} (h : Fails e After tokens) (first : List Token)
    (hwithin : ∀ front, After front → Within (first ++ front)) : Fails e Within (first ++ tokens) := by
  rcases h with htells | ⟨he, front, digits, rest, rfl, hafter, hlong⟩
  · exact .inl htells
  · refine .inr ⟨he, first ++ front, digits, rest, ?_, hwithin front hafter, hlong⟩
    rw [List.append_assoc]

/-! ## Types -/

/-- A limit on lengths that is no integer is a problem, and nothing worse. -/
theorem mapM_lengthLimit_eq_error {limit : Option Limit} {step : Int}
    (h : limit.mapM (lengthLimit step) = .error e) : e.Tells := by
  cases limit with
  | none => cases h
  | some limit =>
    change (lengthLimit step limit).map some = .error e at h
    unfold lengthLimit at h
    split at h <;> cases h
    exact ⟨_, rfl⟩

/-- A type without a shape is a problem, and nothing worse. -/
theorem typeShape_eq_error {bounds : Bounds} (h : typeShape name bounds = .error e) : e.Tells := by
  unfold typeShape at h
  split at h
  · cases h
  · split at h
    · cases h
    · split at h
      · rcases bind_eq_error.mp h with h | ⟨least, -, h⟩
        · exact mapM_lengthLimit_eq_error h
        · rcases bind_eq_error.mp h with h | ⟨most, -, h⟩
          · exact mapM_lengthLimit_eq_error h
          · cases h
      · split at h
        · split at h <;> cases h
          exact ⟨_, rfl⟩
        · cases h
          exact ⟨_, rfl⟩

theorem mismatch_eq_error {α : Type} {what : String}
    (h : (mismatch what tokens : Except ReadError α) = .error e) : e.Tells := by
  cases h
  exact ⟨_, rfl⟩

/-! ## Bounds -/

theorem isComparison_of_comparison? {s : Symbol} (h : comparison? tokens = some (s, rest)) :
    tokens = .symbol s :: rest ∧ s.IsComparison := by
  unfold comparison? at h
  split at h
  · split at h <;> cases h
    · exact ⟨rfl, .inl (.inl rfl)⟩
    · exact ⟨rfl, .inl (.inr rfl)⟩
    · exact ⟨rfl, .inr (.inl rfl)⟩
    · exact ⟨rfl, .inr (.inr rfl)⟩
  · cases h

theorem isLess_of_decide {s : Symbol} (h : (decide (s = .less) || decide (s = .lessEqual)) = true) : s.IsLess := by
  simpa [Symbol.IsLess] using h

theorem readNumber_eq_error (h : readNumber tokens = .error e) : Fails e (· = []) tokens := by
  unfold readNumber at h
  split at h
  · rename_i digits rest
    rcases bind_eq_error.mp h with hnumber | ⟨_, -, h⟩
    · obtain ⟨rfl, hlong⟩ := numberOf_eq_error.mp hnumber
      exact .inr ⟨rfl, [], digits, rest, rfl, rfl, hlong⟩
    · cases h
  · exact .inl (mismatch_eq_error h)

/-- The number of an upper bound is read behind its comparison. -/
theorem readUpper_eq_error (h : readUpper tokens = .error e) :
    Fails e (fun front => ∃ s : Symbol, s.IsLess ∧ front = [.symbol s]) tokens := by
  unfold readUpper at h
  split at h
  · cases h
  · rename_i s after hcomparison
    obtain ⟨rfl, -⟩ := isComparison_of_comparison? hcomparison
    split at h
    · rename_i hless
      rcases bind_eq_error.mp h with hnumber | ⟨_, -, h⟩
      · refine (readNumber_eq_error hnumber).append [.symbol s] ?_
        rintro front rfl
        exact ⟨s, isLess_of_decide hless, rfl⟩
      · cases h
    · cases h
      exact .inl ⟨_, rfl⟩

/-- Behind a number a name can be compared with it, and then with another one. -/
theorem readFromNumber_eq_error {value : Number} (h : readFromNumber value tokens = .error e) :
    Fails e (fun front => ∃ (s t : Symbol) (name : Text), s.IsLess ∧ t.IsLess ∧
      front = [.symbol s, .name name, .symbol t]) tokens := by
  unfold readFromNumber at h
  split at h
  · cases h
  · rename_i s after hcomparison
    obtain ⟨rfl, -⟩ := isComparison_of_comparison? hcomparison
    split at h
    · rename_i hless
      split at h
      · rename_i name after
        rcases bind_eq_error.mp h with hupper | ⟨_, -, h⟩
        · refine (readUpper_eq_error hupper).append [.symbol s, .name name] ?_
          rintro front ⟨t, ht, rfl⟩
          exact ⟨s, t, name, isLess_of_decide hless, ht, rfl⟩
        · rcases bind_eq_error.mp h with hshape | ⟨_, -, h⟩
          · exact .inl (typeShape_eq_error hshape)
          · cases h
      · exact .inl (mismatch_eq_error h)
    · cases h
      exact .inl ⟨_, rfl⟩

/-- Behind a name that is no truth value it can be compared with a number. -/
theorem readFromName_eq_error (h : readFromName name tokens = .error e) :
    Fails e (fun front => (name ≠ txt "true" ∧ name ≠ txt "false") ∧
      ∃ s : Symbol, s.IsComparison ∧ front = [.symbol s]) tokens := by
  unfold readFromName at h
  split at h
  · cases h
  · rename_i hname
    split at h
    · rcases bind_eq_error.mp h with hshape | ⟨_, -, h⟩
      · exact .inl (typeShape_eq_error hshape)
      · cases h
    · rename_i s after hcomparison
      obtain ⟨rfl, hs⟩ := isComparison_of_comparison? hcomparison
      rcases bind_eq_error.mp h with hnumber | ⟨_, -, h⟩
      · refine (readNumber_eq_error hnumber).append [.symbol s] ?_
        rintro front rfl
        exact ⟨by simpa using hname, s, hs, rfl⟩
      · rcases bind_eq_error.mp h with hshape | ⟨_, -, h⟩
        · exact .inl (typeShape_eq_error hshape)
        · cases h

/-! ## Descriptors -/

theorem readPrimary_eq_error {nested : List Token → Except ReadError (Reading Shape)}
    (hnested : ∀ {tokens e}, nested tokens = .error e → Fails e ReachesNumber tokens)
    (h : readPrimary nested tokens = .error e) : Fails e ReachesNumber tokens := by
  unfold readPrimary at h
  split at h
  · rename_i rest
    rcases bind_eq_error.mp h with hinner | ⟨⟨inner, after⟩, -, h⟩
    · refine (hnested hinner).append [.symbol .opening] ?_
      rintro front ⟨hawaits, hconvertible⟩
      exact ⟨hawaits.parentheses, by simpa using hconvertible⟩
    · dsimp only at h
      split at h
      · cases h
      · exact .inl (mismatch_eq_error h)
  · cases h
  · rename_i digits after
    rcases bind_eq_error.mp h with hnumber | ⟨value, hvalue, h⟩
    · obtain ⟨rfl, hlong⟩ := numberOf_eq_error.mp hnumber
      exact .inr ⟨rfl, [], digits, after, rfl, ⟨.primary, convertible_nil⟩, hlong⟩
    · obtain ⟨hconverts, -⟩ := numberOf_eq_ok.mp hvalue
      refine (readFromNumber_eq_error h).append [.number digits] ?_
      rintro front ⟨s, t, name, hs, ht, rfl⟩
      exact ⟨.upperBound digits name hs ht, by simpa using hconverts⟩
  · rename_i name after
    refine (readFromName_eq_error h).append [.name name] ?_
    rintro front ⟨⟨htrue, hfalse⟩, s, hs, rfl⟩
    exact ⟨.bound htrue hfalse hs, by simp⟩
  · exact .inl (mismatch_eq_error h)

/-- **Alternatives that are not read have something wrong with them, or a number in them that is too long is
reached.** -/
theorem readAlternatives_eq_error {fuel : Nat} (h : readAlternatives fuel tokens = .error e) :
    Fails e ReachesNumber tokens := by
  induction fuel generalizing tokens e with
  | zero => exact .inl (mismatch_eq_error h)
  | succ fuel ih =>
    have hnested : ∀ {tokens e}, readNested fuel tokens = .error e → Fails e ReachesNumber tokens := by
      intro tokens e h
      rcases bind_eq_error.mp h with h | ⟨_, -, h⟩
      · exact ih h
      · cases h
    rcases bind_eq_error.mp h with hprimary | ⟨⟨primary, after⟩, hprimary, hmore⟩
    · exact readPrimary_eq_error hnested hprimary
    · obtain ⟨front, rfl, hisPrimary, hfront⟩ := readPrimary_eq_ok (readNested_eq_ok readAlternatives_eq_ok) hprimary
      obtain ⟨brackets, heq, halternative, hbrackets⟩ := (IsAlternative.primary hisPrimary).readSuffixes after
      dsimp only at hmore
      split at hmore
      · rename_i after' hbar
        rcases bind_eq_error.mp hmore with hothers | ⟨_, -, h⟩
        · have hsplit : front ++ after = (front ++ brackets ++ [.symbol .bar]) ++ after' := by
            rw [heq, hbar]
            simp
          rw [hsplit]
          refine (ih hothers).append _ ?_
          rintro others ⟨hawaits, hconvertible⟩
          refine ⟨?_, by simp [hfront, hbrackets, hconvertible]⟩
          simpa using hawaits.alternative halternative
        · cases h
      · cases hmore

/-! ## Texts -/

/-- A number that is too long is reached in a text, when it is read. -/
def MeetsLongNumber (descriptor : Text) : Prop :=
  ∃ front digits rest, tokenize descriptor.length descriptor = .ok (front ++ .number digits :: rest) ∧
    ReachesNumber front ∧ ¬Converts digits

/-- What is not read has something wrong with it, or a number in it is too long. -/
theorem read_eq_error {descriptor : Text} (h : read descriptor = .error e) :
    e.Tells ∨ e = .tooManyDigits ∧ MeetsLongNumber descriptor := by
  unfold read at h
  split at h
  · cases h
    exact .inl ⟨_, rfl⟩
  · cases h
    exact .inl ⟨_, rfl⟩
  · rename_i tokens hne htokens
    rcases bind_eq_error.mp h with hshapes | ⟨⟨shapes, rest⟩, -, hrest⟩
    · rcases readAlternatives_eq_error hshapes with htells | ⟨rfl, front, digits, rest, rfl, hreaches, hlong⟩
      · exact .inl htells
      · exact .inr ⟨rfl, front, digits, rest, htokens, hreaches, hlong⟩
    · dsimp only at hrest
      split at hrest
      · cases hrest
      · cases hrest
        exact .inl ⟨_, rfl⟩

end Mixfix.Descriptor
