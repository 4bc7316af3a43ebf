import Mixfix.Proofs.Outcome
import Mixfix.Proofs.Token.Closing

/-!
# Parses before a closing parenthesis

A grammar whose rules read parentheses in pairs (`Grammar.Paired`) reads balanced texts (`plain_balanced`). Where
every parenthesis that opens in a text is closed in it, a parse makes the same of the text and of the text with a
closing parenthesis behind it, from every level (`plain_closing`).

All attempts have to be followed for this, those that fail too. A terminal does not see the parenthesis. An
attempt at parentheses would see it only if blanks were all that is left where its own closing parenthesis is
missing. In a closed text its own parenthesis stands there or before, or something else does.
-/

set_option autoImplicit false

namespace Mixfix

/-! ## Paired grammars -/

/-- Whether an element reads no parentheses but inside of other rules. -/
def ElementKind.isPlain : ElementKind → Bool
  | .terminal t => t.isPlain
  | .subexpression .. => true

/-- A rule that reads parentheses in pairs: the rule of parentheses, or one that reads none itself. -/
def Rule.Paired (rule : Rule) : Prop :=
  rule = parenthesesRule ∨ ∀ element ∈ rule.pattern, element.kind.isPlain = true

/-- A grammar whose rules read parentheses in pairs. -/
def Grammar.Paired (grammar : Grammar) : Prop :=
  ∀ level ∈ grammar, ∀ rule ∈ level.rules, rule.Paired

theorem paired_of_mem_atomRules {rule : Rule} (h : rule ∈ atomRules) : rule.Paired := by
  simp only [atomRules, List.mem_cons, List.not_mem_nil, or_false] at h
  rcases h with rfl | rfl | rfl | rfl | rfl | rfl | rfl
  case inr.inr.inr.inr.inr.inr => exact .inl rfl
  all_goals exact .inr (by decide)

theorem Grammar.paired_of_build {rules : List Rule} {grammar : Grammar} (hbuild : build rules = .ok grammar)
    (h : ∀ rule ∈ rules, rule.Paired) : grammar.Paired := by
  intro level hlevel rule hrule
  obtain ⟨index, hindex⟩ := List.mem_iff_getElem?.mp hlevel
  rcases places_or_atom hbuild hindex hrule with ⟨-, hrule⟩ | hrule
  · exact h rule hrule
  · exact paired_of_mem_atomRules hrule

namespace Parse

open Engine Text

/-! ## The same with a tail -/

/-- The second of two runs gives what the first gives, and leaves a tail behind it. -/
def SameBefore {α : Type} (tail : Text) (x y : Except Interruption (Option (Match α))) : Prop :=
  y = x.map (Option.map (·.append tail))

section

variable {parse : Nat → Text → Except Interruption Found} {context : Context} {index : Nat} {s tail : Text}

theorem SameBefore.bind {α β : Type} {x y : Except Interruption (Option (Match α))}
    {f g : Option (Match α) → Except Interruption (Option (Match β))} (h : SameBefore tail x y)
    (hfg : ∀ found, x = .ok found → SameBefore tail (f found) (g (found.map (·.append tail)))) :
    SameBefore tail (x >>= f) (y >>= g) := by
  subst h
  cases x with
  | error e => rfl
  | ok found => exact hfg found rfl

theorem firstSome_sameBefore {α : Type} {f g : α → Except Interruption Found} {candidates : List α}
    (h : ∀ a ∈ candidates, SameBefore tail (f a) (g a)) :
    SameBefore tail (firstSome f candidates) (firstSome g candidates) := by
  induction candidates with
  | nil => rfl
  | cons a candidates ih =>
    obtain ⟨ha, hcandidates⟩ := List.forall_mem_cons.mp h
    refine ha.bind fun found _ => ?_
    cases found with
    | none => exact ih hcandidates
    | some r => rfl

theorem matchElement_terminal_sameBefore {t : Terminal}
    (h : t.match? context (s ++ tail) = (t.match? context s).map (Option.map (·.append tail))) :
    SameBefore tail (matchElement plainHooks parse context index (.terminal t) s)
      (matchElement plainHooks parse context index (.terminal t) (s ++ tail)) := by
  simp only [matchElement, h]
  cases t.match? context s with
  | error e => rfl
  | ok found => cases found <;> rfl

theorem matchElement_subexpression_sameBefore {role : Role} {constraint : Option Text}
    (h : SameBefore tail (parse (role.start index) s) (parse (role.start index) (s ++ tail))) :
    SameBefore tail (matchElement plainHooks parse context index (.subexpression role constraint) s)
      (matchElement plainHooks parse context index (.subexpression role constraint) (s ++ tail)) := by
  refine SameBefore.bind h fun found _ => ?_
  cases found with
  | none => rfl
  | some r =>
    simp only [SameBefore, Option.map_some, Match.append, Option.filter]
    split
    · rfl
    · rfl

theorem matchElements_sameBefore_cons {element : Element} {pattern : List Element}
    (hfirst : SameBefore tail (matchElement plainHooks parse context index element.kind s)
      (matchElement plainHooks parse context index element.kind (s ++ tail)))
    (hrest : ∀ first, matchElement plainHooks parse context index element.kind s = .ok (some first) →
      SameBefore tail (matchElements plainHooks parse context index pattern first.rest)
        (matchElements plainHooks parse context index pattern (first.rest ++ tail))) :
    SameBefore tail (matchElements plainHooks parse context index (element :: pattern) s)
      (matchElements plainHooks parse context index (element :: pattern) (s ++ tail)) := by
  unfold matchElements
  refine hfirst.bind fun found hfound => ?_
  cases found with
  | none => rfl
  | some first =>
    refine SameBefore.bind (hrest first hfound) fun others _ => ?_
    cases others with
    | none => rfl
    | some others => rfl

theorem matchRule_sameBefore {rule : Rule}
    (h : SameBefore tail (matchElements plainHooks parse context index rule.pattern s)
      (matchElements plainHooks parse context index rule.pattern (s ++ tail))) :
    SameBefore tail (matchRule plainHooks parse context index rule s)
      (matchRule plainHooks parse context index rule (s ++ tail)) := by
  refine SameBefore.bind h fun found _ => ?_
  cases found with
  | none => rfl
  | some matched => rfl

end

/-! ## Parses are balanced -/

section

variable {parse : Nat → Text → Except Interruption Found} {context : Context} {index : Nat} {s : Text}
  (hbalanced : ∀ start s r, parse start s = .ok (some r) → Balanced s r.rest)

include hbalanced

theorem matchElement_balanced {kind : ElementKind} (hplain : kind.isPlain = true) {r : Match Node}
    (h : matchElement plainHooks parse context index kind s = .ok (some r)) : Balanced s r.rest := by
  cases kind with
  | terminal t => exact Terminal.balanced_of_match? hplain (matchElement_terminal.mp h)
  | subexpression role constraint => exact hbalanced _ s r (matchElement_subexpression.mp h).1

theorem matchElements_balanced {pattern : List Element}
    (hplain : ∀ element ∈ pattern, element.kind.isPlain = true) {matched : Match (List Node)}
    (h : matchElements plainHooks parse context index pattern s = .ok (some matched)) :
    Balanced s matched.rest := by
  induction pattern generalizing s matched with
  | nil =>
    rw [matchElements_nil.mp h]
    exact .refl s
  | cons element pattern ih =>
    obtain ⟨helement, hpattern⟩ := List.forall_mem_cons.mp hplain
    obtain ⟨first, others, hfirst, hothers, rfl⟩ := matchElements_cons.mp h
    have hrest := ih hpattern hothers
    exact (matchElement_balanced hbalanced helement hfirst).trans hrest

theorem matchRule_balanced {rule : Rule} (hrule : rule.Paired) {r : Match Node}
    (h : matchRule plainHooks parse context index rule s = .ok (some r)) : Balanced s r.rest := by
  rcases hrule with rfl | hplain
  · obtain ⟨t, rest, inner, hs, hinner, hrest, rfl⟩ := matchRule_parentheses_eq_some.mp h
    have hinside : Balanced t (CodePoint.ofChar ')' :: rest) := by
      have hblanks := Balanced.trimStart inner.rest
      rw [hrest] at hblanks
      exact (hbalanced _ t inner hinner).trans hblanks
    have hopening : s.trimStart = CodePoint.ofChar '(' :: t := hs
    have hs' := Balanced.trimStart s
    rw [hopening] at hs'
    exact hs'.trans (.parentheses hinside (.refl rest))
  · obtain ⟨matched, hmatched, rfl⟩ := matchRule_eq_some.mp h
    exact matchElements_balanced hbalanced hplain hmatched

end

variable {grammar : Grammar} {context : Context} {s : Text}

/-- **Parses are balanced**: what a grammar reads that reads parentheses in pairs has them in pairs. -/
theorem plain_balanced (hpaired : grammar.Paired) {start : Nat} {r : Match Node}
    (h : plain grammar context start s = .ok (some r)) : Balanced s r.rest := by
  refine plain_induction (P := fun _ s r => Balanced s r.rest) (fun parse hparse start s r h => ?_) h
  obtain ⟨index, level, rule, -, hlevel, hmem, hrule⟩ := exists_rule_of_firstSome h
  exact matchRule_balanced hparse (hpaired level (List.mem_of_getElem? hlevel) rule hmem) hrule

/-! ## Closed texts -/

/-- A plain element makes the same before a closing parenthesis, if it does as a subexpression. -/
theorem matchElement_closing {parse : Nat → Text → Except Interruption Found} {index : Nat} {kind : ElementKind}
    (hplain : kind.isPlain = true)
    (hparse : ∀ role constraint, kind = .subexpression role constraint →
      SameBefore (txt ")") (parse (role.start index) s) (parse (role.start index) (s ++ txt ")"))) :
    SameBefore (txt ")") (matchElement plainHooks parse context index kind s)
      (matchElement plainHooks parse context index kind (s ++ txt ")")) := by
  cases kind with
  | terminal t => exact matchElement_terminal_sameBefore (Terminal.match?_closing hplain context s)
  | subexpression role constraint => exact matchElement_subexpression_sameBefore (hparse role constraint rfl)

section

variable {parse : Nat → Text → Except Interruption Found} {index : Nat} {source : Text}
  (hbalanced : ∀ start s r, parse start s = .ok (some r) → Balanced s r.rest)
  (hlater : ∀ start t, source.Advances t → t.Closed →
    SameBefore (txt ")") (parse start t) (parse start (t ++ txt ")")))

include hbalanced hlater

theorem matchElements_closing {pattern : List Element} (hplain : ∀ element ∈ pattern, element.kind.isPlain = true)
    {t : Text} (hadvances : source.Advances t) (hclosed : t.Closed) :
    SameBefore (txt ")") (matchElements plainHooks parse context index pattern t)
      (matchElements plainHooks parse context index pattern (t ++ txt ")")) := by
  induction pattern generalizing t with
  | nil => rfl
  | cons element pattern ih =>
    obtain ⟨helement, hpattern⟩ := List.forall_mem_cons.mp hplain
    refine matchElements_sameBefore_cons ?_ fun first hfirst => ?_
    · exact matchElement_closing helement fun _ _ _ => hlater _ t hadvances hclosed
    · have hread := matchElement_balanced hbalanced helement hfirst
      exact ih hpattern (hadvances.to_suffix hread.suffix) (hclosed.of_balanced hread)

/-- Parentheses in a closed text are closed in it, so they are not closed by what comes after it. -/
theorem matchRule_parentheses_closing (hclosed : source.Closed) :
    SameBefore (txt ")") (matchRule plainHooks parse context index parenthesesRule source)
      (matchRule plainHooks parse context index parenthesesRule (source ++ txt ")")) := by
  have hopens : CodePoint.ofChar ')' ∉ txt "(" := by decide
  refine matchRule_sameBefore (matchElements_sameBefore_cons ?_ fun opening hopening => ?_)
  · exact matchElement_terminal_sameBefore (Terminal.match?_const_append context (Scan.const_closing hopens source))
  · obtain ⟨t, hs, rfl⟩ := matchElement_const_eq_some.mp hopening
    have hadvances : source.Advances t := advances_of_trimStart hs (List.cons_ne_nil _ _)
    have hfront : Closed (CodePoint.ofChar '(' :: t) := by
      have htrim : source.trimStart = CodePoint.ofChar '(' :: t := hs
      exact htrim ▸ hclosed.of_balanced (Balanced.trimStart source)
    obtain ⟨hinside, rest, hclosing⟩ := hfront.inside
    refine matchElements_sameBefore_cons ?_ fun inner hinner => ?_
    · exact matchElement_subexpression_sameBefore (hlater _ t hadvances hinside)
    · have hread : Balanced t inner.rest := hbalanced _ t inner (matchElement_subexpression.mp hinner).1
      have hleft : inner.rest.isBlank = false := hclosing.not_isBlank hread
      refine matchElements_sameBefore_cons ?_ fun _ _ => rfl
      exact matchElement_terminal_sameBefore
        (Terminal.match?_const_append context (Scan.const_closing_of_not_blank hleft))

end

/-- A rule makes the same before a closing parenthesis, if the next level does and all parses further on. -/
theorem attemptRule_closing (hgrammar : grammar.Consuming) (hpaired : grammar.Paired) {index : Nat} {rule : Rule}
    (hrule : rule.Paired) (hconsuming : rule.Consuming) (hclosed : s.Closed)
    (hnext : SameBefore (txt ")") (plain grammar context (index + 1) s)
      (plain grammar context (index + 1) (s ++ txt ")")))
    (hlater : ∀ start t, s.Advances t → t.Closed →
      SameBefore (txt ")") (plain grammar context start t) (plain grammar context start (t ++ txt ")"))) :
    SameBefore (txt ")") (attemptRule grammar context index rule s)
      (attemptRule grammar context index rule (s ++ txt ")")) := by
  have hbalanced : ∀ start s r, plain grammar context start s = .ok (some r) → Balanced s r.rest :=
    fun _ _ _ => plain_balanced hpaired
  rcases hrule with rfl | hplain
  · exact matchRule_parentheses_closing hbalanced hlater hclosed
  · obtain ⟨first, pattern, hpattern⟩ := List.exists_cons_of_ne_nil hconsuming.pattern_ne_nil
    have hsolid : first.kind ≠ .terminal (.const []) := hconsuming.solid first (hpattern ▸ List.mem_cons_self)
    rw [hpattern, List.forall_mem_cons] at hplain
    obtain ⟨hfirst, hothers⟩ := hplain
    refine matchRule_sameBefore ?_
    rw [hpattern]
    refine matchElements_sameBefore_cons (matchElement_closing hfirst fun role constraint hkind => ?_) fun r hr => ?_
    · -- an operand that comes first is parsed from the next level
      have hhead : rule.pattern.head?.map Element.kind = some (.subexpression role constraint) := by
        rw [hpattern, List.head?_cons, Option.map_some, hkind]
      obtain rfl : role = .lhs := Rule.role_of_head hconsuming.grounded hhead
      exact hnext
    · have hadvances : s.Advances r.rest := matchElement_leaves (plain_leaves hgrammar) hsolid hr r rfl
      have hread := matchElement_balanced hbalanced hfirst hr
      exact matchElements_closing hbalanced hlater hothers hadvances (hclosed.of_balanced hread)

/-- **A closing parenthesis behind a closed text** is left by every parse of it, and changes nothing else. The
induction is on the height of the parse. -/
theorem plain_closing (hgrammar : grammar.Consuming) (hpaired : grammar.Paired) (hclosed : s.Closed)
    (start : Nat) :
    SameBefore (txt ")") (plain grammar context start s) (plain grammar context start (s ++ txt ")")) := by
  induction hheight : height grammar start s using Nat.strongRecOn generalizing start s with
  | ind bound ih =>
    subst hheight
    rw [plain_eq, plain_eq]
    refine firstSome_sameBefore fun candidate hmem => ?_
    obtain ⟨index, rule⟩ := candidate
    obtain ⟨hstart, level, hlevel, hrule⟩ := mem_candidates.mp hmem
    have hmember := List.mem_of_getElem? hlevel
    have hindex : index < grammar.length := (List.getElem?_eq_some_iff.mp hlevel).1
    refine attemptRule_closing hgrammar hpaired (hpaired level hmember rule hrule)
      (hgrammar level hmember rule hrule) hclosed ?_ fun start' t ht hclosed' => ?_
    · exact ih _ (height_lt_of_later s hstart hindex) hclosed (index + 1) rfl
    · exact ih _ (height_lt_of_shorter ht.length_lt) hclosed' start' rfl

end Parse

end Mixfix
