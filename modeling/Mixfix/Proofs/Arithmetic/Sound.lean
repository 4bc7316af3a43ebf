import Mixfix.Proofs.Arithmetic

/-!
# Arithmetic is parsed into derivations

Whatever a parse of arithmetic matches is derived: a phrase of the symbol of its level, or another
expression (`reads_of_plain`). An operator requires numbers, so its operands are no other expressions.
-/

set_option autoImplicit false

namespace Mixfix

namespace Arithmetic

open Engine Parse

variable {context : Context} {symbol : Symbol} {s t rest : Text} {node : Node}

/-- The symbol that is parsed at a level. -/
def Symbol.ofLevel : Nat → Symbol
  | 0 => .sum
  | 1 => .term
  | _ => .factor

/-- What a match from a level reads: a phrase of the symbol of the level, or another expression. -/
def Reads (context : Context) (start : Nat) (s : Text) (r : Match Node) : Prop :=
  Derives context (Symbol.ofLevel start) s r.value r.rest ∨ Derives context .other s r.value r.rest

/-- A match that meets what operators require of their operands is no other expression. -/
theorem Reads.derives {start : Nat} {r : Match Node} (h : Reads context start s r)
    (hmeets : meets (some (txt "number")) r.value = true) :
    Derives context (Symbol.ofLevel start) s r.value r.rest := by
  rcases h with h | hother
  · exact h
  · rw [hother.meets_number] at hmeets
    cases hmeets

/-- A number with the point that it swallows is a factor. -/
theorem derives_of_number (n : Numeral) {tail : Text} (hs : s.trimStart = n.text ++ tail) :
    Derives context .factor s (.literal n.text n.value (.str (txt "number"))) (Scan.swallowPoint tail) := by
  rcases Scan.swallowPoint_cases tail with ⟨hrest, -⟩ | ⟨htail, hdigit⟩
  · refine .number n ?_
    rw [hs]
    exact congrArg _ hrest.symm
  · refine .pointed n ?_ hdigit
    rw [hs, List.append_assoc]
    exact congrArg _ htail

/-- A string is another expression. -/
theorem derives_of_string {mark body raw : Text} (hmark : mark ∈ stringMarks) (hs : s.trimStart = mark ++ body)
    (hsplit : Scan.splitAtMark? mark body = some (raw, rest)) :
    Derives context .other s (.literal raw (.str raw.decodeEscapes) (.str (txt "string"))) rest := by
  obtain ⟨c, rfl, hraw, rfl⟩ := Scan.quoted_of_splitAtMark? hmark hsplit
  exact .string c hmark hraw hs

/-- A name that is no keyword is a factor or another expression, as it is declared. -/
theorem reads_of_name {name : Text} (hname : Scan.IsName name) (hs : s.trimStart = name ++ rest)
    (hfree : ∀ k : Keyword, name ≠ k.text) :
    Reads context 2 s ⟨.identifier name (.str (Terminal.declaredSchema context name)), rest⟩ := by
  by_cases hschema : Terminal.declaredSchema context name = txt "number"
  · left
    dsimp only
    rw [hschema]
    exact .numericName name hname hfree hschema hs
  · exact .inr (.otherName name hname hfree hschema hs)

variable {parse : Nat → Text → Except Interruption Found}

/-- Matches of the atoms are factors or other expressions. -/
theorem reads_of_atoms (hparse : ∀ start s r, parse start s = .ok (some r) → Reads context start s r)
    {r : Match Node}
    (h : firstSome (fun (index, rule) => matchRule plainHooks parse context index rule s)
      (atomRules.map fun rule => (2, rule)) = .ok (some r)) : Reads context 2 s r := by
  rcases atoms_eq_some h with ⟨before, terminal, hfront, hnone, hsome⟩ | ⟨t, rest, inner, hs, hinner, hrest, rfl⟩
  · have hatom : terminal ∈ atomTerminals := hfront.subset (List.mem_append_right before List.mem_cons_self)
    cases Terminal.matches_of_match? hsome with
    | number n _ hs _ => exact .inl (derives_of_number n hs)
    | string hmark hs hsplit =>
      obtain rfl : _ = stringMarks := by simpa [atomTerminals] using hatom
      exact .inr (derives_of_string hmark hs hsplit)
    | keyword k hs _ => exact .inr (.keyword k hs)
    | identifier hname hs hrest =>
      have hfree := keyword_none_of_atoms hfront hnone
      exact reads_of_name hname hs (Scan.ne_text_of_keyword_none hs hrest hfree)
    | const value _ => simp [atomTerminals] at hatom
  · rcases hparse 0 t inner hinner with hinner | hother
    · exact .inl (.grouped hs hinner hrest)
    · exact .inr (.groupedOther hs hother hrest)

/-- Matches of the operators of products are terms. -/
theorem derives_of_products (hparse : ∀ start s r, parse start s = .ok (some r) → Reads context start s r)
    {op : Infix} (hop : op ∈ products 2) {r : Match Node}
    (h : matchRule plainHooks parse context 1 op.rule s = .ok (some r)) :
    Derives context .term s r.value r.rest := by
  obtain ⟨left, right, t, hleft, hmeets, hmark, hright, hmeets', rfl⟩ := matchRule_infix_eq_some.mp h
  rw [required_of_mem_numeric (List.mem_append_right (sums 1) hop)] at hmeets hmeets'
  have hderives := (hparse 2 s left hleft).derives hmeets
  have hderives' := (hparse 1 t right hright).derives hmeets'
  exact .multiplicative hop hderives hmark hderives'

/-- Matches of the operators of sums are sums. -/
theorem derives_of_sums (hparse : ∀ start s r, parse start s = .ok (some r) → Reads context start s r)
    {op : Infix} (hop : op ∈ sums 1) {r : Match Node}
    (h : matchRule plainHooks parse context 0 op.rule s = .ok (some r)) :
    Derives context .sum s r.value r.rest := by
  obtain ⟨left, right, t, hleft, hmeets, hmark, hright, hmeets', rfl⟩ := matchRule_infix_eq_some.mp h
  rw [required_of_mem_numeric (List.mem_append_left (products 2) hop)] at hmeets hmeets'
  have hderives := (hparse 1 s left hleft).derives hmeets
  have hderives' := (hparse 0 t right hright).derives hmeets'
  exact .additive hop hderives hmark hderives'

/-- A first match of infix rules is one of an operator. -/
theorem exists_op_of_firstSome {ops : List Infix} {index : Nat} {r : Match Node}
    (h : firstSome (fun (index, rule) => matchRule plainHooks parse context index rule s)
      ((ops.map Infix.rule).map fun rule => (index, rule)) = .ok (some r)) :
    ∃ op ∈ ops, matchRule plainHooks parse context index op.rule s = .ok (some r) := by
  obtain ⟨candidate, hmem, hrule⟩ := exists_of_firstSome h
  obtain ⟨rule, hmem', rfl⟩ := List.mem_map.mp hmem
  obtain ⟨op, hop, rfl⟩ := List.mem_map.mp hmem'
  exact ⟨op, hop, hrule⟩

theorem getElem?_sums : arithmeticGrammar[0]? = some ⟨some 1, (sums 1).map Infix.rule⟩ := rfl

theorem getElem?_products : arithmeticGrammar[1]? = some ⟨some 2, (products 2).map Infix.rule⟩ := rfl

theorem getElem?_atoms : arithmeticGrammar[2]? = some atomLevel := rfl

/-- **Soundness**: every match from a level is a phrase of its symbol or another expression. -/
theorem reads_of_plain {start : Nat} {r : Match Node}
    (h : plain arithmeticGrammar context start s = .ok (some r)) : Reads context start s r := by
  refine plain_induction (P := Reads context) (fun parse hparse start s r hfirst => ?_) h
  have hterm : ∀ r, firstSome (fun (index, rule) => matchRule plainHooks parse context index rule s)
      (candidates arithmeticGrammar 1) = .ok (some r) → Reads context 1 s r := by
    intro r h
    rw [candidates_eq getElem?_products] at h
    rcases firstSome_append_eq_some h with h | ⟨-, h⟩
    · obtain ⟨op, hop, hrule⟩ := exists_op_of_firstSome h
      exact .inl (derives_of_products hparse hop hrule)
    · exact (reads_of_atoms hparse h).imp_left .factor
  rcases start with _ | _ | _ | start
  · rw [candidates_eq getElem?_sums] at hfirst
    rcases firstSome_append_eq_some hfirst with h | ⟨-, h⟩
    · obtain ⟨op, hop, hrule⟩ := exists_op_of_firstSome h
      exact .inl (derives_of_sums hparse hop hrule)
    · exact (hterm r h).imp_left .term
  · exact hterm r hfirst
  · exact reads_of_atoms hparse hfirst
  · have hnone : candidates arithmeticGrammar (start + 3) = [] := by
      simp [candidates, arithmeticGrammar]
    rw [hnone] at hfirst
    cases hfirst

end Arithmetic

end Mixfix
