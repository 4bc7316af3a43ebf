import Mixfix.Proofs.Arithmetic.Sound
import Mixfix.Proofs.Parse.Memory
import Mixfix.Proofs.Token.Readable

/-!
# Derivations of arithmetic are parsed

A parse from the level of a symbol gives the tree of a derivation, if the text after it stops the marks of
the symbol (`Derives.plain_eq`). The induction is on the derivation: what follows an operand is a mark, which
stops the tighter operators, or what follows the whole phrase. The end of the text and a closing
parenthesis stop every mark. With soundness this is `parse_iff_sentence`.

A parse breaks off at an integer of too many digits, so this is for texts without longer runs of digits.
-/

set_option autoImplicit false

namespace Mixfix

namespace Arithmetic

open Engine Parse

variable {context : Context} {symbol : Symbol} {s t u rest : Text} {node : Node}

/-- The level that a symbol is parsed from. -/
def Symbol.level : Symbol → Nat
  | .sum | .other => 0
  | .term => 1
  | .factor => 2

/-- The marks that a phrase of a symbol can go on with. -/
def Symbol.marks : Symbol → List String
  | .sum | .other => (sums 1 ++ products 2).map Infix.mark
  | .term => (products 2).map Infix.mark
  | .factor => []

theorem marks_term_subset : Symbol.term.marks ⊆ Symbol.sum.marks := by
  decide

/-- The mark of a sum stops the products. -/
theorem stops_of_sums {op : Infix} (hop : op ∈ sums 1) (ht : t.trimStart = txt op.mark ++ u) :
    Stops Symbol.term.marks t := by
  simp only [sums, List.mem_cons, List.not_mem_nil, or_false] at hop
  rcases hop with rfl | rfl
  all_goals exact stops_of_front ht (by decide) (by decide) (by decide)

/-- The mark of a product is no part of its left operand. -/
theorem stops_of_products {op : Infix} (hop : op ∈ products 2) (ht : t.trimStart = txt op.mark ++ u) :
    Stops Symbol.factor.marks t := by
  simp only [products, List.mem_cons, List.not_mem_nil, or_false] at hop
  rcases hop with rfl | rfl | rfl
  all_goals exact stops_of_front ht (by decide) (by decide) (by decide)

/-- A closing parenthesis stops every operator. -/
theorem stops_of_closing (ht : t.trimStart = txt ")" ++ u) : Stops Symbol.sum.marks t :=
  stops_of_front ht (by decide) (by decide) (by decide)

/-- A leaf that stands in the text is a factor. -/
theorem plain_factor (leaf : Leaf) (hs : s.trimStart = leaf.text ++ rest) (hrest : rest.Delimited) :
    plain arithmeticGrammar context 2 s = .ok (some ⟨leaf.node context, rest⟩) :=
  plain_leaf getElem?_atoms leaf hs hrest

/-- What is no number is passed on by all operators. -/
theorem plain_other {r : Match Node} (h : plain arithmeticGrammar context 2 s = .ok (some r))
    (hmeets : meets (some (txt "number")) r.value = false) :
    plain arithmeticGrammar context 0 s = .ok (some r) := by
  have hrefuses : ∀ op ∈ sums 1 ++ products 2, op.Refuses r := by
    intro op hop
    left
    rw [required_of_mem_numeric hop]
    exact hmeets
  have hterm := plain_infix_next getElem?_products rfl h fun op hop =>
    hrefuses op (List.mem_append_right _ hop)
  exact plain_infix_next getElem?_sums rfl hterm fun op hop =>
    hrefuses op (List.mem_append_left _ hop)

/-- A number is parsed with the point after it, which no digit follows. -/
theorem plain_pointed {n : Numeral} (hs : s.trimStart = n.text ++ txt "." ++ rest)
    (hdigit : rest.begins CodePoint.isDigit = false) (hreadable : n.isReadable = true) :
    plain arithmeticGrammar context 2 s =
      .ok (some ⟨.literal n.text n.value (.str (txt "number")), rest⟩) := by
  have hfraction : Scan.fraction? (txt "." ++ rest) = none := by
    cases rest with
    | nil => rfl
    | cons d rest =>
      rw [Text.begins_cons] at hdigit
      simp [Scan.fraction?, Text.ofString, hdigit]
  have hswallow : Scan.swallowPoint (txt "." ++ rest) = rest := by
    unfold Scan.swallowPoint
    rw [hfraction]
    rfl
  rw [List.append_assoc] at hs
  have hmatch : Terminal.match? context s .number = _ :=
    Terminal.match?_number hs ⟨rfl, fun _ => hfraction⟩ hreadable
  rw [hswallow] at hmatch
  exact plain_terminal getElem?_atoms [] (by decide) (List.forall_mem_nil _) hmatch

/-- **Completeness**: a derivation is what the parse gives, where the text after it stops its marks. -/
theorem Derives.plain_eq (h : Derives context symbol s node rest) (hruns : s.ShortRuns)
    (hstops : Stops symbol.marks rest) :
    plain arithmeticGrammar context symbol.level s = .ok (some ⟨node, rest⟩) := by
  induction h with
  | term _ ih =>
    have hterm := ih hruns (hstops.mono marks_term_subset)
    refine plain_infix_next getElem?_sums rfl hterm fun op hop => .inr ?_
    exact hstops.quiet _ (List.mem_map_of_mem (List.mem_append_left _ hop))
  | factor _ ih =>
    have hfactor := ih hruns ⟨hstops.delimited, List.forall_mem_nil _⟩
    refine plain_infix_next getElem?_products rfl hfactor fun op hop => .inr ?_
    exact hstops.quiet _ (List.mem_map_of_mem hop)
  | additive hop hl hmark hr ihl ihr =>
    have hrequired := required_of_mem_numeric (List.mem_append_left (products 2) hop)
    have hleft := ihl hruns (stops_of_sums hop hmark)
    have hright := ihr (hruns.of_suffix ((Text.suffix_of_trimStart hmark).trans hl.suffix)) hstops
    exact plain_infix getElem?_sums [] rfl (by decide) hop hleft
      (by rw [hrequired, hl.meets_number]; rfl) hmark hright (by rw [hrequired, hr.meets_number]; rfl)
  | multiplicative hop hl hmark hr ihl ihr =>
    have hrequired := required_of_mem_numeric (List.mem_append_right (sums 1) hop)
    have hleft := ihl hruns (stops_of_products hop hmark)
    have hright := ihr (hruns.of_suffix ((Text.suffix_of_trimStart hmark).trans hl.suffix)) hstops
    exact plain_infix getElem?_products [] rfl (by decide) hop hleft
      (by rw [hrequired, hl.meets_number]; rfl) hmark hright (by rw [hrequired, hr.meets_number]; rfl)
  | number n hs =>
    exact plain_factor (.number n (hruns.isReadable hs)) hs hstops.delimited
  | pointed n hs hdigit =>
    have hreadable := hruns.isReadable ((List.append_assoc _ _ _) ▸ hs)
    exact plain_pointed hs hdigit hreadable
  | numericName name hname hfree hschema hs =>
    have hleaf : plain arithmeticGrammar context 2 _ = _ :=
      plain_factor (.identifier name hname hfree) hs hstops.delimited
    rw [Leaf.node, hschema] at hleaf
    exact hleaf
  | grouped hopen hinner hclose ih =>
    have hinside := ih (hruns.of_suffix (Text.suffix_of_trimStart hopen)) (stops_of_closing hclose)
    exact plain_parentheses getElem?_atoms hopen hinside hclose
  | string mark hmark hraw hs =>
    refine plain_other (plain_factor (.string mark _ hmark hraw) ?_ hstops.delimited) rfl
    simpa [Leaf.text] using hs
  | keyword k hs =>
    have hderives : Derives context .other _ _ _ := .keyword k hs
    exact plain_other (plain_factor (.keyword k) hs hstops.delimited) hderives.meets_number
  | otherName name hname hfree hschema hs =>
    have hmeets := (Derives.otherName name hname hfree hschema hs).meets_number
    exact plain_other (plain_factor (.identifier name hname hfree) hs hstops.delimited) hmeets
  | groupedOther hopen hinner hclose ih =>
    have hmeets := (Derives.groupedOther hopen hinner hclose).meets_number
    have hinside := ih (hruns.of_suffix (Text.suffix_of_trimStart hopen)) (stops_of_closing hclose)
    exact plain_other (plain_parentheses getElem?_atoms hopen hinside hclose) hmeets

/-- **The arithmetic grammar accepts exactly its language**: a text without long runs of digits is parsed
to a tree up to blanks exactly if it is a sentence of that tree up to blanks. -/
theorem parse_iff_sentence {grammar : Grammar} (hbuild : Grammar.build arithmeticRules = .ok grammar)
    (context : Context) {s : Text} (hruns : s.ShortRuns) (node : Node) :
    (∃ rest, grammar.parse context s = .ok (some ⟨node, rest⟩) ∧ rest.isBlank = true) ↔
      ∃ rest, Sentence context s node rest ∧ rest.isBlank = true := by
  obtain rfl : arithmeticGrammar = grammar := Except.ok.inj (build_arithmeticRules.symm.trans hbuild)
  unfold Grammar.parse
  rw [untracked_eq_plain]
  constructor
  · rintro ⟨rest, hparse, hblank⟩
    exact ⟨rest, reads_of_plain hparse, hblank⟩
  · rintro ⟨rest, hsum | hother, hblank⟩
    · exact ⟨rest, hsum.plain_eq hruns (stops_of_isBlank hblank (by decide)), hblank⟩
    · exact ⟨rest, hother.plain_eq hruns (stops_of_isBlank hblank (by decide)), hblank⟩

/-- A difference of a number and of a product in parentheses, with a swallowed point and a blank at the
end. -/
theorem parse_iff_sentence_difference :
    let one : Numeral := ⟨false, txt "1", [], by decide, by decide, rfl⟩
    let two : Numeral := ⟨true, txt "2", txt "5", by decide, by decide, by decide⟩
    let number (n : Numeral) : Node := .literal n.text n.value (.str (txt "number"))
    let binary (name : String) (left right : Node) : Node := .composite (txt name) (.str (txt "number"))
      [(txt "left", .node left), (txt "right", .node right)]
    (txt "1. -(-2.5*x) ").ShortRuns ∧
      ∃ rest, arithmeticGrammar.parse [(txt "x", txt "number")] (txt "1. -(-2.5*x) ") =
          .ok (some ⟨binary "sub" (number one) (parenthesesNode (binary "mul" (number two)
            (.identifier (txt "x") (.str (txt "number"))))), rest⟩) ∧
        rest.isBlank = true := by
  intro one two number binary
  have hruns : (txt "1. -(-2.5*x) ").ShortRuns := Text.shortRuns_of_length_le (by decide)
  let context : Context := [(txt "x", txt "number")]
  have htwo : Derives context .factor (txt "-2.5*x) ") (number two) (txt "*x) ") :=
    .number two (by decide)
  have hx : Derives context .term (txt "x) ") (.identifier (txt "x") (.str (txt "number"))) (txt ") ") :=
    .factor (.numericName (txt "x") ⟨by decide, by decide⟩ (fun k => by cases k <;> decide) (by decide)
      (by decide))
  have hproduct : Derives context .sum (txt "-2.5*x) ") _ (txt ") ") :=
    .term (.multiplicative List.mem_cons_self htwo (by decide) hx)
  have hgrouped : Derives context .sum (txt "(-2.5*x) ") _ (txt " ") :=
    .term (.factor (.grouped (by decide) hproduct (by decide)))
  have hone : Derives context .term (txt "1. -(-2.5*x) ") (number one) (txt " -(-2.5*x) ") :=
    .factor (.pointed one (by decide) (by decide))
  have hsum : Derives context .sum (txt "1. -(-2.5*x) ") _ (txt " ") :=
    .additive (List.mem_cons_of_mem _ List.mem_cons_self) hone (by decide) hgrouped
  exact ⟨hruns, (parse_iff_sentence build_arithmeticRules context hruns _).mpr ⟨_, .inl hsum, by decide⟩⟩

end Arithmetic

end Mixfix
