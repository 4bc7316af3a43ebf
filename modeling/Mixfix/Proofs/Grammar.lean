import Mathlib.Data.List.Induction
import Mathlib.Data.List.Pairwise
import Mixfix.Proofs.Rule

/-!
# The levels of a grammar

A grammar that is built of rules has one level for each precedence, in ascending order, and the atoms
after them. `Grammar.Places grammar index rule` says that a rule stands at a level of its precedence.
Every rule of the list has one such place (`exists_places`, `Places.index_unique`), and nothing else has
one (`Places.mem_rules`).
-/

set_option autoImplicit false

namespace Mixfix

namespace Grammar

/-! ## Ranks -/

/-- Ranks in ascending order, each of rules of its own precedence. -/
structure Ranks.Ordered (ranks : Ranks) : Prop where
  ascending : ranks.Pairwise fun a b => a.1 < b.1
  precedence : ∀ entry ∈ ranks, ∀ rule ∈ entry.2, rule.precedence = entry.1

theorem Ranks.Ordered.tail {entry : Int × List Rule} {ranks : Ranks} (h : Ranks.Ordered (entry :: ranks)) :
    Ranks.Ordered ranks :=
  ⟨(List.pairwise_cons.mp h.ascending).2, fun later hlater => h.precedence later (List.mem_cons_of_mem _ hlater)⟩

theorem insertRule_cons_of_lt {rule : Rule} {entry : Int × List Rule} {ranks : Ranks}
    (h : rule.precedence < entry.1) :
    insertRule rule (entry :: ranks) = (rule.precedence, [rule]) :: entry :: ranks := by
  rw [insertRule, if_pos h]

theorem insertRule_cons_of_eq {rule : Rule} {entry : Int × List Rule} {ranks : Ranks}
    (h : rule.precedence = entry.1) :
    insertRule rule (entry :: ranks) = (entry.1, entry.2 ++ [rule]) :: ranks := by
  rw [insertRule, if_neg (by omega), if_pos h]

theorem insertRule_cons_of_gt {rule : Rule} {entry : Int × List Rule} {ranks : Ranks}
    (h : entry.1 < rule.precedence) :
    insertRule rule (entry :: ranks) = entry :: insertRule rule ranks := by
  rw [insertRule, if_neg (by omega), if_neg (by omega)]

/-- A rank is one that was there or the one of the rule put in. -/
theorem fst_of_mem_insertRule {rule : Rule} {ranks : Ranks} {entry : Int × List Rule}
    (h : entry ∈ insertRule rule ranks) :
    entry.1 = rule.precedence ∨ ∃ old ∈ ranks, old.1 = entry.1 := by
  induction ranks with
  | nil =>
    rw [insertRule, List.mem_singleton] at h
    exact .inl (by rw [h])
  | cons first ranks ih =>
    rcases Int.lt_trichotomy rule.precedence first.1 with hlt | heq | hgt
    · rw [insertRule_cons_of_lt hlt] at h
      rcases List.mem_cons.mp h with rfl | h
      · exact .inl rfl
      · exact .inr ⟨entry, h, rfl⟩
    · rw [insertRule_cons_of_eq heq] at h
      rcases List.mem_cons.mp h with rfl | h
      · exact .inl heq.symm
      · exact .inr ⟨entry, List.mem_cons_of_mem _ h, rfl⟩
    · rw [insertRule_cons_of_gt hgt] at h
      rcases List.mem_cons.mp h with rfl | h
      · exact .inr ⟨entry, List.mem_cons_self, rfl⟩
      · exact (ih h).imp_right fun ⟨old, hold, hold'⟩ => ⟨old, List.mem_cons_of_mem _ hold, hold'⟩

theorem Ranks.Ordered.insertRule {ranks : Ranks} (h : Ranks.Ordered ranks) (rule : Rule) :
    Ranks.Ordered (insertRule rule ranks) := by
  induction ranks with
  | nil =>
    refine ⟨List.pairwise_singleton _ _, fun entry hentry r hr => ?_⟩
    rw [Grammar.insertRule, List.mem_singleton] at hentry
    subst hentry
    rw [List.mem_singleton.mp hr]
  | cons first ranks ih =>
    obtain ⟨hfirst, hascending⟩ := List.pairwise_cons.mp h.ascending
    obtain ⟨hrules, hprecedence⟩ := List.forall_mem_cons.mp h.precedence
    rcases Int.lt_trichotomy rule.precedence first.1 with hlt | heq | hgt
    · rw [insertRule_cons_of_lt hlt]
      refine ⟨List.pairwise_cons.mpr ⟨?_, h.ascending⟩, List.forall_mem_cons.mpr ⟨?_, h.precedence⟩⟩
      · exact List.forall_mem_cons.mpr ⟨hlt, fun entry hentry => Int.lt_trans hlt (hfirst entry hentry)⟩
      · intro r hr
        rw [List.mem_singleton.mp hr]
    · rw [insertRule_cons_of_eq heq]
      refine ⟨List.pairwise_cons.mpr ⟨hfirst, hascending⟩, List.forall_mem_cons.mpr ⟨fun r hr => ?_, hprecedence⟩⟩
      rcases List.mem_append.mp hr with hr | hr
      · exact hrules r hr
      · rw [List.mem_singleton.mp hr]
        exact heq
    · rw [insertRule_cons_of_gt hgt]
      have hrest := ih h.tail
      refine ⟨List.pairwise_cons.mpr ⟨fun entry hentry => ?_, hrest.ascending⟩,
        List.forall_mem_cons.mpr ⟨hrules, hrest.precedence⟩⟩
      rcases fst_of_mem_insertRule hentry with heq | ⟨old, hold, heq⟩
      · rw [heq]
        exact hgt
      · rw [← heq]
        exact hfirst old hold

/-- Putting a rule in adds this rule and no other. -/
theorem mem_insertRule {rule r : Rule} {ranks : Ranks} :
    r ∈ (insertRule rule ranks).flatMap Prod.snd ↔ r = rule ∨ r ∈ ranks.flatMap Prod.snd := by
  induction ranks with
  | nil => simp [insertRule]
  | cons first ranks ih =>
    rcases Int.lt_trichotomy rule.precedence first.1 with hlt | heq | hgt
    · simp [insertRule_cons_of_lt hlt]
    · simp only [insertRule_cons_of_eq heq, List.flatMap_cons, List.mem_append, List.mem_singleton]
      tauto
    · simp only [insertRule_cons_of_gt hgt, List.flatMap_cons, List.mem_append, ih]
      tauto

/-- The last rule of a list is put in last. -/
theorem rank_append_singleton (rules : List Rule) (rule : Rule) :
    rank (rules ++ [rule]) = insertRule rule (rank rules) :=
  List.foldl_append

/-- The ranks of a rule list are in order and hold the rules of the list. -/
theorem rank_spec (rules : List Rule) :
    Ranks.Ordered (rank rules) ∧ ∀ r, r ∈ (rank rules).flatMap Prod.snd ↔ r ∈ rules := by
  induction rules using List.reverseRecOn with
  | nil => exact ⟨⟨List.Pairwise.nil, List.forall_mem_nil _⟩, fun r => Iff.rfl⟩
  | append_singleton rules rule ih =>
    obtain ⟨hordered, hmem⟩ := ih
    rw [rank_append_singleton]
    refine ⟨hordered.insertRule rule, fun r => ?_⟩
    rw [mem_insertRule, hmem, List.mem_append, List.mem_singleton, or_comm]

/-! ## Levels -/

/-- A rule stands at a level of its precedence. The level of the atoms has none. -/
def Places (grammar : Grammar) (index : Nat) (rule : Rule) : Prop :=
  ∃ level, grammar[index]? = some level ∧ level.precedence = some rule.precedence ∧ rule ∈ level.rules

/-- The level of a rank. -/
def rankLevel (entry : Int × List Rule) : Level :=
  ⟨some entry.1, entry.2⟩

variable {rules : List Rule} {grammar : Grammar}

/-- A grammar is built of rules of distinct names: their ranks and the atoms. -/
theorem build_eq_ok :
    build rules = .ok grammar ↔
      (rules.map Rule.name).Nodup ∧ grammar = (rank rules).map rankLevel ++ [atomLevel] := by
  rw [← firstRepeated?_eq_none]
  unfold build
  split
  · rename_i name hname
    simp [hname]
  · rename_i hnone
    simp only [hnone, Except.ok.injEq, true_and]
    exact eq_comm

theorem exists_build (h : Admissible rules) : ∃ grammar, build rules = .ok grammar :=
  ⟨_, build_eq_ok.mpr ⟨h.distinct, rfl⟩⟩

/-- A level is one of a rank or, at the end, that of the atoms. -/
theorem getElem?_of_build (h : build rules = .ok grammar) {index : Nat} {level : Level}
    (hlevel : grammar[index]? = some level) :
    (∃ entry, (rank rules)[index]? = some entry ∧ level = rankLevel entry) ∨
      index = (rank rules).length ∧ level = atomLevel := by
  obtain ⟨-, rfl⟩ := build_eq_ok.mp h
  by_cases hindex : index < (rank rules).length
  · left
    rw [List.getElem?_append_left (by simpa using hindex), List.getElem?_map] at hlevel
    obtain ⟨entry, hentry, rfl⟩ := Option.map_eq_some_iff.mp hlevel
    exact ⟨entry, hentry, rfl⟩
  · right
    rw [List.getElem?_append_right (by simpa using hindex)] at hlevel
    obtain ⟨hlt, heq⟩ := List.getElem?_eq_some_iff.mp hlevel
    simp only [List.length_map, List.length_cons, List.length_nil] at hlt
    have hindex' : index = (rank rules).length := by omega
    subst hindex'
    simp only [List.length_map, Nat.sub_self, List.getElem_cons_zero] at heq
    exact ⟨rfl, heq.symm⟩

/-- The levels before the last are those of the rules. -/
theorem exists_last (h : build rules = .ok grammar) :
    ∃ last, grammar[last]? = some atomLevel ∧ grammar.length = last + 1 ∧
      ∀ index < last, ∃ level, grammar[index]? = some level ∧ ∀ rule ∈ level.rules, rule ∈ rules := by
  obtain ⟨-, rfl⟩ := build_eq_ok.mp h
  refine ⟨(rank rules).length, by simp, by simp, fun index hindex => ?_⟩
  refine ⟨rankLevel (rank rules)[index], ?_, fun rule hrule => ?_⟩
  · rw [List.getElem?_append_left (by simpa using hindex), List.getElem?_map, List.getElem?_eq_getElem hindex]
    rfl
  · exact ((rank_spec rules).2 rule).mp (List.mem_flatMap.mpr ⟨_, List.getElem_mem hindex, hrule⟩)

/-- A rule of a level has its place there, or is an atom at the last level. -/
theorem places_or_atom (h : build rules = .ok grammar) {index : Nat} {level : Level} {rule : Rule}
    (hlevel : grammar[index]? = some level) (hrule : rule ∈ level.rules) :
    grammar.Places index rule ∧ rule ∈ rules ∨ rule ∈ atomRules := by
  rcases getElem?_of_build h hlevel with ⟨entry, hentry, rfl⟩ | ⟨-, rfl⟩
  · left
    have hmem := List.mem_of_getElem? hentry
    have hprecedence := (rank_spec rules).1.precedence entry hmem rule hrule
    exact ⟨⟨_, hlevel, by rw [rankLevel, hprecedence], hrule⟩,
      ((rank_spec rules).2 rule).mp (List.mem_flatMap.mpr ⟨entry, hmem, hrule⟩)⟩
  · exact .inr hrule

/-- Atoms have no configuration, so a grammar has only those of its rules. -/
theorem configure_of_build (h : build rules = .ok grammar) (hconfigure : ∀ rule ∈ rules, rule.configure = none)
    {level : Level} {rule : Rule} (hlevel : level ∈ grammar) (hrule : rule ∈ level.rules) :
    rule.configure = none := by
  obtain ⟨index, hindex⟩ := List.mem_iff_getElem?.mp hlevel
  rcases places_or_atom h hindex hrule with ⟨-, hrule⟩ | hrule
  · exact hconfigure rule hrule
  · exact configure_of_mem_atomRules hrule

/-- Only rules of the list have a place. -/
theorem Places.mem_rules (h : build rules = .ok grammar) {index : Nat} {rule : Rule}
    (hplace : grammar.Places index rule) : rule ∈ rules := by
  obtain ⟨level, hlevel, hprecedence, hrule⟩ := hplace
  rcases getElem?_of_build h hlevel with ⟨entry, hentry, rfl⟩ | ⟨-, rfl⟩
  · exact ((rank_spec rules).2 rule).mp
      (List.mem_flatMap.mpr ⟨entry, List.mem_of_getElem? hentry, hrule⟩)
  · cases hprecedence

/-- Every rule of the list has a place. -/
theorem exists_places (h : build rules = .ok grammar) {rule : Rule} (hrule : rule ∈ rules) :
    ∃ index, grammar.Places index rule := by
  obtain ⟨-, rfl⟩ := build_eq_ok.mp h
  obtain ⟨entry, hentry, hmem⟩ := List.mem_flatMap.mp (((rank_spec rules).2 rule).mpr hrule)
  have hprecedence := (rank_spec rules).1.precedence entry hentry rule hmem
  obtain ⟨index, hindex⟩ := List.mem_iff_getElem?.mp hentry
  have hlt : index < (rank rules).length := (List.getElem?_eq_some_iff.mp hindex).1
  refine ⟨index, rankLevel entry, ?_, by rw [rankLevel, hprecedence], hmem⟩
  rw [List.getElem?_append_left (by simpa using hlt), List.getElem?_map, hindex]
  rfl

/-- Later places are those of higher precedence. -/
theorem Places.precedence_lt (h : build rules = .ok grammar) {i j : Nat} {a b : Rule}
    (ha : grammar.Places i a) (hb : grammar.Places j b) (hij : i < j) :
    a.precedence < b.precedence := by
  obtain ⟨la, hla, hpa, -⟩ := ha
  obtain ⟨lb, hlb, hpb, -⟩ := hb
  rcases getElem?_of_build h hla with ⟨ea, hea, rfl⟩ | ⟨-, rfl⟩
  · rcases getElem?_of_build h hlb with ⟨eb, heb, rfl⟩ | ⟨-, rfl⟩
    · obtain ⟨hi, rfl⟩ := List.getElem?_eq_some_iff.mp hea
      obtain ⟨hj, rfl⟩ := List.getElem?_eq_some_iff.mp heb
      simp only [rankLevel, Option.some.injEq] at hpa hpb
      rw [← hpa, ← hpb]
      exact List.pairwise_iff_getElem.mp (rank_spec rules).1.ascending i j hi hj hij
    · cases hpb
  · cases hpa

/-- A rule has one place only. -/
theorem Places.index_unique (h : build rules = .ok grammar) {i j : Nat} {rule : Rule}
    (hi : grammar.Places i rule) (hj : grammar.Places j rule) : i = j := by
  rcases Nat.lt_trichotomy i j with hij | hij | hij
  · exact absurd (hi.precedence_lt h hj hij) (Int.lt_irrefl _)
  · exact hij
  · exact absurd (hj.precedence_lt h hi hij) (Int.lt_irrefl _)

end Grammar

end Mixfix
