import Mixfix.Proofs.Parse.Step

/-!
# Runs of the engine side by side

The engine is one definition for any hooks, so what two runs of it have in common is proved once. A
`Simulation` is a relation between the steps of two runs that holds of what hooks do and passes through
sequencing. It then holds of a step of two runs, if it holds of the parses that the step asks for
(`Simulation.attempt_rel`), and so of whole parses with the same fuel (`Simulation.parseFrom_rel`).

The relation carries a condition on results, and the lemmas supply it: a parse leaves an end of its text
(`Stays`). So all that is parsed in a run are ends of one source.
-/

set_option autoImplicit false

namespace Mixfix

/-- Two contexts that make no difference to a grammar on the ends of a source: no terminal reads another
token, and no rule makes another node. -/
structure Grammar.Alike (grammar : Grammar) (source : Text) (context other : Context) : Prop where
  terminals : ∀ (terminal : Terminal) (s : Text), s <:+ source →
    terminal.match? context s = terminal.match? other s
  nodes : ∀ level ∈ grammar, ∀ rule ∈ level.rules, ∀ matched,
    rule.assemble matched context = rule.assemble matched other

theorem Grammar.Alike.refl (grammar : Grammar) (source : Text) (context : Context) :
    grammar.Alike source context context :=
  ⟨fun _ _ _ => rfl, fun _ _ _ _ _ => rfl⟩

namespace Engine

/-- A match leaves an end of the text. -/
def Stays {α : Type} (s : Text) (found : Option (Match α)) : Prop :=
  ∀ r, found = some r → r.rest <:+ s

theorem stays_none {α : Type} (s : Text) : Stays (α := α) s none := by
  intro r h
  cases h

theorem stays_some {α : Type} {s : Text} {r : Match α} (h : r.rest <:+ s) : Stays s (some r) := by
  intro r' hr
  cases hr
  exact h

variable {m m₁ m₂ : Type → Type} [Monad m] [Monad m₁] [Monad m₂]

/-- The candidates of a parse, tried one after the other. -/
def attempt (hooks : Hooks m) (parse : Nat → Text → m Found) (grammar : Grammar) (context : Context)
    (start : Nat) (s : Text) : m Found :=
  firstSome (fun (index, rule) => matchRule hooks parse context index rule s) (candidates grammar start)

theorem parseFrom_succ (hooks : Hooks m) (grammar : Grammar) (context : Context) (fuel start : Nat)
    (s : Text) :
    parseFrom hooks grammar context (fuel + 1) start s =
      hooks.remember start s
        (attempt hooks (parseFrom hooks grammar context fuel) grammar context start s) := rfl

/-- A relation between steps of two runs, with a condition on the result, that hooks respect and
sequencing keeps. -/
structure Simulation (h₁ : Hooks m₁) (h₂ : Hooks m₂) (source : Text) where
  Rel : {α : Type} → (α → Prop) → m₁ α → m₂ α → Prop
  pure : ∀ {α : Type} {Q : α → Prop} {a : α}, Q a → Rel Q (pure a) (pure a)
  bind : ∀ {α β : Type} {Q : α → Prop} {Q' : β → Prop} {x : m₁ α} {y : m₂ α} {f : α → m₁ β}
    {g : α → m₂ β}, Rel Q x y → (∀ a, Q a → Rel Q' (f a) (g a)) → Rel Q' (x >>= f) (y >>= g)
  interrupt : ∀ {Q : Found → Prop} (reason : Interruption), Rel Q (h₁.interrupt reason) (h₂.interrupt reason)
  reached : ∀ left : Text, left <:+ source → Rel (fun _ => True) (h₁.reached left) (h₂.reached left)

namespace Simulation

variable {h₁ : Hooks m₁} {h₂ : Hooks m₂} {source : Text} (sim : Simulation h₁ h₂ source)

/-- Attempts that are related one by one have related first results. -/
theorem firstSome_rel {α β : Type} {Q : Option β → Prop} (hnone : Q none) {f : α → m₁ (Option β)}
    {g : α → m₂ (Option β)} {candidates : List α}
    (h : ∀ a ∈ candidates, sim.Rel Q (f a) (g a)) :
    sim.Rel Q (firstSome f candidates) (firstSome g candidates) := by
  induction candidates with
  | nil => exact sim.pure hnone
  | cons a candidates ih =>
    refine sim.bind (h a List.mem_cons_self) fun found hfound => ?_
    cases found with
    | none => exact ih fun b hb => h b (List.mem_cons_of_mem _ hb)
    | some result => exact sim.pure hfound

variable {p₁ : Nat → Text → m₁ Found} {p₂ : Nat → Text → m₂ Found} {grammar : Grammar}
  {context other : Context} {level start : Nat} {s : Text}

theorem matchElement_rel (hs : s <:+ source) (kind : ElementKind)
    (hterminal : ∀ terminal : Terminal, terminal.match? context s = terminal.match? other s)
    (hparse : ∀ role : Role, sim.Rel (Stays s) (p₁ (role.start level) s) (p₂ (role.start level) s)) :
    sim.Rel (Stays s) (matchElement h₁ p₁ context level kind s) (matchElement h₂ p₂ other level kind s) := by
  cases kind with
  | subexpression role constraint =>
    refine sim.bind (hparse role) fun found hfound => sim.pure fun r hr => ?_
    exact hfound r (Option.eq_some_of_filter_eq_some hr)
  | terminal terminal =>
    simp only [matchElement, ← hterminal terminal]
    have hstays : ∀ r, terminal.match? context s = .ok (some r) → r.rest <:+ s :=
      fun r => Terminal.match?_suffix
    generalize terminal.match? context s = found at hstays
    cases found with
    | error reason =>
      cases reason
      exact sim.interrupt _
    | ok found =>
      cases found with
      | none => exact sim.pure (stays_none s)
      | some result =>
        have hresult := hstays result rfl
        exact sim.bind (sim.reached result.rest (hresult.trans hs)) fun _ _ => sim.pure (stays_some hresult)

/-- Each element stands at the front of an end of the source. -/
theorem matchElements_rel (hs : s <:+ source) (pattern : List Element)
    (hterminal : ∀ (terminal : Terminal) (t : Text), t <:+ source →
      terminal.match? context t = terminal.match? other t)
    (hparse : ∀ (role : Role) (t : Text), t <:+ source →
      sim.Rel (Stays t) (p₁ (role.start level) t) (p₂ (role.start level) t)) :
    sim.Rel (Stays s) (matchElements h₁ p₁ context level pattern s)
      (matchElements h₂ p₂ other level pattern s) := by
  induction pattern generalizing s with
  | nil => exact sim.pure (stays_some List.suffix_rfl)
  | cons element pattern ih =>
    have hmatch := sim.matchElement_rel hs element.kind (fun terminal => hterminal terminal s hs)
      fun role => hparse role s hs
    refine sim.bind hmatch fun found hfound => ?_
    cases found with
    | none => exact sim.pure (stays_none s)
    | some first =>
      have hfirst := hfound first rfl
      refine sim.bind (ih (hfirst.trans hs)) fun found hothers => ?_
      cases found with
      | none => exact sim.pure (stays_none s)
      | some others => exact sim.pure (stays_some ((hothers others rfl).trans hfirst))

theorem matchRule_rel (hs : s <:+ source) {rule : Rule}
    (hterminal : ∀ (terminal : Terminal) (t : Text), t <:+ source →
      terminal.match? context t = terminal.match? other t)
    (hnodes : ∀ matched, rule.assemble matched context = rule.assemble matched other)
    (hparse : ∀ (role : Role) (t : Text), t <:+ source →
      sim.Rel (Stays t) (p₁ (role.start level) t) (p₂ (role.start level) t)) :
    sim.Rel (Stays s) (matchRule h₁ p₁ context level rule s) (matchRule h₂ p₂ other level rule s) := by
  refine sim.bind (sim.matchElements_rel hs rule.pattern hterminal hparse) fun found hfound => ?_
  simp only [hnodes]
  refine sim.pure fun r hr => ?_
  obtain ⟨matched, hmatched, rfl⟩ := Option.map_eq_some_iff.mp hr
  exact hfound matched hmatched

/-- **A step relates two runs** if the parses that it asks for are related. -/
theorem attempt_rel (halike : grammar.Alike source context other) (hs : s <:+ source)
    (hparse : ∀ start t, start ≤ grammar.length → t <:+ source →
      sim.Rel (Stays t) (p₁ start t) (p₂ start t)) :
    sim.Rel (Stays s) (attempt h₁ p₁ grammar context start s) (attempt h₂ p₂ grammar other start s) := by
  refine sim.firstSome_rel (stays_none s) fun candidate hmem => ?_
  obtain ⟨index, rule⟩ := candidate
  obtain ⟨-, level, hlevel, hrule⟩ := mem_candidates.mp hmem
  have hindex : index < grammar.length := (List.getElem?_eq_some_iff.mp hlevel).1
  exact sim.matchRule_rel hs halike.terminals (halike.nodes level (List.mem_of_getElem? hlevel) rule hrule)
    fun role t ht => hparse _ t (role.start_le_length hindex) ht

/-- **Whole parses with the same fuel are related** if remembering keeps the relation. -/
theorem parseFrom_rel (halike : grammar.Alike source context other)
    (hremember : ∀ fuel start s, s <:+ source →
      sim.Rel (Stays s) (attempt h₁ (parseFrom h₁ grammar context fuel) grammar context start s)
        (attempt h₂ (parseFrom h₂ grammar other fuel) grammar other start s) →
      sim.Rel (Stays s)
        (h₁.remember start s (attempt h₁ (parseFrom h₁ grammar context fuel) grammar context start s))
        (h₂.remember start s (attempt h₂ (parseFrom h₂ grammar other fuel) grammar other start s)))
    (fuel start : Nat) (hs : s <:+ source) :
    sim.Rel (Stays s) (parseFrom h₁ grammar context fuel start s) (parseFrom h₂ grammar other fuel start s) := by
  induction fuel generalizing start s with
  | zero => exact sim.interrupt .endlessRecursion
  | succ fuel ih =>
    rw [parseFrom_succ, parseFrom_succ]
    exact hremember fuel start s hs (sim.attempt_rel halike hs fun start t _ ht => ih start ht)

end Simulation

/-! ## Runs with the same hooks -/

namespace Simulation

variable {h : Hooks m} {source : Text} (sim : Simulation h h source) {grammar : Grammar} {context : Context}

/-- **A run with more fuel is related** to one that remembers nothing, if a run that has used up its fuel is
related to any. -/
theorem parseFrom_rel_of_le (hremember : ∀ start s run, h.remember start s run = run)
    (hspent : ∀ {Q : Found → Prop} {x : m Found}, sim.Rel Q x x → sim.Rel Q (h.interrupt .endlessRecursion) x)
    {fuel more : Nat} (hfuel : fuel ≤ more) (start : Nat) {s : Text} (hs : s <:+ source) :
    sim.Rel (Stays s) (parseFrom h grammar context fuel start s) (parseFrom h grammar context more start s) := by
  have halike := Grammar.Alike.refl grammar source context
  induction fuel generalizing more start s with
  | zero =>
    refine hspent (sim.parseFrom_rel halike (fun _ _ _ _ hrel => ?_) more start hs)
    rw [hremember]
    exact hrel
  | succ fuel ih =>
    obtain ⟨more, rfl⟩ := Nat.exists_eq_add_of_lt hfuel
    rw [parseFrom_succ, parseFrom_succ, hremember, hremember]
    exact sim.attempt_rel halike hs fun start t _ ht => ih (Nat.le_add_right fuel _) start ht

/-- A step is the same in two runs if the parses that it asks for are, where runs that are related in both
directions are the same. -/
theorem attempt_congr (hantisymm : ∀ {Q : Found → Prop} {x y : m Found}, sim.Rel Q x y → sim.Rel Q y x → x = y)
    {p₁ p₂ : Nat → Text → m Found} (hrefl : ∀ start t, sim.Rel (Stays t) (p₂ start t) (p₂ start t))
    {start : Nat} {s : Text} (hs : s <:+ source)
    (heq : ∀ start t, start ≤ grammar.length → t <:+ source → p₁ start t = p₂ start t) :
    attempt h p₁ grammar context start s = attempt h p₂ grammar context start s := by
  have halike := Grammar.Alike.refl grammar source context
  have hrel : sim.Rel (Stays s) (attempt h p₁ grammar context start s) (attempt h p₂ grammar context start s) :=
    sim.attempt_rel halike hs fun start t hstart ht => heq start t hstart ht ▸ hrefl start t
  have hback : sim.Rel (Stays s) (attempt h p₂ grammar context start s) (attempt h p₁ grammar context start s) :=
    sim.attempt_rel halike hs fun start t hstart ht => heq start t hstart ht ▸ hrefl start t
  exact hantisymm hrel hback

end Simulation

end Engine

end Mixfix
