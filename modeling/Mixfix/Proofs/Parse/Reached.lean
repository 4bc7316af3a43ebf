import Mixfix.Proofs.Parse.Memory

/-!
# The terminals of a run

Progress keeps one number of a run, the least that a terminal has left. A listing run is the remembering run
that keeps everything its terminals left, in turn. It goes the same way (`levels_eq_listed`): the same results
are remembered, and its list tells the progress. So the furthest offset of a parse is the end of a terminal
that was matched in it, or zero, and no terminal ended further on (`furthest_of_levels`).
-/

set_option autoImplicit false

namespace Mixfix

open Engine

namespace Parse

/-! ## Listing runs -/

/-- What the terminals left in turn, and the results that are remembered. -/
structure Listing where
  reached : List Text
  results : Std.HashMap (Nat × Nat) Found

/-- Nothing is matched yet. -/
def Listing.start : Listing :=
  ⟨[], Std.HashMap.emptyWithCapacity⟩

/-- Runs the engine, lists what terminals left and parses nothing twice. -/
def listingHooks : Hooks (StateT Listing (Except Interruption)) where
  reached left := modify fun listing => { listing with reached := listing.reached ++ [left] }
  remember start s run := do
    let key := (start, s.length)
    match (← get).results[key]? with
    | some result => return result
    | none =>
      let result ← run
      modify fun listing => { listing with results := listing.results.insert key result }
      return result
  interrupt reason := throw reason

/-- Parses a text from a level on and lists what the terminals left. -/
def listed (grammar : Grammar) (context : Context) (start : Nat) (s : Text) :
    Except Interruption (Found × List Text) := do
  let (found, listing) ←
    parseFrom listingHooks grammar context (depth grammar s) start s Listing.start
  return (found, listing.reached)

/-- The memory that a listing comes to. -/
def Listing.memory (source : Text) (listing : Listing) : Memory :=
  ⟨(Progress.start source).recordAll listing.reached, listing.results⟩

/-! ## A listing run beside a remembering one -/

variable {grammar : Grammar} {context : Context} {source : Text}

/-- A listing of ends of the source, whose results leave ends of their texts. -/
structure Listing.Sound (source : Text) (listing : Listing) : Prop where
  memory : (listing.memory source).Within source
  suffixes : ∀ left ∈ listing.reached, left <:+ source

theorem Listing.sound_start (source : Text) : Listing.start.Sound source where
  memory := Memory.within_start source
  suffixes _ h := absurd h List.not_mem_nil

/-- What one more terminal left goes to the end of the list. -/
theorem Listing.memory_append (source : Text) (listing : Listing) (left : Text) :
    Listing.memory source { listing with reached := listing.reached ++ [left] } =
      { listing.memory source with progress := (listing.memory source).progress.record left } := by
  unfold Listing.memory Progress.recordAll
  rw [List.foldl_append]
  rfl

/-- The two runs end in the same way: with the same failure, or with the same result, where the memory of the
one is that of the listing. -/
inductive Lists (source : Text) {α : Type} (Q : α → Prop) :
    Except Interruption (α × Memory) → Except Interruption (α × Listing) → Prop
  | error (e : Interruption) : Lists source Q (.error e) (.error e)
  | ok {a : α} {listing : Listing} : Q a → listing.Sound source →
      Lists source Q (.ok (a, listing.memory source)) (.ok (a, listing))

/-- From a sound listing one run does what the other does from its memory. -/
def Listed (source : Text) {α : Type} (Q : α → Prop)
    (x : StateT Memory (Except Interruption) α) (y : StateT Listing (Except Interruption) α) : Prop :=
  ∀ listing : Listing, listing.Sound source →
    Lists source Q (x (listing.memory source)) (y listing)

theorem Listed.bind {α β : Type} {Q : α → Prop} {Q' : β → Prop}
    {x : StateT Memory (Except Interruption) α} {y : StateT Listing (Except Interruption) α}
    {f : α → StateT Memory (Except Interruption) β} {g : α → StateT Listing (Except Interruption) β}
    (h : Listed source Q x y)
    (hfg : ∀ a, Q a → Listed source Q' (f a) (g a)) :
    Listed source Q' (x >>= f) (y >>= g) := by
  intro listing hlisting
  have hstep := h listing hlisting
  show Lists source Q' (x (listing.memory source) >>= fun p => f p.1 p.2)
    (y listing >>= fun p => g p.1 p.2)
  generalize x (listing.memory source) = u, y listing = v at hstep ⊢
  cases hstep with
  | error e => exact .error e
  | ok ha hsound => exact hfg _ ha _ hsound

/-- A result that is there is looked up. -/
theorem listing_of_found {start : Nat} {s : Text} {listing : Listing} {found : Found}
    (h : listing.results[(start, s.length)]? = some found)
    (y : StateT Listing (Except Interruption) Found) :
    listingHooks.remember start s y listing = .ok (found, listing) := by
  simp only [listingHooks, get, getThe, MonadStateOf.get, StateT.get, bind, StateT.bind, Except.bind,
    pure, Except.pure]
  rw [h]
  rfl

/-- A result that is not there is computed and put in. -/
theorem listing_of_not_found {start : Nat} {s : Text} {listing : Listing}
    (h : listing.results[(start, s.length)]? = none)
    (y : StateT Listing (Except Interruption) Found) :
    listingHooks.remember start s y listing = (do
      let (found, listing') ← y listing
      return (found, { listing' with results := listing'.results.insert (start, s.length) found })) := by
  simp only [listingHooks, get, getThe, MonadStateOf.get, StateT.get, bind, StateT.bind, Except.bind,
    pure, Except.pure]
  rw [h]
  rfl

/-- The same result is looked up, or put in. -/
theorem listed_remember {start : Nat} {s : Text} {x : StateT Memory (Except Interruption) Found}
    {y : StateT Listing (Except Interruption) Found} (hs : s <:+ source) (h : Listed source (Stays s) x y) :
    Listed source (Stays s) (rememberingHooks.remember start s x) (listingHooks.remember start s y) := by
  intro listing hlisting
  cases hfound : listing.results[(start, s.length)]? with
  | some found =>
    have hmemory : (listing.memory source).results[(start, s.length)]? = some found := hfound
    rw [remember_of_found hmemory, listing_of_found hfound]
    exact .ok (hlisting.memory start s found hs hmemory) hlisting
  | none =>
    have hmemory : (listing.memory source).results[(start, s.length)]? = none := hfound
    have hstep := h listing hlisting
    rw [remember_of_not_found hmemory, listing_of_not_found hfound]
    generalize x (listing.memory source) = u, y listing = v at hstep ⊢
    cases hstep with
    | error e => exact .error e
    | @ok a listing' hstays hsound =>
      have hput : Listing.Sound source
          { listing' with results := listing'.results.insert (start, s.length) a } :=
        ⟨hsound.memory.insert hs hstays, hsound.suffixes⟩
      exact .ok hstays hput

/-- A remembering run beside a listing one. -/
def listingSimulation (source : Text) : Simulation rememberingHooks listingHooks source where
  Rel := Listed source
  pure ha := fun _ hlisting => .ok ha hlisting
  bind := Listed.bind
  interrupt _ := fun _ _ => .error _
  reached left hleft := by
    intro listing hlisting
    have hmemory := listing.memory_append source left
    have hsound : Listing.Sound source { listing with reached := listing.reached ++ [left] } := by
      refine ⟨fun start s found hs hfound => hlisting.memory start s found hs hfound, fun t ht => ?_⟩
      rcases List.mem_append.mp ht with ht | ht
      · exact hlisting.suffixes t ht
      · rw [List.mem_singleton.mp ht]
        exact hleft
    have hlists := Lists.ok (Q := fun _ : Unit => True) (a := ()) trivial hsound
    rw [hmemory] at hlists
    exact hlists

/-- **The list tells the progress.** A parse that reports progress does what the listing one does, and what
this lists are ends of the text. -/
theorem levels_eq_listed (start : Nat) (s : Text) :
    levels grammar context start s = (listed grammar context start s).map
        (fun (found, reached) => (found, (Progress.start s).recordAll reached)) ∧
      ∀ found reached, listed grammar context start s = .ok (found, reached) →
        ∀ left ∈ reached, left <:+ s := by
  have hlisted : Listed s (Stays s)
      (parseFrom rememberingHooks grammar context (depth grammar s) start s)
      (parseFrom listingHooks grammar context (depth grammar s) start s) :=
    (listingSimulation s).parseFrom_rel (.refl grammar s context) (fun _ _ _ hs h => listed_remember hs h) _
      start List.suffix_rfl
  have hrun := hlisted Listing.start (Listing.sound_start s)
  unfold levels listed withProgress
  change Lists s (Stays s)
    (parseFrom rememberingHooks grammar context (depth grammar s) start s (Memory.start s)) _ at hrun
  generalize parseFrom rememberingHooks grammar context (depth grammar s) start s (Memory.start s) = u
    at hrun ⊢
  generalize parseFrom listingHooks grammar context (depth grammar s) start s Listing.start = v at hrun ⊢
  cases hrun with
  | error e => exact ⟨rfl, fun _ _ h => by cases h⟩
  | ok _ hsound =>
    refine ⟨rfl, fun found reached h => ?_⟩
    cases h
    exact hsound.suffixes

/-! ## The furthest offset -/

/-- The offset just after a terminal that left an end of a text. -/
def endOffset (s left : Text) : Nat :=
  s.length - left.length

/-- The furthest of some ends of terminals, zero if there are none. -/
structure Furthest (s : Text) (reached : List Text) (furthest : Nat) : Prop where
  bound : ∀ left ∈ reached, endOffset s left ≤ furthest
  attained : furthest = 0 ∨ ∃ left ∈ reached, furthest = endOffset s left

theorem Furthest.le_length {s : Text} {reached : List Text} {furthest : Nat}
    (h : Furthest s reached furthest) : furthest ≤ s.length := by
  rcases h.attained with rfl | ⟨left, -, rfl⟩
  · exact Nat.zero_le _
  · exact Nat.sub_le _ _

end Parse

namespace Progress

/-- Recording leaves the length of the source alone. -/
theorem length_recordAll (progress : Progress) (reached : List Text) :
    (progress.recordAll reached).length = progress.length := by
  induction reached generalizing progress with
  | nil => rfl
  | cons left reached ih => exact ih (progress.record left)

/-- The least that is left is what some terminal left, if it is not what was left before. -/
theorem leastLeft_recordAll (progress : Progress) (reached : List Text) :
    (progress.recordAll reached).leastLeft = progress.leastLeft ∨
      ∃ left ∈ reached, (progress.recordAll reached).leastLeft = left.length := by
  induction reached generalizing progress with
  | nil => exact .inl rfl
  | cons left reached ih =>
    change ((progress.record left).recordAll reached).leastLeft = _ ∨
      ∃ old ∈ left :: reached, ((progress.record left).recordAll reached).leastLeft = old.length
    rcases ih (progress.record left) with h | ⟨old, hold, h⟩
    · rw [h, record]
      rcases Nat.le_total left.length progress.leastLeft with hle | hle
      · exact .inr ⟨left, List.mem_cons_self, Nat.min_eq_left hle⟩
      · exact .inl (Nat.min_eq_right hle)
    · exact .inr ⟨old, List.mem_cons_of_mem _ hold, h⟩

theorem furthest_recordAll (s : Text) (reached : List Text) :
    Parse.Furthest s reached ((start s).recordAll reached).furthest := by
  have hlength : ((start s).recordAll reached).length = s.length := length_recordAll _ _
  unfold furthest
  rw [hlength]
  constructor
  · intro left hleft
    exact Nat.sub_le_sub_left (covers_recordAll (start s) reached left hleft) _
  · rcases leastLeft_recordAll (start s) reached with h | ⟨left, hleft, h⟩
    · rw [h]
      exact .inl (Nat.sub_self _)
    · rw [h]
      exact .inr ⟨left, hleft, rfl⟩

end Progress

/-- **The furthest offset of a parse** is the furthest end of the terminals that are matched in it. -/
theorem Parse.furthest_of_levels {grammar : Grammar} {context : Context} {start : Nat} {s : Text}
    {found : Found} {progress : Progress} (h : levels grammar context start s = .ok (found, progress)) :
    ∃ reached, listed grammar context start s = .ok (found, reached) ∧
      (∀ left ∈ reached, left <:+ s) ∧ Furthest s reached progress.furthest := by
  obtain ⟨heq, hsuffixes⟩ := levels_eq_listed start s
  rw [heq] at h
  obtain ⟨⟨_, reached⟩, hlisted, hpair⟩ := map_eq_ok.mp h
  cases hpair
  exact ⟨reached, hlisted, hsuffixes found reached hlisted, Progress.furthest_recordAll s reached⟩

end Mixfix
