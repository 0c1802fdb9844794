import Fleet.Proofs.Location.Assembly
import Mathlib.Data.List.Chain
import Mathlib.Data.List.Perm.Subperm

/-!
# Walks along owners

In a registry that was built from a list of locations, a walk along owners breaks off nowhere. It
comes to a location without an owner, and then the locations that it met are the path to the top, or
it leads into a circle. The walk that is made has no more steps than there are locations: a path to
the top repeats nothing, so it is never cut short, and more steps than that meet some location
twice, which then lies above itself. So the walk reports a circle exactly when there is one, also
when the location at which it starts does not lie on it.
-/

namespace Fleet

/-- Among some locations the first one is owned by the second one. -/
def OwnedAmong (locations : List Location) (low high : Location) : Prop :=
  high ∈ locations ∧ low.parent = some high.id

/-- Each location is owned by the one after it, and the last one has no owner. -/
structure PathToTop (locations : List Location) (location : Location) (path : List Location) :
    Prop where
  chain : (location :: path).IsChain (OwnedAmong locations)
  ends : ∃ top, (location :: path).getLast? = some top ∧ top.parent = none

/-- Following owners leads to a location that lies above itself. -/
def LeadsIntoCircle (locations : List Location) (location : Location) : Prop :=
  ∃ place, Relation.ReflTransGen (OwnedAmong locations) location place ∧
    Relation.TransGen (OwnedAmong locations) place place

namespace Registry

variable {registry : Registry} {location : Location} {line : List Location}

/-! ## Lines as paths -/

/-- In this registry locations stand under their names, and every owner that is named exists. -/
structure Closed (registry : Registry) : Prop where
  named : registry.Named
  owned : ∀ location ∈ registry.toList, ∃ found, registry.owner location = .ok found

theorem Named.owner_eq_some_iff
    (named : registry.Named)
    {low high : Location} :
    registry.owner low = .ok (some high) ↔ OwnedAmong registry.toList low high := by
  constructor
  · intro owned
    exact ⟨registered_of_owner owned, named.parent_of_owner owned⟩
  · rintro ⟨known, parent⟩
    exact owner_eq_ok_iff.2 (Or.inr ⟨_, high, parent, named.get?_id known, rfl⟩)

theorem owner_eq_none_iff : registry.owner location = .ok none ↔ location.parent = none := by
  rw [owner_eq_ok_iff]
  simp

/-- A line is a path to the top. -/
theorem Named.line_iff_pathToTop (named : registry.Named) :
    registry.Line location line ↔ PathToTop registry.toList location line := by
  constructor
  · intro isLine
    induction isLine with
    | @top location unowned =>
      exact ⟨List.isChain_singleton location, location, rfl, owner_eq_none_iff.1 unowned⟩
    | @under location found rest owned _ inductionHypothesis =>
      obtain ⟨chain, top, last, ownerless⟩ := inductionHypothesis
      have first := named.owner_eq_some_iff.1 owned
      refine ⟨List.isChain_cons_cons.2 ⟨first, chain⟩, top, ?_, ownerless⟩
      rwa [List.getLast?_cons_cons]
  · intro isPath
    induction line generalizing location with
    | nil =>
      obtain ⟨-, top, last, ownerless⟩ := isPath
      cases last
      exact .top (owner_eq_none_iff.2 ownerless)
    | cons found rest inductionHypothesis =>
      obtain ⟨chain, top, last, ownerless⟩ := isPath
      obtain ⟨first, onwards⟩ := List.isChain_cons_cons.1 chain
      rw [List.getLast?_cons_cons] at last
      exact .under (named.owner_eq_some_iff.2 first)
        (inductionHypothesis ⟨onwards, top, last, ownerless⟩)

/-! ## Walks that end at the top -/

/-- A line that does not come back to the start is climbed when it is short enough. -/
theorem Line.climb_eq_ok
    {start : LocationId}
    {steps : Nat}
    (isLine : registry.Line location line)
    (short : line.length ≤ steps)
    (apart : ∀ above ∈ line, above.id ≠ start) :
    registry.climb start steps location = .ok line := by
  induction isLine generalizing steps with
  | top unowned =>
    cases steps <;> rw [climb, unowned] <;> rfl
  | @under location found rest owned _ inductionHypothesis =>
    obtain ⟨different, restApart⟩ := List.forall_mem_cons.1 apart
    cases steps with
    | zero => cases short
    | succ steps =>
      have climbed := inductionHypothesis (Nat.le_of_succ_le_succ short) restApart
      rw [climb, owned]
      show (if found.id = start then _ else _) = _
      rw [if_neg different, climbed]
      rfl

/-- There are no more different locations than the registry counts. -/
theorem length_le_size
    {places : List Location}
    (known : ∀ place ∈ places, place ∈ registry.toList)
    (different : places.Nodup) :
    places.length ≤ registry.size := by
  have bounded := (List.Nodup.subperm different known).length_le
  rwa [toList, Table.values, List.length_map] at bounded

theorem Named.nodup_ids
    (named : registry.Named)
    (known : location ∈ registry.toList)
    (isLine : registry.Line location line) :
    ((location :: line).map Location.id).Nodup := by
  have everywhere : ∀ place ∈ location :: line, place ∈ registry.toList :=
    List.forall_mem_cons.2 ⟨known, isLine.registered⟩
  exact List.Nodup.map_on (fun first metFirst second metSecond =>
    named.id_injOn (everywhere first metFirst) (everywhere second metSecond)) isLine.nodup

theorem Named.ancestors_eq_ok_iff
    (named : registry.Named)
    (known : location ∈ registry.toList) :
    registry.ancestors location = .ok line ↔ registry.Line location line := by
  constructor
  · exact Line.of_climb
  · intro isLine
    have everywhere := List.forall_mem_cons.2 ⟨known, isLine.registered⟩
    have bounded : line.length < registry.size := length_le_size everywhere isLine.nodup
    apply isLine.climb_eq_ok (Nat.le_of_lt bounded)
    intro above met same
    have repeated : location.id ∈ line.map Location.id := same ▸ List.mem_map_of_mem met
    exact (List.nodup_cons.1 (named.nodup_ids known isLine)).1 repeated

/-- A registry is valid exactly when the line of each of its locations ends at a provider, after as
many owners as the tier of the location allows. -/
theorem Named.validate_eq_ok_iff (named : registry.Named) :
    registry.validate = .ok () ↔
      ∀ location ∈ registry.toList, ∃ line root, registry.Rooted location line root := by
  constructor
  · intro valid location known
    obtain ⟨line, root, -, -, rooted⟩ := exists_rooted valid known
    exact ⟨line, root, rooted⟩
  · intro everywhere
    apply Results.forM_eq_ok
    intro location known
    obtain ⟨line, root, rooted⟩ := everywhere location known
    rw [rooted.providerOf_eq, (named.ancestors_eq_ok_iff known).2 rooted.isLine]
    rfl

/-! ## Walks that lead into a circle -/

/-- In a closed registry a climb ends at the top or reports a circle. -/
theorem Closed.climb_cases
    (closed : registry.Closed)
    (start : LocationId)
    (steps : Nat)
    (known : location ∈ registry.toList) :
    (∃ line, registry.climb start steps location = .ok line) ∨
      registry.climb start steps location = .error (.cycle start) := by
  induction steps generalizing location with
  | zero =>
    obtain ⟨owner, owned⟩ := closed.owned location known
    rw [climb, owned]
    cases owner with
    | none => exact Or.inl ⟨[], rfl⟩
    | some found => exact Or.inr rfl
  | succ steps inductionHypothesis =>
    obtain ⟨owner, owned⟩ := closed.owned location known
    rw [climb, owned]
    cases owner with
    | none => exact Or.inl ⟨[], rfl⟩
    | some found =>
      show (∃ line, (if found.id = start then _ else _) = _) ∨
        (if found.id = start then _ else _) = _
      split
      · exact Or.inr rfl
      · rcases inductionHypothesis (registered_of_owner owned) with ⟨line, climbed⟩ | circle
        · exact Or.inl ⟨found :: line, by rw [climbed]; rfl⟩
        · exact Or.inr (by rw [circle]; rfl)

/-- From a location one comes to the top, or one can walk on for as many steps as one likes. -/
theorem Closed.exists_line_or_walk
    (closed : registry.Closed)
    (steps : Nat)
    (known : location ∈ registry.toList) :
    (∃ line, registry.Line location line) ∨
      ∃ walk, walk.length = steps ∧ (∀ place ∈ walk, place ∈ registry.toList) ∧
        (location :: walk).IsChain (OwnedAmong registry.toList) := by
  induction steps generalizing location with
  | zero => exact Or.inr ⟨[], rfl, List.forall_mem_nil _, List.isChain_singleton location⟩
  | succ steps inductionHypothesis =>
    obtain ⟨owner, owned⟩ := closed.owned location known
    cases owner with
    | none => exact Or.inl ⟨[], .top owned⟩
    | some found =>
      have first := closed.named.owner_eq_some_iff.1 owned
      rcases inductionHypothesis first.1 with ⟨line, isLine⟩ | ⟨walk, long, inside, chain⟩
      · exact Or.inl ⟨found :: line, .under owned isLine⟩
      · exact Or.inr ⟨found :: walk, congrArg Nat.succ long,
          List.forall_mem_cons.2 ⟨first.1, inside⟩,
          List.isChain_cons_cons.2 ⟨first, chain⟩⟩

/-- A walk that leads into no circle repeats nothing. -/
theorem nodup_of_isChain
    {locations walk : List Location}
    (chain : (location :: walk).IsChain (OwnedAmong locations))
    (straight : ¬ LeadsIntoCircle locations location) :
    (location :: walk).Nodup := by
  have upwards : (location :: walk).Pairwise (Relation.TransGen (OwnedAmong locations)) :=
    (chain.imp fun _ _ => Relation.TransGen.single).pairwise
  have reached : ∀ place ∈ location :: walk,
      Relation.ReflTransGen (OwnedAmong locations) location place := by
    obtain ⟨above, -⟩ := List.pairwise_cons.1 upwards
    exact List.forall_mem_cons.2 ⟨.refl, fun place met => (above place met).to_reflTransGen⟩
  apply upwards.imp_of_mem
  rintro low _ metLow _ upwards rfl
  exact straight ⟨low, reached low metLow, upwards⟩

/-- Every location above one with a line has a line itself. -/
theorem Line.exists_of_reached
    (named : registry.Named)
    (isLine : registry.Line location line)
    {place : Location}
    (reached : Relation.ReflTransGen (OwnedAmong registry.toList) location place) :
    ∃ rest, registry.Line place rest := by
  induction reached with
  | refl => exact ⟨line, isLine⟩
  | tail _ owned inductionHypothesis =>
    obtain ⟨rest, restLine⟩ := inductionHypothesis
    have next := named.owner_eq_some_iff.2 owned
    cases restLine with
    | top unowned =>
      rw [next] at unowned
      cases unowned
    | under other onwards =>
      rw [next] at other
      cases other
      exact ⟨_, onwards⟩

/-- Whatever lies above a location is on its line. -/
theorem Line.mem_of_above
    (named : registry.Named)
    (isLine : registry.Line location line)
    {place : Location}
    (above : Relation.TransGen (OwnedAmong registry.toList) location place) :
    place ∈ line := by
  induction above using Relation.TransGen.head_induction_on generalizing line with
  | single owned =>
    have next := named.owner_eq_some_iff.2 owned
    cases isLine with
    | top unowned =>
      rw [next] at unowned
      cases unowned
    | under other onwards =>
      rw [next] at other
      cases other
      exact List.mem_cons_self
  | head owned _ inductionHypothesis =>
    have next := named.owner_eq_some_iff.2 owned
    cases isLine with
    | top unowned =>
      rw [next] at unowned
      cases unowned
    | under other onwards =>
      rw [next] at other
      cases other
      exact List.mem_cons_of_mem _ (inductionHypothesis onwards)

/-- There is no line exactly where following owners leads into a circle. -/
theorem Closed.leadsIntoCircle_iff
    (closed : registry.Closed)
    (known : location ∈ registry.toList) :
    LeadsIntoCircle registry.toList location ↔ ∀ line, ¬ registry.Line location line := by
  constructor
  · rintro ⟨place, reached, circle⟩ line isLine
    obtain ⟨rest, restLine⟩ := isLine.exists_of_reached closed.named reached
    exact restLine.not_mem_self (restLine.mem_of_above closed.named circle)
  · intro endless
    by_contra straight
    rcases closed.exists_line_or_walk registry.size known with
      ⟨line, isLine⟩ | ⟨walk, long, inside, chain⟩
    · exact endless line isLine
    · have bounded := length_le_size (List.forall_mem_cons.2 ⟨known, inside⟩)
        (nodup_of_isChain chain straight)
      rw [List.length_cons, long] at bounded
      exact Nat.not_succ_le_self _ bounded

/-- The way up ends with a circle exactly where following owners leads into one. -/
theorem Closed.ancestors_eq_cycle_iff
    (closed : registry.Closed)
    (known : location ∈ registry.toList) :
    registry.ancestors location = .error (.cycle location.id) ↔
      LeadsIntoCircle registry.toList location := by
  rw [closed.leadsIntoCircle_iff known]
  constructor
  · intro circle line isLine
    rw [(closed.named.ancestors_eq_ok_iff known).2 isLine] at circle
    cases circle
  · intro endless
    rcases closed.climb_cases location.id registry.size known with ⟨line, climbed⟩ | circle
    · exact absurd ((closed.named.ancestors_eq_ok_iff known).1 climbed) (endless line)
    · exact circle

/-- Whether a location lies within another one stays open only where the walk leads into a
circle. -/
theorem Closed.isSameOrChild_fails_iff
    (closed : registry.Closed)
    (known : location ∈ registry.toList)
    (expected : LocationId) :
    (∃ error, registry.isSameOrChild location.id expected = .error error) ↔
      location.id ≠ expected ∧ LeadsIntoCircle registry.toList location := by
  rw [← closed.ancestors_eq_cycle_iff known]
  by_cases same : location.id = expected
  · simp [same]
  · rcases closed.climb_cases location.id registry.size known with ⟨line, climbed⟩ | circle
    · rw [closed.named.isSameOrChild_eq known climbed, ancestors, climbed]
      simp
    · have fails : registry.isSameOrChild location.id expected =
          .error (.cycle location.id) := by
        rw [isSameOrChild, if_neg same, require, closed.named.get?_id known]
        show (registry.ancestors location).bind _ = _
        rw [ancestors, circle]
        rfl
      exact ⟨fun _ => ⟨same, circle⟩, fun _ => ⟨_, fails⟩⟩

/-! ## Registries built from lists -/

theorem closed_holding
    {locations : List Location}
    (wellOwned : WellOwned locations) :
    (holding locations).Closed where
  named := named_of_ofList (ofList_eq_ok_iff.2 ⟨wellOwned, rfl⟩)
  owned _ known :=
    exists_owner_holding wellOwned ((toList_holding_perm wellOwned.distinct).mem_iff.1 known)

/-- A registry can be built from a list of locations exactly when they are well owned. It holds the
listed locations by name and no others, whatever their order was. From each of them the walk along
owners gives the path to the top, which repeats nothing, where there is one, and reports a circle
where there is none, which is where following owners leads into a circle. Only there can it stay
open whether the location lies within another one. -/
theorem ofList_builds_walkable_registry (locations : List Location) :
    ((∃ registry, ofList locations = .ok registry) ↔ WellOwned locations) ∧
    ∀ registry, ofList locations = .ok registry →
      registry.toList.Perm locations ∧
      (registry.toList.Pairwise fun first second => first.id < second.id) ∧
      (∀ location ∈ locations, registry.get? location.id = some location) ∧
      (∀ others, others.Perm locations → ofList others = .ok registry) ∧
      (∀ location ∈ registry.toList,
        (∀ path, registry.ancestors location = .ok path ↔
          PathToTop registry.toList location path) ∧
        (∀ path, PathToTop registry.toList location path →
          ((location :: path).map Location.id).Nodup) ∧
        ((∀ path, ¬ PathToTop registry.toList location path) ↔
          registry.ancestors location = .error (.cycle location.id)) ∧
        (registry.ancestors location = .error (.cycle location.id) ↔
          LeadsIntoCircle registry.toList location)) ∧
      ∀ candidate ∈ registry.toList, ∀ expected ∈ registry.toList,
        (∃ error, registry.isSameOrChild candidate.id expected.id = .error error) ↔
          candidate.id ≠ expected.id ∧ LeadsIntoCircle registry.toList candidate := by
  refine ⟨⟨?_, fun wellOwned => ⟨_, ofList_eq_ok_iff.2 ⟨wellOwned, rfl⟩⟩⟩, ?_⟩
  · rintro ⟨registry, built⟩
    exact (ofList_eq_ok_iff.1 built).1
  · intro registry built
    obtain ⟨wellOwned, rfl⟩ := ofList_eq_ok_iff.1 built
    have closed := closed_holding wellOwned
    refine ⟨toList_holding_perm wellOwned.distinct, closed.named.ascending,
      fun location => get?_holding wellOwned.distinct, ?_, ?_, ?_⟩
    · intro others reordered
      rw [ofList_eq_ok_iff, holding_eq_of_perm wellOwned.distinct reordered]
      exact ⟨wellOwned.perm reordered, rfl⟩
    · intro location known
      refine ⟨fun path => ?_, fun path isPath => ?_, ?_, closed.ancestors_eq_cycle_iff known⟩
      · rw [closed.named.ancestors_eq_ok_iff known, closed.named.line_iff_pathToTop]
      · exact closed.named.nodup_ids known (closed.named.line_iff_pathToTop.2 isPath)
      · simp only [closed.ancestors_eq_cycle_iff known, closed.leadsIntoCircle_iff known,
          closed.named.line_iff_pathToTop]
    · intro candidate known expected _
      exact closed.isSameOrChild_fails_iff known expected.id

/-- Two locations that own each other, one more below them, and a provider. -/
def circleWithSpur : List Location :=
  [⟨"spur", .host, "", some "left"⟩, ⟨"left", .zone, "", some "right"⟩,
    ⟨"right", .region, "", some "left"⟩, .root "acme" ""]

/-- The walk from the third location never comes back to it, and still the circle is reported. -/
theorem circle_above_spur :
    ∃ registry, ofList circleWithSpur = .ok registry ∧
      ∃ spur ∈ registry.toList, spur.id = "spur" ∧
        registry.ancestors spur = .error (.cycle "spur") ∧
        ∃ error, registry.isSameOrChild "spur" "acme" = .error error := by
  obtain ⟨buildable, walkable⟩ := ofList_builds_walkable_registry circleWithSpur
  obtain ⟨registry, built⟩ := buildable.2 ⟨by decide, by decide, by decide⟩
  obtain ⟨listed, -, -, -, walks, within⟩ := walkable registry built
  have known : ∀ location ∈ circleWithSpur, location ∈ registry.toList :=
    fun location => listed.mem_iff.2
  have spur := known ⟨"spur", .host, "", some "left"⟩ (by decide)
  have left := known ⟨"left", .zone, "", some "right"⟩ (by decide)
  have right := known ⟨"right", .region, "", some "left"⟩ (by decide)
  have circle : LeadsIntoCircle registry.toList ⟨"spur", .host, "", some "left"⟩ :=
    ⟨_, .single ⟨left, rfl⟩, .tail (.single ⟨right, rfl⟩) ⟨left, rfl⟩⟩
  obtain ⟨-, -, -, reported⟩ := walks _ spur
  exact ⟨registry, built, _, spur, rfl, reported.2 circle,
    (within _ spur _ (known (.root "acme" "") (by decide))).2 ⟨by decide, circle⟩⟩

end Registry

end Fleet
