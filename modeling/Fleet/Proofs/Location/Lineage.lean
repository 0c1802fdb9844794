import Fleet.Proofs.Location.Registered
import Mathlib.Data.List.Nodup
import Mathlib.Logic.Relation

/-!
# Lines of owners

The line of a location is the list of the owners above it, nearest first, up to one that has no
owner. A location has at most one line, and the line of anything on it is the rest of it, so a
location never lies on its own line and no line repeats itself.

In a validated registry every registered location has a line, whose length is fixed by the tier up
to one step and whose end is the provider of the location. Containment is membership in the line,
which makes it a partial order and the closure of direct ownership.
-/

namespace Fleet

/-- How many owners may lie above a location of a tier. A zone may lie directly under the provider,
and a host one tier higher than usual. -/
def Scope.depths : Scope → List Nat
  | provider => [0]
  | region => [1]
  | zone => [1, 2]
  | host => [2, 3]

namespace Registry

variable {registry : Registry} {location found : Location} {line : List Location}

/-- The owners above a location up to one without an owner, nearest first. -/
inductive Line (registry : Registry) : Location → List Location → Prop where
  | top {location : Location} (unowned : registry.owner location = .ok none) :
    Line registry location []
  | under {location found : Location} {rest : List Location}
      (owned : registry.owner location = .ok (some found)) (onwards : Line registry found rest) :
    Line registry location (found :: rest)

namespace Line

/-- A climb that ends has met the whole line. -/
theorem of_climb
    {start : LocationId}
    {steps : Nat}
    (climbed : registry.climb start steps location = .ok line) :
    registry.Line location line := by
  induction steps generalizing location line with
  | zero =>
    obtain ⟨owner, owned, ended⟩ := Results.exists_of_bind_eq_ok climbed
    cases owner with
    | none =>
      cases ended
      exact top owned
    | some found => cases ended
  | succ steps inductionHypothesis =>
    obtain ⟨owner, owned, onwards⟩ := Results.exists_of_bind_eq_ok climbed
    cases owner with
    | none =>
      cases onwards
      exact top owned
    | some found =>
      dsimp only at onwards
      split at onwards
      · cases onwards
      · obtain ⟨rest, further, ended⟩ := Results.exists_of_bind_eq_ok onwards
        cases ended
        exact under owned (inductionHypothesis further)

/-- A location has one line at most. -/
theorem unique
    {other : List Location}
    (first : registry.Line location line)
    (second : registry.Line location other) :
    line = other := by
  induction first generalizing other with
  | top unowned =>
    cases second with
    | top _ => rfl
    | under owned _ =>
      rw [unowned] at owned
      cases owned
  | under owned _ inductionHypothesis =>
    cases second with
    | top unowned =>
      rw [owned] at unowned
      cases unowned
    | under again onwards =>
      rw [owned] at again
      cases again
      rw [inductionHypothesis onwards]

/-- What follows a location on a line is the line of that location. -/
theorem exists_rest
    {above : Location}
    (isLine : registry.Line location line)
    (met : above ∈ line) :
    ∃ before rest, line = before ++ above :: rest ∧ registry.Line above rest := by
  induction isLine with
  | top _ => cases met
  | @under _ found rest _ onwards inductionHypothesis =>
    rcases List.mem_cons.1 met with rfl | later
    · exact ⟨[], rest, rfl, onwards⟩
    · obtain ⟨before, further, rfl, restLine⟩ := inductionHypothesis later
      exact ⟨found :: before, further, rfl, restLine⟩

theorem mem_trans
    {above higher : Location}
    {further : List Location}
    (isLine : registry.Line location line)
    (met : above ∈ line)
    (aboveLine : registry.Line above further)
    (metHigher : higher ∈ further) :
    higher ∈ line := by
  obtain ⟨before, rest, rfl, restLine⟩ := isLine.exists_rest met
  obtain rfl := restLine.unique aboveLine
  exact List.mem_append_right _ (List.mem_cons_of_mem _ metHigher)

/-- No location lies above itself: the rest of its line would be as long as the whole. -/
theorem not_mem_self (isLine : registry.Line location line) : location ∉ line := by
  intro met
  obtain ⟨before, rest, split, restLine⟩ := isLine.exists_rest met
  have longer := congrArg List.length split
  rw [restLine.unique isLine, List.length_append, List.length_cons] at longer
  omega

theorem nodup (isLine : registry.Line location line) : (location :: line).Nodup := by
  induction isLine with
  | top _ => exact List.nodup_cons.2 ⟨List.not_mem_nil, List.nodup_nil⟩
  | under owned onwards inductionHypothesis =>
    exact List.nodup_cons.2 ⟨(under owned onwards).not_mem_self, inductionHypothesis⟩

theorem registered (isLine : registry.Line location line) :
    ∀ above ∈ line, above ∈ registry.toList := by
  induction isLine with
  | top _ => simp
  | under owned _ inductionHypothesis =>
    exact List.forall_mem_cons.2 ⟨registered_of_owner owned, inductionHypothesis⟩

end Line

/-! ## The end of a line -/

theorem owner_eq_none (unowned : location.parent = none) : registry.owner location = .ok none := by
  rw [owner, unowned]

theorem owner_of_requiredOwner (required : registry.requiredOwner location = .ok found) :
    registry.owner location = .ok (some found) := by
  obtain ⟨owner, owned, given⟩ := Results.exists_of_bind_eq_ok required
  cases owner with
  | none => cases given
  | some other =>
    cases given
    exact owned

theorem owner_of_ownerOrSelf (climbed : registry.ownerOrSelf location = .ok found) :
    found = location ∨ registry.owner location = .ok (some found) := by
  obtain ⟨owner, owned, given⟩ := Results.exists_of_bind_eq_ok climbed
  cases owner with
  | none =>
    cases given
    exact Or.inl rfl
  | some other =>
    cases given
    exact Or.inr owned

/-- The line of a location ends at its provider, after as many owners as its tier allows. -/
structure Rooted (registry : Registry) (location : Location) (line : List Location)
    (root : Location) : Prop where
  isLine : registry.Line location line
  depth : line.length ∈ location.scope.depths
  last : (location :: line).getLast? = some root
  scope : root.scope = .provider
  unowned : root.parent = none

/-- The way to the provider that the tier prescribes is the whole line. -/
theorem rooted_of_providerOf
    {root : Location}
    (resolved : registry.providerOf location = .ok root) :
    ∃ line, registry.Rooted location line root := by
  obtain ⟨reached, walked, checked⟩ := Results.exists_of_bind_eq_ok resolved
  split at checked
  case isFalse => cases checked
  case isTrue isRoot =>
    cases checked
    obtain ⟨scope, parentless⟩ : root.scope = .provider ∧ root.parent = none := by
      simpa using isRoot
    have ends : registry.Line root [] := .top (owner_eq_none parentless)
    rw [walkToRoot] at walked
    split at walked
    case h_1 tier =>
      cases walked
      exact ⟨[], ends, by simp [tier, Scope.depths], rfl, scope, parentless⟩
    case h_2 tier =>
      have owned := owner_of_requiredOwner walked
      exact ⟨[root], .under owned ends, by simp [tier, Scope.depths], rfl, scope, parentless⟩
    case h_3 tier =>
      obtain ⟨first, required, climbed⟩ := Results.exists_of_bind_eq_ok walked
      have owned := owner_of_requiredOwner required
      rcases owner_of_ownerOrSelf climbed with rfl | higher
      · exact ⟨[root], .under owned ends, by simp [tier, Scope.depths], rfl, scope, parentless⟩
      · exact ⟨[first, root], .under owned (.under higher ends),
          by simp [tier, Scope.depths], rfl,
          scope, parentless⟩
    case h_4 tier =>
      obtain ⟨first, required, onwards⟩ := Results.exists_of_bind_eq_ok walked
      obtain ⟨second, requiredNext, climbed⟩ := Results.exists_of_bind_eq_ok onwards
      have owned := owner_of_requiredOwner required
      have ownedNext := owner_of_requiredOwner requiredNext
      rcases owner_of_ownerOrSelf climbed with rfl | higher
      · exact ⟨[first, root], .under owned (.under ownedNext ends), by simp [tier, Scope.depths],
          rfl, scope, parentless⟩
      · exact ⟨[first, second, root], .under owned (.under ownedNext (.under higher ends)),
          by simp [tier, Scope.depths], rfl, scope, parentless⟩

theorem Line.requiredOwner_eq (isLine : registry.Line location (found :: line)) :
    registry.requiredOwner location = .ok found := by
  cases isLine with
  | under owned _ =>
    rw [requiredOwner, owned]
    rfl

theorem Line.ownerOrSelf_eq (isLine : registry.Line location line) :
    registry.ownerOrSelf location = .ok (line.headD location) := by
  cases isLine with
  | top unowned =>
    rw [ownerOrSelf, unowned]
    rfl
  | under owned _ =>
    rw [ownerOrSelf, owned]
    rfl

theorem Line.tail (isLine : registry.Line location (found :: line)) : registry.Line found line := by
  cases isLine with
  | under _ onwards => exact onwards

/-- Where the tier allows the line, the way to the provider that it prescribes goes to the end. -/
theorem Rooted.providerOf_eq
    {root : Location}
    (rooted : registry.Rooted location line root) :
    registry.providerOf location = .ok root := by
  obtain ⟨isLine, depth, last, scope, unowned⟩ := rooted
  have walked : registry.walkToRoot location = .ok root := by
    rw [walkToRoot]
    cases tier : location.scope <;>
      simp only [tier, Scope.depths, List.mem_cons, List.not_mem_nil, or_false] at depth
    case provider =>
      rw [List.length_eq_zero_iff] at depth
      subst depth
      exact congrArg Except.ok (Option.some.inj last)
    case region =>
      obtain ⟨first, rfl⟩ := List.length_eq_one_iff.1 depth
      cases last
      exact isLine.requiredOwner_eq
    case zone =>
      rcases depth with one | two
      · obtain ⟨first, rfl⟩ := List.length_eq_one_iff.1 one
        cases last
        rw [isLine.requiredOwner_eq]
        exact isLine.tail.ownerOrSelf_eq
      · obtain ⟨first, second, rfl⟩ := List.length_eq_two.1 two
        cases last
        rw [isLine.requiredOwner_eq]
        exact isLine.tail.ownerOrSelf_eq
    case host =>
      rcases depth with two | three
      · obtain ⟨first, second, rfl⟩ := List.length_eq_two.1 two
        cases last
        rw [isLine.requiredOwner_eq]
        show (registry.requiredOwner first >>= registry.ownerOrSelf) = _
        rw [isLine.tail.requiredOwner_eq]
        exact isLine.tail.tail.ownerOrSelf_eq
      · obtain ⟨first, second, third, rfl⟩ := List.length_eq_three.1 three
        cases last
        rw [isLine.requiredOwner_eq]
        show (registry.requiredOwner first >>= registry.ownerOrSelf) = _
        rw [isLine.tail.requiredOwner_eq]
        exact isLine.tail.tail.ownerOrSelf_eq
  rw [providerOf, walked]
  show (if root.scope = .provider && root.parent.isNone then _ else _) = _
  simp [scope, unowned]
  rfl

/-- In a validated registry the climb, the way to the provider and the line agree. -/
theorem exists_rooted
    (valid : registry.validate = .ok ())
    (known : location ∈ registry.toList) :
    ∃ line root, registry.ancestors location = .ok line ∧
      registry.providerOf location = .ok root ∧ registry.Rooted location line root := by
  obtain ⟨⟨root, resolved⟩, line, climbed⟩ := checked_of_validate valid known
  obtain ⟨_, rooted⟩ := rooted_of_providerOf resolved
  obtain rfl := rooted.isLine.unique (.of_climb climbed)
  exact ⟨_, root, climbed, resolved, rooted⟩

/-! ## Containment -/

/-- The first name is that of a location which the second one owns directly. -/
def OwnedBy (registry : Registry) (name owner : LocationId) : Prop :=
  ∃ location, registry.get? name = some location ∧ location.parent = some owner

theorem Named.id_injOn
    (named : registry.Named)
    {first second : Location}
    (knownFirst : first ∈ registry.toList)
    (knownSecond : second ∈ registry.toList)
    (same : first.id = second.id) :
    first = second := by
  have foundFirst := named.get?_id knownFirst
  rw [same, named.get?_id knownSecond] at foundFirst
  exact (Option.some.inj foundFirst).symm

theorem Named.parent_of_owner
    (named : registry.Named)
    (owned : registry.owner location = .ok (some found)) :
    location.parent = some found.id := by
  rw [owner] at owned
  split at owned
  · cases owned
  · rename_i id parent
    split at owned
    · rename_i registered
      cases owned
      rw [parent, named id found registered]
    · cases owned

/-- Whatever stands in the line of a location owns it, directly or through others. -/
theorem Named.ownedBy_of_line
    (named : registry.Named)
    (known : location ∈ registry.toList)
    (isLine : registry.Line location line)
    {place : Location}
    (met : place ∈ location :: line) :
    Relation.ReflTransGen registry.OwnedBy location.id place.id := by
  induction isLine with
  | top _ =>
    rw [List.mem_singleton.1 met]
  | under owned _ inductionHypothesis =>
    rcases List.mem_cons.1 met with rfl | later
    · exact .refl
    · have onwards := inductionHypothesis (registered_of_owner owned) later
      exact .head ⟨_, named.get?_id known, named.parent_of_owner owned⟩ onwards

/-- Whatever owns a location, directly or through others, stands in its line. -/
theorem Named.mem_line_of_ownedBy
    (named : registry.Named)
    {name expected : LocationId}
    (owned : Relation.ReflTransGen registry.OwnedBy name expected)
    (known : registry.get? name = some location)
    (isLine : registry.Line location line) :
    ∃ place ∈ location :: line, place.id = expected := by
  induction owned using Relation.ReflTransGen.head_induction_on generalizing location line with
  | refl => exact ⟨location, List.mem_cons_self, named _ _ known⟩
  | head first _ inductionHypothesis =>
    obtain ⟨other, same, parent⟩ := first
    rw [known] at same
    cases same
    cases isLine with
    | top unowned =>
      rw [owner, parent] at unowned
      dsimp only at unowned
      split at unowned <;> cases unowned
    | under ownedNext onwards =>
      rw [named.parent_of_owner ownedNext] at parent
      have knownNext := named.get?_id (registered_of_owner ownedNext)
      rw [Option.some.inj parent] at knownNext
      obtain ⟨place, met, same⟩ := inductionHypothesis knownNext onwards
      exact ⟨place, List.mem_cons_of_mem _ met, same⟩

/-- A location lies within itself and what is on its line. -/
theorem Named.isSameOrChild_eq
    (named : registry.Named)
    (known : location ∈ registry.toList)
    (climbed : registry.ancestors location = .ok line)
    (expected : LocationId) :
    registry.isSameOrChild location.id expected =
      .ok ((location :: line).any fun place => place.id == expected) := by
  rw [isSameOrChild, require, named.get?_id known]
  split
  · rename_i same
    simp [same]
  · rename_i different
    change (registry.ancestors location >>= _) = _
    rw [climbed, List.any_cons, beq_eq_false_iff_ne.2 different, Bool.false_or]
    rfl

section Order

variable (named : registry.Named) (valid : registry.validate = .ok ())
  {first second third : Location}
  (knownFirst : first ∈ registry.toList) (knownSecond : second ∈ registry.toList)
  (knownThird : third ∈ registry.toList)

include named valid knownFirst knownSecond

/-- Within means being the same or lying on the line. -/
theorem isSameOrChild_iff_mem_line :
    ∃ line, registry.Line first line ∧
      (registry.isSameOrChild first.id second.id = .ok true ↔ second ∈ first :: line) := by
  obtain ⟨line, root, climbed, -, rooted⟩ := exists_rooted valid knownFirst
  refine ⟨line, rooted.isLine, ?_⟩
  have everywhere : ∀ place ∈ first :: line, place ∈ registry.toList :=
    List.forall_mem_cons.2 ⟨knownFirst, rooted.isLine.registered⟩
  rw [named.isSameOrChild_eq knownFirst climbed, Except.ok.injEq, List.any_eq_true]
  constructor
  · rintro ⟨place, met, same⟩
    rwa [← named.id_injOn (everywhere place met) knownSecond (beq_iff_eq.1 same)]
  · intro met
    exact ⟨second, met, beq_self_eq_true _⟩

theorem isSameOrChild_iff_ownedBy :
    registry.isSameOrChild first.id second.id = .ok true ↔
      Relation.ReflTransGen registry.OwnedBy first.id second.id := by
  obtain ⟨line, isLine, within⟩ := isSameOrChild_iff_mem_line named valid knownFirst knownSecond
  rw [within]
  constructor
  · exact named.ownedBy_of_line knownFirst isLine
  · intro owned
    obtain ⟨place, met, same⟩ :=
      named.mem_line_of_ownedBy owned (named.get?_id knownFirst) isLine
    have registered : place ∈ registry.toList :=
      List.forall_mem_cons.2 ⟨knownFirst, isLine.registered⟩ place met
    rwa [← named.id_injOn registered knownSecond same]

theorem eq_of_isSameOrChild
    (upwards : registry.isSameOrChild first.id second.id = .ok true)
    (downwards : registry.isSameOrChild second.id first.id = .ok true) :
    first = second := by
  obtain ⟨line, isLine, within⟩ := isSameOrChild_iff_mem_line named valid knownFirst knownSecond
  obtain ⟨other, otherLine, back⟩ :=
    isSameOrChild_iff_mem_line named valid knownSecond knownFirst
  rcases List.mem_cons.1 (within.1 upwards) with same | above
  · exact same.symm
  · rcases List.mem_cons.1 (back.1 downwards) with same | below
    · exact same
    · exact absurd (isLine.mem_trans above otherLine below) isLine.not_mem_self

include knownThird

theorem isSameOrChild_trans
    (lower : registry.isSameOrChild first.id second.id = .ok true)
    (upper : registry.isSameOrChild second.id third.id = .ok true) :
    registry.isSameOrChild first.id third.id = .ok true := by
  rw [isSameOrChild_iff_ownedBy named valid knownFirst knownThird]
  exact ((isSameOrChild_iff_ownedBy named valid knownFirst knownSecond).1 lower).trans
    ((isSameOrChild_iff_ownedBy named valid knownSecond knownThird).1 upper)

end Order

/-- A registry that is built from a list and passes its validation is a hierarchy. Every location
has a line of owners as long as its tier allows, without repetition, that ends at the provider to
which the location belongs. Whether one location lies within another is always answered, and the
answer is the closure of direct ownership and a partial order with the providers at the top. -/
theorem validated_registry_is_hierarchy
    {locations : List Location}
    (built : ofList locations = .ok registry)
    (valid : registry.validate = .ok ()) :
    (∀ location ∈ registry.toList, ∃ line root,
      registry.ancestors location = .ok line ∧
      ((location :: line).map Location.id).Nodup ∧
      line.length ∈ location.scope.depths ∧
      registry.providerOf location = .ok root ∧
      (location :: line).getLast? = some root ∧
      root.scope = .provider ∧ root.parent = none ∧
      registry.isSameOrChild location.id root.id = .ok true) ∧
    (∀ candidate ∈ registry.toList, ∀ expected ∈ registry.toList, ∃ within,
      registry.isSameOrChild candidate.id expected.id = .ok within ∧
      (within = true ↔
        Relation.ReflTransGen registry.OwnedBy candidate.id expected.id)) ∧
    (∀ location ∈ registry.toList,
      registry.isSameOrChild location.id location.id = .ok true) ∧
    (∀ first ∈ registry.toList, ∀ second ∈ registry.toList,
      registry.isSameOrChild first.id second.id = .ok true →
      registry.isSameOrChild second.id first.id = .ok true → first = second) ∧
    (∀ first ∈ registry.toList, ∀ second ∈ registry.toList, ∀ third ∈ registry.toList,
      registry.isSameOrChild first.id second.id = .ok true →
      registry.isSameOrChild second.id third.id = .ok true →
      registry.isSameOrChild first.id third.id = .ok true) := by
  have named := named_of_ofList built
  refine ⟨?_, ?_, ?_, ?_, ?_⟩
  · intro location known
    obtain ⟨line, root, climbed, resolved, rooted⟩ := exists_rooted valid known
    have everywhere : ∀ place ∈ location :: line, place ∈ registry.toList :=
      List.forall_mem_cons.2 ⟨known, rooted.isLine.registered⟩
    have distinct : ((location :: line).map Location.id).Nodup :=
      List.Nodup.map_on (fun first metFirst second metSecond =>
        named.id_injOn (everywhere first metFirst) (everywhere second metSecond))
        rooted.isLine.nodup
    have met : root ∈ location :: line := List.mem_of_getLast? rooted.last
    have inside : registry.isSameOrChild location.id root.id = .ok true := by
      rw [named.isSameOrChild_eq known climbed root.id]
      exact congrArg Except.ok (List.any_eq_true.2 ⟨root, met, beq_self_eq_true _⟩)
    exact ⟨line, root, climbed, distinct, rooted.depth, resolved, rooted.last, rooted.scope,
      rooted.unowned, inside⟩
  · intro candidate knownCandidate expected knownExpected
    obtain ⟨within, answered⟩ := isSameOrChild_eq_ok named valid knownCandidate expected.id
    refine ⟨within, answered, ?_⟩
    rw [← isSameOrChild_iff_ownedBy named valid knownCandidate knownExpected, answered,
      Except.ok.injEq]
  · intro location _
    exact isSameOrChild_self registry location.id
  · intro first knownFirst second knownSecond
    exact eq_of_isSameOrChild named valid knownFirst knownSecond
  · intro first knownFirst second knownSecond third knownThird
    exact isSameOrChild_trans named valid knownFirst knownSecond knownThird

/-- A provider with a zone in a zone and a host in a host. -/
def nestedPlaces : List Location :=
  let provider := Location.root "acme" ""
  let metro := Location.childOf provider "metro" .zone ""
  let rack := Location.childOf metro "rack" .host ""
  [Location.childOf rack "blade" .host "", Location.childOf metro "hall" .zone "", rack, metro,
    provider]

/-- The inner host lies three owners deep, and it belongs to the provider. -/
theorem nested_places_are_hierarchy :
    ∃ registry, ofList nestedPlaces = .ok registry ∧ registry.validate = .ok () ∧
      ∃ blade ∈ registry.toList, blade.id = "blade" ∧ ∃ line root,
        registry.ancestors blade = .ok line ∧ line.length ∈ [2, 3] ∧
        registry.providerOf blade = .ok root ∧ (blade :: line).getLast? = some root ∧
        registry.isSameOrChild "blade" root.id = .ok true := by
  obtain ⟨registry, built, valid, blade, known, named, host⟩ : ∃ registry,
      ofList nestedPlaces = .ok registry ∧ registry.validate = .ok () ∧
        ∃ blade ∈ registry.toList, blade.id = "blade" ∧ blade.scope = .host := by
    refine ⟨(ofList nestedPlaces).toOption.getD empty, ?_, ?_, ?_⟩ <;> decide +kernel
  obtain ⟨everyLine, -⟩ := validated_registry_is_hierarchy built valid
  obtain ⟨line, root, climbed, -, depth, resolved, last, -, -, inside⟩ := everyLine blade known
  rw [host] at depth
  rw [named] at inside
  exact ⟨registry, built, valid, blade, known, named, line, root, climbed, depth, resolved, last,
    inside⟩

end Registry

end Fleet
