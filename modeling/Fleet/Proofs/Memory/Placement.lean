import Fleet.Proofs.Location.Registered
import Fleet.Proofs.Memory.Operation
import Fleet.Proofs.Template.ByImage

/-!
# Where a node is put

A template may name a location of any tier. A zone or a host takes its nodes itself, and in a region
or provider the first zone directly under it does. When there is none, the default location of the
whole registry is taken, wherever it lies. So a node that is ordered in a registered location is
always put somewhere, but it may stray out of the location that its template names.
-/

namespace Fleet

/-- Nodes that are ordered in a location are put outside: it is a region or provider without a zone
directly under it, and the default location lies elsewhere. -/
structure Registry.Strays (registry : Registry) (location : Location) : Prop where
  wide : location.scope = .region ∨ location.scope = .provider
  zoneless : ∀ child ∈ registry.childrenOf location.id, child.scope ≠ .zone
  elsewhere : ∀ preferred, registry.defaultLocation = some preferred →
    registry.isSameOrChild preferred.id location.id = .ok false

theorem Registry.mem_childrenOf_iff
    {registry : Registry}
    (id : LocationId)
    (location : Location) :
    location ∈ registry.childrenOf id ↔
      location ∈ registry.toList ∧ location.parent = some id := by
  simp [childrenOf]

/-- A template is found at a registered location. -/
theorem Criteria.registered_of_resolve
    {criteria : Criteria}
    {catalog : Catalog}
    {template : Template}
    (resolved : criteria.resolve catalog = .ok template) :
    template.location ∈ catalog.locations.toList := by
  rcases exists_tries criteria catalog with ⟨locations, words, tries, tried⟩
  rcases decides_of_resolve tried resolved with ⟨⟨before, after, shape, _⟩, _⟩
  apply tries.registered
  rw [shape]
  exact List.mem_append_right before List.mem_cons_self

namespace Memory.Account

theorem placement_of_scope
    {location : Location}
    (account : Account)
    (placed : location.scope = .zone ∨ location.scope = .host) :
    account.placement location = .ok location.id := by
  rcases placed with scope | scope <;> simp only [placement, scope]

theorem placement_of_wide
    {location : Location}
    (account : Account)
    (wide : location.scope = .region ∨ location.scope = .provider) :
    account.placement location =
      (((account.catalog.locations.childrenOf location.id).find? fun child =>
        child.scope == .zone).or account.catalog.locations.defaultLocation).elim
          (.error (.noPlacement location.id)) fun place => .ok place.id := by
  rcases wide with scope | scope <;>
    · simp only [placement, scope]
      split <;> rename_i chosen <;> rw [chosen] <;> rfl

/-- A registered location takes its nodes itself, leaves them to a zone directly under it, or
leaves them to the default location. -/
theorem placement_cases
    (account : Account)
    {location : Location}
    (registered : location ∈ account.catalog.locations.toList) :
    ((location.scope = .zone ∨ location.scope = .host) ∧
      account.placement location = .ok location.id) ∨
    (∃ zone ∈ account.catalog.locations.childrenOf location.id, zone.scope = .zone ∧
      account.placement location = .ok zone.id) ∨
    ((location.scope = .region ∨ location.scope = .provider) ∧
      (∀ child ∈ account.catalog.locations.childrenOf location.id, child.scope ≠ .zone) ∧
      ∃ preferred, account.catalog.locations.defaultLocation = some preferred ∧
        account.placement location = .ok preferred.id) := by
  by_cases narrow : location.scope = .zone ∨ location.scope = .host
  · exact Or.inl ⟨narrow, placement_of_scope account narrow⟩
  · have wide : location.scope = .region ∨ location.scope = .provider := by
      cases scope : location.scope <;> simp_all
    apply Or.inr
    rw [placement_of_wide account wide]
    cases found : (account.catalog.locations.childrenOf location.id).find? fun child =>
        child.scope == .zone with
    | some zone =>
      apply Or.inl
      refine ⟨zone, List.mem_of_find?_eq_some found, ?_, rfl⟩
      simpa using List.find?_some found
    | none =>
      apply Or.inr
      refine ⟨wide, ?_, ?_⟩
      · intro child owned isZone
        have passed := List.find?_eq_none.1 found child owned
        simp [isZone] at passed
      · cases default : account.catalog.locations.defaultLocation with
        | none =>
          have host := Registry.defaultLocation_eq_none_iff.1 default location registered
          exact absurd (Or.inr host) narrow
        | some preferred => exact ⟨preferred, rfl, rfl⟩

/-- A creation is refused for an arranged fault, for want of a place, or for want of addresses; a
node that is created is put in its place. -/
theorem create_places
    (account : Account)
    (tag : String)
    (template : Template) :
    (∀ error, (create tag template account).1 = .error error →
      account.placement template.location = .error error ∨
        (0 < account.failingCreates ∧ error = .injected "create" .transient) ∨
        (lastHost < account.nextIndex ∧ error = .addressPoolExhausted)) ∧
    ∀ record, (create tag template account).1 = .ok record →
      account.placement template.location = .ok record.location := by
  unfold create
  split
  next faulty =>
    constructor
    · intro error refused
      cases refused
      exact Or.inr (Or.inl ⟨faulty, rfl⟩)
    · intro record created
      cases created
  next =>
    cases placed : account.placement template.location with
    | error cause =>
      constructor
      · intro error refused
        cases refused
        exact Or.inl rfl
      · intro record created
        cases created
    | ok location =>
      dsimp only
      split
      next exhausted =>
        constructor
        · intro error refused
          cases refused
          exact Or.inr (Or.inr ⟨exhausted, rfl⟩)
        · intro record created
          cases created
      next =>
        constructor
        · intro error refused
          cases refused
        · intro record created
          cases created
          rfl

section Registered

variable {account : Account} {location : Location}
  (named : account.catalog.locations.Named)
  (valid : account.catalog.locations.validate = .ok ())
  (registered : location ∈ account.catalog.locations.toList)

include named valid registered

/-- Unless a registered location strays, its nodes are put within it. -/
theorem placement_of_not_strays (keeps : ¬ account.catalog.locations.Strays location) :
    ∃ place, account.placement location = .ok place ∧
      account.catalog.locations.isSameOrChild place location.id = .ok true := by
  rcases placement_cases account registered with
    ⟨_, placed⟩ | ⟨zone, owned, _, placed⟩ |
    ⟨wide, zoneless, preferred, default, placed⟩
  · exact ⟨location.id, placed, Registry.isSameOrChild_self _ _⟩
  · rcases (Registry.mem_childrenOf_iff _ _).1 owned with ⟨known, parent⟩
    exact ⟨zone.id, placed,
      Registry.isSameOrChild_of_parent named valid known registered parent⟩
  · have known := Registry.mem_toList_of_defaultLocation default
    rcases Registry.isSameOrChild_eq_ok named valid known location.id with ⟨inside, answered⟩
    cases inside with
    | true => exact ⟨preferred.id, placed, answered⟩
    | false =>
      apply absurd _ keeps
      refine ⟨wide, zoneless, ?_⟩
      intro other same
      rw [default] at same
      cases same
      exact answered

end Registered

/-- The nodes of a location that strays are put in the default location. -/
theorem placement_of_strays
    {account : Account}
    {location : Location}
    (registered : location ∈ account.catalog.locations.toList)
    (strays : account.catalog.locations.Strays location) :
    ∃ preferred, account.catalog.locations.defaultLocation = some preferred ∧
      account.placement location = .ok preferred.id ∧
      account.catalog.locations.isSameOrChild preferred.id location.id = .ok false := by
  rcases placement_cases account registered with
    ⟨narrow, _⟩ | ⟨zone, owned, isZone, _⟩ | ⟨_, _, preferred, default, placed⟩
  · rcases strays.wide with scope | scope <;> simp [scope] at narrow
  · exact absurd isZone (strays.zoneless zone owned)
  · exact ⟨preferred, default, placed, strays.elsewhere preferred default⟩

/-- Over a validated registry a creation from a template of the catalog fails for an arranged fault
or for want of addresses, and never for want of a place. The node lies within the template's
location unless that location strays; then it lies in the default location and outside of the
template's. -/
theorem created_within_template_unless_strays
    {account : Account}
    {locations : List Location}
    (built : Registry.ofList locations = .ok account.catalog.locations)
    (valid : account.catalog.locations.validate = .ok ())
    {criteria : Criteria}
    {template : Template}
    (resolved : criteria.resolve account.catalog = .ok template)
    (tag : String) :
    (∀ error, (create tag template account).1 = .error error →
      (0 < account.failingCreates ∧ error = .injected "create" .transient) ∨
        (lastHost < account.nextIndex ∧ error = .addressPoolExhausted)) ∧
    ∀ record, (create tag template account).1 = .ok record →
      (¬ account.catalog.locations.Strays template.location →
        account.catalog.locations.isSameOrChild record.location template.location.id =
          .ok true) ∧
      (account.catalog.locations.Strays template.location →
        account.catalog.locations.isSameOrChild record.location template.location.id =
          .ok false ∧
        account.catalog.locations.defaultLocation.map Location.id = some record.location) := by
  have named := Registry.named_of_ofList built
  have registered := Criteria.registered_of_resolve resolved
  rcases create_places account tag template with ⟨refusals, creations⟩
  constructor
  · intro error refused
    rcases refusals error refused with misplaced | others
    · by_cases strays : account.catalog.locations.Strays template.location
      · rcases placement_of_strays registered strays with ⟨_, _, placed, _⟩
        rw [placed] at misplaced
        cases misplaced
      · rcases placement_of_not_strays named valid registered strays with ⟨_, placed, _⟩
        rw [placed] at misplaced
        cases misplaced
    · exact others
  · intro record created
    have placed := creations record created
    constructor
    · intro keeps
      rcases placement_of_not_strays named valid registered keeps with ⟨place, chosen, within⟩
      rw [placed] at chosen
      cases chosen
      exact within
    · intro strays
      rcases placement_of_strays registered strays with ⟨preferred, default, chosen, outside⟩
      rw [placed] at chosen
      rw [Except.ok.inj chosen, default]
      exact ⟨outside, rfl⟩

/-- A provider with two regions, of which only the second one has a zone. -/
def regionWithoutZone : List Location :=
  let provider := Location.root "acme" ""
  let region := Location.childOf provider "us" .region ""
  [provider, Location.childOf provider "eu" .region "", region,
    Location.childOf region "us-1" .zone ""]

/-- An account with one image and one size over these locations. -/
def zonelessAccount : Account where
  catalog := {
    images := [{
      id := "ubuntu", name := "Ubuntu", family := .ubuntu, systemDescription := "Ubuntu",
      architecture := "x86_64", version := "1", location := none }]
    sizes := [{ id := "s", cores := 1, memory := 1, disk := 1, architectures := [] }]
    locations := (Registry.ofList regionWithoutZone).toOption.getD Registry.empty }
  identity := "stub"
  secret := "secret"

/-- A node that is ordered in the region without a zone is put into the other region. -/
theorem zoneless_region_strays :
    ∃ template, ({ locationId := some "eu" } : Criteria).resolve zonelessAccount.catalog =
        .ok template ∧ template.location.id = "eu" ∧
      ∃ record, (create "web" template zonelessAccount).1 = .ok record ∧
        record.location = "us-1" ∧
        zonelessAccount.catalog.locations.isSameOrChild record.location template.location.id =
          .ok false := by
  have built : Registry.ofList regionWithoutZone = .ok zonelessAccount.catalog.locations := by
    decide +kernel
  have valid : zonelessAccount.catalog.locations.validate = .ok () := by decide +kernel
  have usual : zonelessAccount.catalog.locations.defaultLocation.map Location.id = some "us-1" := by
    decide +kernel
  obtain ⟨template, resolved, region, wide⟩ : ∃ template,
      ({ locationId := some "eu" } : Criteria).resolve zonelessAccount.catalog = .ok template ∧
        template.location.id = "eu" ∧ template.location.scope = .region :=
    ⟨_, rfl, rfl, rfl⟩
  have strays : zonelessAccount.catalog.locations.Strays template.location := by
    constructor
    · exact Or.inl wide
    · rw [region]
      decide +kernel
    · intro preferred default
      rw [default] at usual
      rw [region, Option.some.inj usual]
      decide +kernel
  have outcome := created_within_template_unless_strays built valid resolved "web"
  cases created : (create "web" template zonelessAccount).1 with
  | error cause =>
    rcases outcome.1 cause created with ⟨faulty, _⟩ | ⟨exhausted, _⟩
    · exact absurd faulty (by decide)
    · exact absurd exhausted (by decide)
  | ok record =>
    rcases (outcome.2 record created).2 strays with ⟨outside, place⟩
    rw [usual] at place
    exact ⟨template, resolved, region, record, created, (Option.some.inj place).symm, outside⟩

end Memory.Account

end Fleet
