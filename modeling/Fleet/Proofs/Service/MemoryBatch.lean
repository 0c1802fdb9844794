import Fleet.Proofs.Memory.Placement
import Fleet.Proofs.Service.Destruction
import Fleet.Proofs.Service.Report
import Fleet.Proofs.Service.Watching

/-!
# Batches on an account in memory

The arranged faults of an account decide how a batch ends. The creations use up their faults first,
and of the nodes that are created the first ones use up the faults of boots. All nodes boot at the
same pace, so the batch as a whole ends with the boot or, when the boot takes longer than a node is
given, with nothing but timeouts.
-/

namespace Fleet

namespace Memory.Account

/-- How many of the nodes that a number of creations give fail to boot. -/
def wrecks (account : Account) (count : Nat) : Nat :=
  min account.failingBoots (account.births count)

/-- How long a boot takes when the node is polled once in a period. -/
def bootTime (account : Account) (period : Nat) : Nat :=
  account.bootPolls * Clock.slept period

/-- The failure of a creation that was arranged to fail. -/
def refusal : ProviderFailure :=
  (AccountError.injected "create" .transient).toFailure

theorem take_names (first count limit : Nat) :
    (names first count).take limit = names first (min limit count) :=
  List.ext_getElem (by simp [names]) (by simp [names])

theorem drop_names (first count limit : Nat) :
    (names first count).drop limit = names (first + min limit count) (count - min limit count) := by
  rw [names, ← List.map_drop, List.drop_range', Nat.mul_one]
  rcases Nat.le_total limit count with few | many
  · rw [Nat.min_eq_left few]
    rfl
  · rw [Nat.min_eq_right many, Nat.sub_eq_zero_of_le many, Nat.sub_self]
    rfl

end Memory.Account

namespace Service

open Memory

variable {σ S : Type} {place : Part σ Account} {client : Client}

/-! ## The nodes of a batch on their way up -/

section BringUpAll

variable {service : Service σ S} {options : TemplateOptions} {born : List AccountNode} {now : Nat}
  {state : σ} {function : AccountNode → Except NodeFailure Node} {timing : Nat → Prop}

/-- When every node of a batch comes to its end in the presence of the others, the batch does, and
nothing but nodes has changed. -/
theorem run_bringUps
    (distinct : (born.map fun node => node.record.id).Nodup)
    (attains : ∀ node ∈ born, (service.bringUp options node.record).Attains
      (watching place node.record.id)
      (fun result later _ => result = function node ∧ timing later) now state) :
    ∃ later reached,
      (Activity.gathered (born.map fun node => service.bringUp options node.record)).run now state =
        some (born.map function, later, reached) ∧
      (∀ ended, now ≤ ended → (∀ later, timing later → later = ended) →
        later = if born = [] then now else ended) ∧
      (place.view state).SameButNodes (place.view reached) := by
  have apart : born.Pairwise fun first second =>
      (watching place first.record.id).Compatible (watching place second.record.id) :=
    (List.pairwise_map.1 distinct).imp compatible_watching
  obtain ⟨results, later, reached, finished, attained, steps⟩ :=
    Activity.run_gathered apart attains
  obtain rfl := attained.results_eq fun _ _ _ _ goal => goal.1
  refine ⟨later, reached, finished, ?_, ?_⟩
  · intro ended onwards determined
    exact attained.later_eq onwards fun _ _ _ _ goal => determined _ goal.2
  · have members : born.map (fun node => watching place node.record.id) =
        (born.map fun node => node.record.id).map (watching place) := by
      rw [List.map_map]
      rfl
    exact sameButNodes_of_watching (members ▸ steps)

end BringUpAll

/-! ## The report -/

/-- A client orders nodes from an account in memory through a service, from a whole millisecond on.
The nodes have nothing more to do than to boot, and there are addresses for all of them. -/
structure MemoryBatch (service : Service σ S) (place : Part σ Account) (client : Client)
    (tag : String) (count : Nat) (template : Template) (now : Nat) (state : σ) : Prop where
  drives : service.provider = Memory.provider place client
  lawful : place.Lawful
  admitted : (place.view state).admits client = true
  named : Text.isBlankText tag = false
  placed : template.location.scope = .zone ∨ template.location.scope = .host
  noPort : template.options.portWait = none
  noScript : template.options.script = none
  keyed : template.options.privateKey ≠ some ""
  room : (place.view state).lastIndex + count ≤ Account.lastHost
  polls : (place.view state).bootPolls ≤ Text.largest32
  positive : 0 < service.settings.pollPeriod
  wholePeriod : Duration.millisecond ∣ service.settings.pollPeriod
  wholeNow : Duration.millisecond ∣ now

/-- What the provider answers to the creations of a batch: first the failures, and then new nodes
with the next numbers. -/
def Delivers
    (account : Account)
    (count : Nat)
    (creations : List (Except ProviderFailure Node)) :
    Prop :=
  ∃ created : List Node,
    creations =
      List.replicate (account.refusals count) (.error Account.refusal) ++ created.map .ok ∧
    created.map Node.id = Account.names (account.lastIndex + 1) (account.births count)

/-- How a batch ends whose nodes are given the time that they need: with the end of the boot. -/
structure Completes (account : Account) (period : Nat) (tag : String) (count : Nat)
    (template : Template) (now : Nat) (report : BatchReport) (later : Nat) : Prop where
  failures : report.failures =
    List.replicate (account.refusals count) (.create Account.refusal) ++
      (Account.names (account.lastIndex + 1) (account.wrecks count)).map (.settled · .error)
  ids : (report.nodes.map Node.id).Perm
    (Account.names (account.lastIndex + 1 + account.wrecks count)
      (account.births count - account.wrecks count))
  ascending : report.nodes.Pairwise fun first second => first.id ≤ second.id
  running : ∀ node ∈ report.nodes, node.state = .running ∧ node.tag = tag ∧
    node.image = template.image.id ∧ node.location = template.location.id
  instant : later = if account.births count = 0 then now else now + account.bootTime period

/-- How a batch ends whose nodes are given less time than they need. -/
structure TimesOut (account : Account) (timeout : Nat) (count : Nat) (report : BatchReport) :
    Prop where
  nodes : report.nodes = []
  failures : report.failures =
    List.replicate (account.refusals count) (.create Account.refusal) ++
      (Account.names (account.lastIndex + 1) (account.births count)).map
        (.timeout · .pending timeout)

/-- What is left of the arranged faults after a batch. -/
structure Spends (account : Account) (count : Nat) (after : Account) : Prop where
  creates : after.failingCreates = account.failingCreates - account.refusals count
  boots : after.failingBoots = account.failingBoots - account.wrecks count

/-- The answers to a number of creations that give certain nodes. -/
def deliveries
    (account : Account)
    (count : Nat)
    (born : List AccountNode) :
    List (Except ProviderFailure Node) :=
  List.replicate (account.refusals count) (.error Account.refusal) ++
    born.map fun node => .ok node.record

@[simp]
theorem values_deliveries
    (account : Account)
    (count : Nat)
    (born : List AccountNode) :
    Results.values (deliveries account count born) = born.map AccountNode.record := by
  simp [deliveries]

@[simp]
theorem failures_deliveries
    (account : Account)
    (count : Nat)
    (born : List AccountNode) :
    Results.failures (deliveries account count born) =
      List.replicate (account.refusals count) Account.refusal := by
  simp [deliveries]

section Bears

variable {account after : Account} {count : Nat} {tag : String} {template : Template}
  {born : List AccountNode}

/-- The first nodes of a batch fail to boot, and the others run. -/
theorem map_verdict
    {location : LocationId}
    (bears : account.Bears tag template location born after) :
    born.map (verdict after) =
      (born.take account.failingBoots).map (fun node => .error (.settled node.record.id .error)) ++
      (born.drop account.failingBoots).map fun node => .ok (after.shown node.booted) := by
  conv => lhs; rw [← List.take_append_drop account.failingBoots born, List.map_append]
  congr 1
  · refine List.map_congr_left fun node member => ?_
    rw [verdict, bears.failing node member, if_pos rfl]
  · refine List.map_congr_left fun node member => ?_
    rw [verdict, bears.booting node member, if_neg Bool.false_ne_true]

theorem values_verdict
    {location : LocationId}
    (bears : account.Bears tag template location born after) :
    Results.values (born.map (verdict after)) =
      (born.drop account.failingBoots).map fun node => after.shown node.booted := by
  rw [map_verdict bears, Results.values_append, Results.values_map_error, Results.values_map_ok,
    List.nil_append]

theorem failures_verdict
    {location : LocationId}
    (bears : account.Bears tag template location born after) :
    Results.failures (born.map (verdict after)) =
      (born.take account.failingBoots).map fun node => .settled node.record.id .error := by
  rw [map_verdict bears, Results.failures_append, Results.failures_map_error,
    Results.failures_map_ok, List.append_nil]

/-- A node of a batch that booted is shown as it was ordered. -/
theorem shown_booted
    {location : LocationId}
    {node : AccountNode}
    (newborn : account.Newborn tag template location node)
    (boots : node.failsToBoot = false) :
    (after.shown node.booted).state = .running ∧ (after.shown node.booted).tag = tag ∧
      (after.shown node.booted).image = template.image.id ∧
      (after.shown node.booted).location = location := by
  obtain ⟨index, key, _, record⟩ := newborn.record
  unfold Account.shown
  split <;>
    simp [AccountNode.booted, AccountNode.bootEnd, boots, record, Account.newRecord]

variable (bears : (account.relieved count).Bears tag template template.location.id born after)
  (size : born.length = account.births count)

include bears size

/-- The faults that a batch takes are gone, whatever becomes of its nodes. -/
theorem spends_of_bears
    {final : Account}
    (same : after.SameButNodes final) :
    Spends account count final := by
  rw [Account.SameButNodes, bears.rest] at same
  have creates := congrArg Account.failingCreates same
  have boots := congrArg Account.failingBoots same
  refine ⟨creates, boots.trans ?_⟩
  rw [Account.wrecks, ← size]
  simp only [Account.failingBoots_relieved]
  omega

theorem ids_of_born : born.map (fun node => node.record.id) =
    Account.names (account.lastIndex + 1) (account.births count) := by
  rw [← size]
  exact bears.names

theorem delivers_of_bears : Delivers account count (deliveries account count born) := by
  refine ⟨born.map AccountNode.record, ?_, ?_⟩
  · rw [List.map_map]
    rfl
  · rw [List.map_map]
    exact ids_of_born bears size

/-- The report of a batch whose nodes all came to the end of their boot. -/
theorem completes_of_bears
    {period now later : Nat}
    (instant : later = if born = [] then now else now + account.bootTime period) :
    Completes account period tag count template now
      (reportOf (deliveries account count born) (born.map (verdict after))) later where
  failures := by
    have wrecked : (born.take account.failingBoots).map (fun node => node.record.id) =
        Account.names (account.lastIndex + 1) (account.wrecks count) := by
      rw [List.map_take, ids_of_born bears size, Account.take_names]
      rfl
    rw [← wrecked, List.map_map]
    simp only [reportOf, failures_verdict bears, Account.failingBoots_relieved,
      failures_deliveries, List.map_replicate]
    rfl
  ids := by
    have shown : (Results.values (born.map (verdict after))).map Node.id =
        (born.drop account.failingBoots).map fun node => node.record.id := by
      rw [values_verdict bears, List.map_map]
      exact List.map_congr_left fun node _ => Account.id_shown _ _
    rw [List.map_drop, ids_of_born bears size, Account.drop_names] at shown
    exact shown ▸ (sortById_perm _).map Node.id
  ascending := ascending_sortById _
  running := by
    intro node member
    have value := (sortById_perm _).mem_iff.1 member
    rw [values_verdict bears] at value
    obtain ⟨here, among, rfl⟩ := List.mem_map.1 value
    exact shown_booted (bears.newborn here (List.mem_of_mem_drop among)) (bears.booting here among)
  instant := by
    have empty : born = [] ↔ account.births count = 0 := by
      rw [← size, List.length_eq_zero_iff]
    simp only [instant, empty]

/-- The report of a batch none of whose nodes came to the end of its boot. -/
theorem timesOut_of_bears (timeout : Nat) :
    TimesOut account timeout count
      (reportOf (deliveries account count born)
        (born.map fun node => .error (.timeout node.record.id .pending timeout))) where
  nodes := by simp [reportOf, Node.sortById]
  failures := by
    rw [← ids_of_born bears size]
    simp [reportOf]

end Bears

namespace MemoryBatch

variable {service : Service σ S} {tag : String} {count : Nat} {template : Template} {now : Nat}
  {state : σ} (batch : MemoryBatch service place client tag count template now state)

include batch

/-- The creations of a batch take no time. -/
theorem exists_creations : ∃ born created,
    (service.provider.createMany tag count template).run now state =
      some (deliveries (place.view state) count born, now, created) ∧
    born.length = (place.view state).births count ∧
    ((place.view state).relieved count).Bears tag template template.location.id born
      (place.view created) := by
  obtain ⟨born, after, size, answers, bears⟩ := Account.exists_batch tag batch.keyed
    (Account.placement_of_scope (place.view state) batch.placed) batch.room
  obtain ⟨created, creating, view⟩ := run_createMany batch.lawful tag template count now
    batch.admitted
  rw [answers] at creating view
  refine ⟨born, created, ?_, size, view ▸ bears⟩
  rw [batch.drives, creating, List.map_append, List.map_replicate, List.map_map]
  rfl

/-- The report of a batch is made of what became of the new nodes, for no creation is rejected. -/
theorem run_runNodes_of_bringUps
    {born : List AccountNode}
    {created reached : σ}
    {outcomes : List (Except NodeFailure Node)}
    {later : Nat}
    (creating : (service.provider.createMany tag count template).run now state =
      some (deliveries (place.view state) count born, now, created))
    (brought : (Activity.gathered (born.map fun node =>
      service.bringUp template.options node.record)).run now created =
        some (outcomes, later, reached)) :
    (service.runNodes tag count template).run now state =
      some (.ok (reportOf (deliveries (place.view state) count born) outcomes), later,
        reached) := by
  rw [run_runNodes batch.named, creating, Option.bind_some]
  have members : born.map (fun node => service.bringUp template.options node.record) =
      (born.map AccountNode.record).map (service.bringUp template.options) := by
    rw [List.map_map]
    rfl
  rw [members] at brought
  rcases sortCreations_cases (deliveries (place.view state) count born) with
    ⟨failure, among, refused, -⟩ | ⟨-, sorted⟩
  · rw [failures_deliveries] at among
    cases List.eq_of_mem_replicate among
    cases refused
  · simp only [sorted, bringUpAll, values_deliveries, brought, Option.map_some]

section Outcomes

variable {born : List AccountNode} {created : σ}
  (bears : ((place.view state).relieved count).Bears tag template template.location.id born
    (place.view created))

include bears

/-- When the boots fall within the time allowed, every node comes to the end of its boot. -/
theorem run_bringUps_in_time
    (covered : (settlePolicy service.settings).Covers now
      ((place.view state).bootTime service.settings.pollPeriod)) :
    ∃ reached,
      (Activity.gathered (born.map fun node =>
        service.bringUp template.options node.record)).run now created =
          some (born.map (verdict (place.view created)),
            if born = [] then now
            else now + (place.view state).bootTime service.settings.pollPeriod, reached) ∧
      (place.view created).SameButNodes (place.view reached) := by
  have few : (place.view state).bootPolls < PollPolicy.unboundedEvaluations :=
    Nat.lt_of_le_of_lt batch.polls (by decide)
  have attains : ∀ node ∈ born, (service.bringUp template.options node.record).Attains
      (watching place node.record.id)
      (fun result later _ => result = verdict (place.view created) node ∧
        later = now + (place.view state).bootTime service.settings.pollPeriod) now created := by
    intro node member
    have newborn := bears.newborn node member
    have polls : node.pollsLeft = (place.view state).bootPolls := newborn.pollsLeft
    have brought := attains_bringUp_in_time batch.drives batch.lawful (bears.admits client ▸
      batch.admitted) newborn batch.noPort batch.noScript batch.positive batch.wholePeriod
      batch.wholeNow ⟨Account.SameButNodes.refl _, bears.found node member⟩ (polls ▸ few)
      (polls ▸ covered)
    rwa [polls] at brought
  obtain ⟨later, reached, finished, timing, same⟩ := run_bringUps bears.nodup attains
  obtain rfl := timing _ (Nat.le_add_right _ _) fun _ ended => ended
  exact ⟨reached, finished, same⟩

/-- When the boots take longer than the time allowed, every node is given up. -/
theorem run_bringUps_late
    (late : ¬ (settlePolicy service.settings).Covers now
      ((place.view state).bootTime service.settings.pollPeriod)) :
    ∃ later reached,
      (Activity.gathered (born.map fun node =>
        service.bringUp template.options node.record)).run now created =
          some (born.map fun node =>
            .error (.timeout node.record.id .pending service.settings.runningTimeout),
            later, reached) ∧
      (place.view created).SameButNodes (place.view reached) := by
  have attains : ∀ node ∈ born, (service.bringUp template.options node.record).Attains
      (watching place node.record.id)
      (fun result _ _ =>
        result = .error (.timeout node.record.id .pending service.settings.runningTimeout) ∧ True)
      now created := by
    intro node member
    have newborn := bears.newborn node member
    have polls : node.pollsLeft = (place.view state).bootPolls := newborn.pollsLeft
    refine (attains_bringUp_late batch.drives batch.lawful (bears.admits client ▸
      batch.admitted) newborn batch.noPort batch.noScript batch.positive batch.wholePeriod
      batch.wholeNow ⟨Account.SameButNodes.refl _, bears.found node member⟩
        (polls ▸ late)).mono ?_
    exact fun _ _ _ result => ⟨result, trivial⟩
  obtain ⟨later, reached, finished, -, same⟩ := run_bringUps bears.nodup attains
  exact ⟨later, reached, finished, same⟩

end Outcomes

end MemoryBatch

/-- A batch on an account in memory is always reported. The creations use up their faults first, and
the new nodes those of boots. When the boots fall within the time allowed, the other nodes run at
their very end; when they do not, every new node is given up while it is pending. -/
theorem runNodes_on_memory
    {service : Service σ S}
    {tag : String}
    {count : Nat}
    {template : Template}
    {now : Nat}
    {state : σ}
    (batch : MemoryBatch service place client tag count template now state) :
    ∃ creations created report later reached,
      (service.provider.createMany tag count template).run now state =
        some (creations, now, created) ∧
      Delivers (place.view state) count creations ∧
      (service.runNodes tag count template).run now state = some (.ok report, later, reached) ∧
      ((place.view state).bootTime service.settings.pollPeriod ≤
        service.settings.runningTimeout ∨
          Clock.later now service.settings.runningTimeout = none →
        Completes (place.view state) service.settings.pollPeriod tag count template now report
          later) ∧
      (service.settings.runningTimeout < (place.view state).bootTime service.settings.pollPeriod →
        (Clock.later now service.settings.runningTimeout).isSome = true →
        TimesOut (place.view state) service.settings.runningTimeout count report) ∧
      Spends (place.view state) count (place.view reached) := by
  obtain ⟨born, created, creating, size, bears⟩ := batch.exists_creations
  have delivers := delivers_of_bears bears size
  by_cases covered : (settlePolicy service.settings).Covers now
      ((place.view state).bootTime service.settings.pollPeriod)
  · obtain ⟨reached, brought, same⟩ := batch.run_bringUps_in_time bears covered
    refine ⟨_, created, _, _, reached, creating, delivers,
      batch.run_runNodes_of_bringUps creating brought, fun _ => ?_, fun late counted => ?_,
      spends_of_bears bears size same⟩
    · exact completes_of_bears bears size rfl
    · exact absurd covered (PollPolicy.not_covers_of_lt late counted)
  · obtain ⟨later, reached, brought, same⟩ := batch.run_bringUps_late bears covered
    refine ⟨_, created, _, _, reached, creating, delivers,
      batch.run_runNodes_of_bringUps creating brought, fun inTime => ?_, fun _ _ => ?_,
      spends_of_bears bears size same⟩
    · refine absurd ?_ covered
      rcases inTime with short | endless
      · exact PollPolicy.covers_of_le short now
      · exact PollPolicy.covers_of_later_eq_none endless _
    · exact timesOut_of_bears bears size _

/-! ## Instances

The tenant of an account orders three nodes from it. One creation and one boot are arranged to fail,
and a boot takes two polls. In another account a boot takes one poll, and the tenant waits for it
longer than any sleep lasts.
-/

def tenant : Client := { identity := "tenant", secret := "secret" }

/-- The account of the tenant, with some arrangements made. -/
def arranged (polls creates boots : Nat) : Account :=
  (Account.opened defaultCatalog tenant.identity tenant.secret { label := 1 }).after
    [.arrangement (.bootPolls polls), .arrangement (.failingCreates creates),
      .arrangement (.failingBoots boots)]

/-- The service through which the tenant uses the account, which is all the world there is. -/
def tenantService (timeout period : Nat) : Service Account Unit :=
  { plainService (Memory.provider (Part.self Account) tenant) with
    settings := { runningTimeout := timeout, pollPeriod := period } }

def zoneTemplate : Template where
  image := freeImage "image" "Image" "1"
  size := standardSize "size" 1 1024 20
  location := { id := "zone", scope := .zone, description := "Zone", parent := none }
  options := {}

/-- The arranged account is one on which batches are settled. -/
theorem memoryBatch_arranged
    {polls creates boots timeout period count : Nat}
    (room : count ≤ Account.lastHost)
    (short : polls ≤ Text.largest32)
    (positive : 0 < period)
    (whole : Duration.millisecond ∣ period) :
    MemoryBatch (tenantService timeout period) (Part.self Account) tenant "web" count zoneTemplate 0
      (arranged polls creates boots) where
  drives := rfl
  lawful := Part.lawful_self Account
  admitted := rfl
  named := by decide
  placed := .inl rfl
  noPort := rfl
  noScript := rfl
  keyed := by decide
  room := (Nat.zero_add count).symm ▸ room
  polls := short
  positive := positive
  wholePeriod := whole
  wholeNow := Nat.dvd_zero _

/-- With ten minutes for each node, one of three nodes runs after two seconds, and the faults of the
account are used up. With one second for each node, the two new nodes are given up. -/
theorem web_batches :
    (∃ report reached,
      ((tenantService (Duration.ofSeconds 600) Duration.second).runNodes "web" 3 zoneTemplate).run 0
        (arranged 2 1 1) = some (.ok report, 2 * Duration.second, reached) ∧
      report.failures = [.create Account.refusal, .settled "stub-1" .error] ∧
      report.nodes.map Node.id = ["stub-2"] ∧
      reached.failingCreates = 0 ∧ reached.failingBoots = 0) ∧
    (∃ report later reached,
      ((tenantService Duration.second Duration.second).runNodes "web" 3 zoneTemplate).run 0
        (arranged 2 1 1) = some (.ok report, later, reached) ∧
      report.failures =
        [.create Account.refusal, .timeout "stub-1" .pending Duration.second,
          .timeout "stub-2" .pending Duration.second] ∧
      report.nodes = []) := by
  have batch (timeout : Nat) : MemoryBatch (tenantService timeout Duration.second)
      (Part.self Account) tenant "web" 3 zoneTemplate 0 (arranged 2 1 1) :=
    memoryBatch_arranged (by decide) (by decide) (by decide) (by decide)
  constructor
  · obtain ⟨_, _, report, later, reached, _, _, finished, inTime, _, spent⟩ :=
      runNodes_on_memory (batch (Duration.ofSeconds 600))
    have completes := inTime (.inl (by decide))
    obtain rfl := completes.instant
    refine ⟨report, reached, finished, completes.failures, ?_, spent.creates, spent.boots⟩
    exact List.perm_singleton.1 completes.ids
  · obtain ⟨_, _, report, later, reached, _, _, finished, _, late, _⟩ :=
      runNodes_on_memory (batch Duration.second)
    have gone := late (by decide) (by decide)
    exact ⟨report, later, reached, finished, gone.failures, gone.nodes⟩

/-- No sleep lasts longer than thirty years, so a node that is looked at every thirty years and one
second boots a second early. -/
theorem nap_shorter_than_period :
    (arranged 1 0 0).Reachable ∧
    MemoryBatch (tenantService (Duration.ofSeconds 10000000000) (Duration.ofSeconds 946080001))
      (Part.self Account) tenant "web" 1 zoneTemplate 0 (arranged 1 0 0) ∧
    1 * Duration.ofSeconds 946080001 ≤ Duration.ofSeconds 10000000000 ∧
    (((tenantService (Duration.ofSeconds 10000000000) (Duration.ofSeconds 946080001)).runNodes "web"
      1 zoneTemplate).run 0 (arranged 1 0 0)).map (fun result => result.2.1) =
        some (Duration.ofSeconds 946080000) ∧
    Duration.ofSeconds 946080000 ≠ 1 * Duration.ofSeconds 946080001 := by
  refine ⟨⟨_, _, _, _, _, rfl⟩, memoryBatch_arranged (by decide) (by decide) (by decide)
    (by decide), by decide, ?_, by decide⟩
  decide +kernel

end Service

end Fleet
