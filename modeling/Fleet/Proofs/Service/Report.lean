import Fleet.Proofs.Activity.Group
import Fleet.Proofs.Service.BringUp
import Fleet.Proofs.Service.Sorting

/-!
# The report of a batch accounts for every node

A batch starts with one creation for each node. A creation that fails is one failure of the report,
and a node that was created is brought up beside the others and ends either among the nodes or among
the failures, by its own way alone. The operation as a whole fails only on rejected credentials.
-/

namespace Fleet.Service

variable {σ S : Type}

/-! ## Sorting -/

/-- The results of creations are sorted, up to the first rejected one. -/
theorem sortCreations_sortsInto :
    SortsInto .createNode (fun creation => creation) sortCreations fun creations =>
      (Results.values creations, (Results.failures creations).map .create) where
  nil := rfl
  rejected := by
    intro creation rest failure refused rejected
    simp [sortCreations, refused, rejected, ServiceError.ofFailure]
  accepted := by
    intro creation rest allowed
    cases creation with
    | ok node =>
      refine ⟨fun sorted => (node :: sorted.1, sorted.2), ?_, rfl⟩
      cases later : sortCreations rest <;> simp only [sortCreations, later] <;> rfl
    | error failure =>
      refine ⟨fun sorted => (sorted.1, .create failure :: sorted.2), ?_, rfl⟩
      have accepted : ¬ failure.isAuthorization = true := by simp [allowed failure rfl]
      cases later : sortCreations rest <;>
        simp only [sortCreations, if_neg accepted, later] <;> rfl

/-- Rejected credentials among the creations are an error, and without them nothing is lost. -/
theorem sortCreations_cases (creations : List (Except ProviderFailure Node)) :
    (∃ failure ∈ Results.failures creations, failure.isAuthorization = true ∧
      sortCreations creations = .error (.authorization .createNode failure)) ∨
    ((∀ failure ∈ Results.failures creations, failure.isAuthorization = false) ∧
      sortCreations creations =
        .ok (Results.values creations, (Results.failures creations).map .create)) := by
  have sorting := sortCreations_sortsInto.cases creations
  rwa [List.map_id'] at sorting

theorem sortResults_eq (outcomes : List (Except NodeFailure Node)) :
    sortResults outcomes = (Results.values outcomes, Results.failures outcomes) := by
  induction outcomes with
  | nil => rfl
  | cons outcome rest inductionHypothesis =>
    cases outcome <;> simp [sortResults, inductionHypothesis]

theorem sortById_perm (nodes : List Node) : (Node.sortById nodes).Perm nodes :=
  List.mergeSort_perm nodes _

theorem ascending_sortById (nodes : List Node) :
    (Node.sortById nodes).Pairwise fun first second => first.id ≤ second.id := by
  have sorted :
      (Node.sortById nodes).Pairwise fun first second =>
        decide (first.id ≤ second.id) = true := by
    apply List.pairwise_mergeSort
    · intro first second third below above
      simp only [decide_eq_true_eq] at *
      exact String.le_trans below above
    · intro first second
      simpa using String.le_total first.id second.id
  exact sorted.imp of_decide_eq_true

/-! ## The account -/

/-- What a report says of the creations of a batch and of the created nodes, each of which is
brought up along some of the moments. -/
structure AccountsFor (service : Service σ S) (options : TemplateOptions) (count : Nat)
    (creations : List (Except ProviderFailure Node)) (moments : List (Moment σ))
    (outcomes : List (Except NodeFailure Node)) (report : BatchReport) : Prop where
  reached : Activity.AllReach ((Results.values creations).map (service.bringUp options)) moments
    outcomes
  nodes : report.nodes.Perm (Results.values outcomes)
  ascending : report.nodes.Pairwise fun first second => first.id ≤ second.id
  failures : report.failures =
    (Results.failures creations).map .create ++ Results.failures outcomes
  created : ∀ failure ∈ Results.failures outcomes, ∀ source, failure ≠ .create source
  cameUp : ∀ node ∈ report.nodes, ∃ created ∈ Results.values creations, ∃ path,
    path.Sublist moments ∧ service.CameUp options created node path
  total : creations.length = count → report.nodes.length + report.failures.length = count
  complete : creations.length = count →
    (report.isComplete = true ↔ report.nodes.length = count)

/-- The report that is made of creations and of what became of the created nodes. -/
def reportOf
    (creations : List (Except ProviderFailure Node))
    (outcomes : List (Except NodeFailure Node)) :
    BatchReport :=
  { nodes := Node.sortById (Results.values outcomes)
    failures := (Results.failures creations).map .create ++ Results.failures outcomes }

/-- The report accounts for every creation and for every created node. -/
theorem accountsFor_reportOf
    {service : Service σ S}
    {options : TemplateOptions}
    (count : Nat)
    {creations : List (Except ProviderFailure Node)}
    {moments : List (Moment σ)}
    {outcomes : List (Except NodeFailure Node)}
    (reached : Activity.AllReach ((Results.values creations).map (service.bringUp options)) moments
      outcomes) :
    AccountsFor service options count creations moments outcomes
      (reportOf creations outcomes) := by
  have nodes := sortById_perm (Results.values outcomes)
  have members : outcomes.length = (Results.values creations).length := by
    simpa using reached.length_eq.symm
  have outcomeSplit := Results.length_values_add_length_failures outcomes
  have creationSplit := Results.length_values_add_length_failures creations
  have sorted : (Node.sortById (Results.values outcomes)).length =
      (Results.values outcomes).length := nodes.length_eq
  constructor
  · exact reached
  · exact nodes
  · exact ascending_sortById _
  · rfl
  · intro failure among source
    rcases Activity.AllReach.exists_of_mem reached (Results.mem_failures_iff.1 among) with
      ⟨created, _, part, _, followed⟩
    exact ne_create_of_bringUp followed source
  · intro node among
    have value := Results.mem_values_iff.1 (nodes.mem_iff.1 among)
    rcases Activity.AllReach.exists_of_mem reached value with
      ⟨created, place, part, inside, followed⟩
    exact ⟨created, (List.of_mem_zip place).1, part, inside, cameUp_of_bringUp followed⟩
  · intro perNode
    simp only [reportOf, List.length_append, List.length_map]
    omega
  · intro perNode
    have empty : (reportOf creations outcomes).isComplete = true ↔
        (Results.failures creations).length + (Results.failures outcomes).length = 0 := by
      simp [BatchReport.isComplete, reportOf, List.isEmpty_iff]
    rw [empty]
    simp only [reportOf]
    omega

/-- The answers that an operation may give to creations. -/
inductive Answers (service : Service σ S) (options : TemplateOptions) (count : Nat)
    (creations : List (Except ProviderFailure Node)) (moments : List (Moment σ)) :
    Except ServiceError BatchReport → Prop where
  | rejected (failure : ProviderFailure) (among : failure ∈ Results.failures creations)
      (refused : failure.isAuthorization = true) :
      Answers service options count creations moments (.error (.authorization .createNode failure))
  | reported (report : BatchReport) (outcomes : List (Except NodeFailure Node))
      (accepted : ∀ failure ∈ Results.failures creations, failure.isAuthorization = false)
      (accounts : AccountsFor service options count creations moments outcomes report) :
      Answers service options count creations moments (.ok report)

/-- The created nodes side by side on their way up. -/
def bringUpAll
    (service : Service σ S)
    (options : TemplateOptions)
    (creations : List (Except ProviderFailure Node)) :
    Activity σ (List (Except NodeFailure Node)) :=
  Activity.gathered ((Results.values creations).map (service.bringUp options))

theorem bringUpAll_reaches
    {service : Service σ S}
    {options : TemplateOptions}
    {creations : List (Except ProviderFailure Node)}
    {now later : Nat}
    {state reached : σ}
    {outcomes : List (Except NodeFailure Node)}
    (finished : (service.bringUpAll options creations).run now state =
      some (outcomes, later, reached)) :
    Activity.AllReach ((Results.values creations).map (service.bringUp options))
      ((service.bringUpAll options creations).moments now state) outcomes :=
  Activity.allReach_of_run_gathered finished

/-- After the creations an operation either ends with rejected credentials, or brings the created
nodes up and reports. -/
theorem run_runNodes
    {service : Service σ S}
    {tag : String}
    {count : Nat}
    {template : Template}
    {now : Nat}
    {state : σ}
    (named : Text.isBlankText tag = false) :
    (service.runNodes tag count template).run now state =
      ((service.provider.createMany tag count template).run now state).bind
        fun (creations, mid, created) =>
          match sortCreations creations with
          | .error error => some (.error error, mid, created)
          | .ok _ => ((service.bringUpAll template.options creations).run mid created).map
              fun (outcomes, later, reached) =>
                (.ok (reportOf creations outcomes), later, reached) := by
  simp only [runNodes, named, Activity.bind_eq_bind]
  rw [if_neg Bool.false_ne_true, Activity.run_bind]
  congr 1
  funext result
  rcases result with ⟨creations, mid, created⟩
  rcases sortCreations_cases creations with ⟨failure, -, -, sorted⟩ | ⟨-, sorted⟩
  · simp [sorted]
  · simp only [sorted, sortResults_eq, Activity.run_bind, Option.map_eq_bind]
    rfl

/-- A blank tag is refused before anything is done. Otherwise the operation ends with rejected
credentials exactly when some creation does, and else its report accounts for every node. -/
theorem runNodes_accounts_for_every_node
    (service : Service σ S)
    (tag : String)
    (count : Nat)
    (template : Template) :
    (Text.isBlankText tag = true →
      service.runNodes tag count template =
        .done (.error (.invalidRequest "tag must not be blank"))) ∧
    (Text.isBlankText tag = false → ∀ now state,
      (∀ answer later reached,
        (service.runNodes tag count template).run now state = some (answer, later, reached) →
        ∃ creations mid created,
          (service.provider.createMany tag count template).run now state =
            some (creations, mid, created) ∧
          Answers service template.options count creations
            ((service.bringUpAll template.options creations).moments mid created) answer) ∧
      (∀ creations mid created,
        (service.provider.createMany tag count template).run now state =
          some (creations, mid, created) →
        (∃ failure ∈ Results.failures creations, failure.isAuthorization = true) →
        ∃ failure ∈ Results.failures creations, failure.isAuthorization = true ∧
          (service.runNodes tag count template).run now state =
            some (.error (.authorization .createNode failure), mid, created))) := by
  constructor
  · intro blank
    simp [runNodes, blank]
  · intro named now state
    constructor
    · intro answer later reached finished
      rw [run_runNodes named] at finished
      rcases Option.bind_eq_some_iff.1 finished with
        ⟨⟨creations, mid, created⟩, creating, ended⟩
      refine ⟨creations, mid, created, creating, ?_⟩
      rcases sortCreations_cases creations with
        ⟨failure, among, refused, sorted⟩ | ⟨accepted, sorted⟩
      · simp only [sorted, Option.some.injEq, Prod.mk.injEq] at ended
        rw [← ended.1]
        exact Answers.rejected failure among refused
      · simp only [sorted] at ended
        rcases Option.map_eq_some_iff.1 ended with ⟨⟨outcomes, last, final⟩, brought, same⟩
        cases same
        exact Answers.reported _ outcomes accepted
          (accountsFor_reportOf count (bringUpAll_reaches brought))
    · intro creations mid created creating ⟨rejection, among, refused⟩
      rcases sortCreations_cases creations with
        ⟨failure, isFailure, rejected, sorted⟩ | ⟨accepted, -⟩
      · refine ⟨failure, isFailure, rejected, ?_⟩
        rw [run_runNodes named, creating]
        simp only [Option.bind_some, sorted]
      · rw [accepted rejection among] at refused
        cases refused

end Fleet.Service
