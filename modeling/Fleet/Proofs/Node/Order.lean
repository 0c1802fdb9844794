import Fleet.Node.Basic
import Std.Data.TreeSet.Lemmas

/-!
# The rank of a record

Records are ordered by their fields in turn, and the order is total: any two records compare, in
opposite ways from their two sides, and comparisons go on from one record to the next. The
descriptions of a node are no part of its rank. So records that differ in nothing else are equal to
the order though they are not equal: sorting leaves them in the order in which they came, and a set
that is built with the order holds the first of them only.
-/

namespace Fleet.Node

/-- Two records agree in everything but the descriptions of the node. -/
def Resembles (left right : Node) : Prop :=
  { left with metadata := right.metadata } = right

instance (left right : Node) : Decidable (left.Resembles right) :=
  inferInstanceAs (Decidable (_ = _))

/-- The fields that are compared, one after the other. -/
instance : Std.TransCmp order :=
  inferInstanceAs (Std.TransCmp (compareLex (compareLex (compareLex (compareLex (compareLex
    (compareLex (compareLex (compareLex (compareOn id) (compareOn tag)) (compareOn state))
      (compareOn name)) (compareOn image)) (compareOn location)) (compareOn publicAddresses))
      (compareOn privateAddresses))
      (compareOn fun node => node.credentials.map fun held => [held.account, held.key])))

theorem login_injective :
    Function.Injective fun held : Credentials => [held.account, held.key] := by
  rintro ⟨account, key⟩ ⟨other, word⟩ same
  simpa using same

/-- Every field takes part in the order, the descriptions excepted. -/
theorem order_eq_eq_iff {left right : Node} : left.order right = .eq ↔ left.Resembles right := by
  simp only [order, Ordering.then_eq_eq, Std.compare_eq_iff_eq, and_assoc,
    (Option.map_injective login_injective).eq_iff]
  cases left
  cases right
  simp [Resembles, and_left_comm]

/-- Sorting leaves records that resemble each other in the order in which they came. -/
theorem sort_of_pairwise_resembles
    {nodes : List Node}
    (alike : nodes.Pairwise Resembles) :
    sort nodes = nodes := by
  apply List.mergeSort_of_pairwise
  apply alike.imp
  intro left right resembles
  rw [order_eq_eq_iff.2 resembles]
  rfl

/-! ## Sets of records -/

/-- A record that is put into a set is found there, unless there is one of its rank already. -/
theorem get?_insert
    (set : Std.TreeSet Node order)
    (added node : Node) :
    (set.insert added).get? node =
      (set.get? node).or (if added.Resembles node then some added else none) := by
  rw [Std.TreeSet.get?_insert]
  by_cases same : added.Resembles node
  · have ranked := order_eq_eq_iff.2 same
    rw [if_pos same, ← Std.TreeSet.get?_congr ranked]
    cases held : set.get? added with
    | none =>
      have new : added ∉ set := by simp [Std.TreeSet.mem_iff_isSome_get?, held]
      rw [if_pos ⟨ranked, new⟩, Option.none_or]
    | some first =>
      have old : added ∈ set := by simp [Std.TreeSet.mem_iff_isSome_get?, held]
      rw [if_neg fun new => new.2 old, Option.some_or]
  · rw [if_neg (fun new => same (order_eq_eq_iff.1 new.1)), if_neg same, Option.or_none]

/-- Of the records that resemble each other, a set keeps the one that was put in first. -/
theorem get?_foldl_insert
    (set : Std.TreeSet Node order)
    (nodes : List Node)
    (node : Node) :
    (nodes.foldl .insert set).get? node =
      (set.get? node).or (nodes.find? fun other => other.Resembles node) := by
  induction nodes generalizing set with
  | nil => simp
  | cons first rest inductionHypothesis =>
    rw [List.foldl_cons, inductionHypothesis, get?_insert, Option.or_assoc, List.find?_cons]
    by_cases same : first.Resembles node <;> simp [same]

/-- A set that is filled with records holds, in the place of each record, the first of them that
resembles it. -/
theorem get?_filled
    (nodes : List Node)
    (node : Node) :
    (nodes.foldl .insert (∅ : Std.TreeSet Node order)).get? node =
      nodes.find? fun other => other.Resembles node := by
  rw [get?_foldl_insert, Std.TreeSet.get?_emptyc, Option.none_or]

/-- A set that is filled with records holds them all exactly when no two of them differ in their
descriptions only. -/
theorem keeps_all_iff {nodes : List Node} :
    (∀ node ∈ nodes,
        (nodes.foldl .insert (∅ : Std.TreeSet Node order)).get? node = some node) ↔
      ∀ node ∈ nodes, ∀ other ∈ nodes, node.Resembles other → node = other := by
  simp only [get?_filled]
  constructor
  · intro kept node isNode other isOther resembles
    have alike : (fun third : Node => decide (third.Resembles node)) =
        fun third => decide (third.Resembles other) := by
      funext third
      rw [decide_eq_decide, ← order_eq_eq_iff, ← order_eq_eq_iff,
        Std.TransCmp.congr_right (order_eq_eq_iff.2 resembles)]
    have both := kept node isNode
    rw [alike, kept other isOther] at both
    exact (Option.some.inj both).symm
  · intro apart node isNode
    cases held : nodes.find? fun other => other.Resembles node with
    | none =>
      have itself : node.Resembles node := rfl
      exact absurd (decide_eq_true itself) (List.find?_eq_none.1 held node isNode)
    | some first =>
      have resembles : first.Resembles node := by simpa using List.find?_some held
      rw [apart first (List.mem_of_find?_eq_some held) node isNode resembles]

/-- The order of records is total, and it takes two records for one exactly when they agree in
everything but their descriptions. So it is consistent with equality on a pair of records unless
they differ in their descriptions and in nothing else, and a set that is filled with records one by
one keeps them all exactly when there is no such pair among them: in the place of each record it
holds the first one that agrees with it so far. -/
theorem order_is_total_up_to_metadata
    (first second third : Node)
    (nodes : List Node) :
    second.order first = (first.order second).swap ∧
    ((first.order second).isLE → (second.order third).isLE → (first.order third).isLE) ∧
    (first.order second = .eq ↔ first.Resembles second) ∧
    ((first.order second = .eq ↔ first = second) ↔
      ¬ (first.Resembles second ∧ first.metadata ≠ second.metadata)) ∧
    (nodes.foldl .insert (∅ : Std.TreeSet Node order)).get? first =
      nodes.find? (fun other => other.Resembles first) ∧
    ((∀ node ∈ nodes,
        (nodes.foldl .insert (∅ : Std.TreeSet Node order)).get? node = some node) ↔
      ∀ node ∈ nodes, ∀ other ∈ nodes, node.Resembles other → node = other) := by
  refine ⟨Std.OrientedCmp.eq_swap, Std.TransCmp.isLE_trans, order_eq_eq_iff, ?_,
    get?_filled nodes first, keeps_all_iff⟩
  simp only [order_eq_eq_iff, not_and, ne_eq, Classical.not_not]
  constructor
  · intro consistent resembles
    rw [consistent.1 resembles]
  · intro described
    refine ⟨fun resembles => ?_, fun same => ?_⟩
    · have agree := described resembles
      rw [Resembles, ← agree] at resembles
      exact resembles
    · rw [same]
      rfl

/-- A node with some descriptions. -/
def webNode (metadata : Table String) : Node where
  id := "n1"
  tag := "web"
  name := "web-1"
  state := .running
  image := "ubuntu"
  location := "zone"
  publicAddresses := [.v4 198 51 100 1]
  privateAddresses := []
  credentials := some { account := "root", key := "node-key" }
  metadata := metadata

/-- Descriptions tell two records apart, but not by their order. A set of records takes the second
one for the first, and sorting does not bring equal records together. -/
theorem described_record_ranks_as_plain_one :
    let plain := webNode ∅
    let described := webNode (Table.ofList [("owner", "ops")])
    plain ≠ described ∧
    plain.order described = .eq ∧
    ([plain, described].foldl .insert (∅ : Std.TreeSet Node order)).get? described =
      some plain ∧
    sort [plain, described, plain] = [plain, described, plain] ∧
    (distinct [plain, described, plain]).length = 3 := by
  intro plain described
  obtain ⟨-, -, equal, -, kept, -⟩ :=
    order_is_total_up_to_metadata described plain plain [plain, described]
  have sorted : sort [plain, described, plain] = [plain, described, plain] :=
    sort_of_pairwise_resembles (by decide)
  have ranked : plain.order described = .eq := Std.OrientedCmp.eq_symm (equal.2 (by decide))
  refine ⟨by decide, ranked, ?_, sorted, ?_⟩
  · rw [kept]
    decide
  · rw [distinct, sorted]
    decide

end Fleet.Node
