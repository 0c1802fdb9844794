import Fleet.Template.Criteria
import Mathlib.Data.List.Basic
import Mathlib.Order.Compare

/-!
# Choices from a list

An image or a size is chosen by a scan that keeps one of two items at every step. An item that wins
all its comparisons is what the scan ends with, wherever it stands in the list. When the comparisons
come from an order, the scan ends with an item that no other one exceeds, and the places of the
items do not matter.
-/

namespace Fleet.Criteria

variable {α : Type} {pick : α → α → α} {Above : α → α → Prop}

/-- The item with which a scan ends. -/
def choice (pick : α → α → α) : List α → Option α
  | [] => none
  | first :: rest => some (rest.foldl pick first)

/-- The choice between two items that `greatest?` makes. -/
def greaterOf (order : α → α → Ordering) (best item : α) : α :=
  if order best item = .gt then best else item

/-- The choice between two items that `least?` makes. -/
def lesserOf (order : α → α → Ordering) (best item : α) : α :=
  if order best item = .gt then item else best

theorem greatest?_eq_choice
    (order : α → α → Ordering)
    (items : List α) :
    greatest? order items = choice (greaterOf order) items := by
  cases items with
  | nil => rfl
  | cons first rest =>
    induction rest generalizing first with
    | nil => rfl
    | cons second rest inductionHypothesis =>
      exact inductionHypothesis (greaterOf order first second)

theorem least?_eq_choice
    (order : α → α → Ordering)
    (items : List α) :
    least? order items = choice (lesserOf order) items := by
  cases items with
  | nil => rfl
  | cons first rest =>
    induction rest generalizing first with
    | nil => rfl
    | cons second rest inductionHypothesis =>
      exact inductionHypothesis (lesserOf order first second)

theorem greaterOf_eq_or
    (order : α → α → Ordering)
    (best item : α) :
    greaterOf order best item = best ∨ greaterOf order best item = item := by
  rw [greaterOf]
  split
  · exact Or.inl rfl
  · exact Or.inr rfl

theorem lesserOf_eq_or
    (order : α → α → Ordering)
    (best item : α) :
    lesserOf order best item = best ∨ lesserOf order best item = item := by
  rw [lesserOf]
  split
  · exact Or.inr rfl
  · exact Or.inl rfl

/-! ## Scans -/

@[simp]
theorem choice_eq_none_iff
    (pick : α → α → α)
    (items : List α) :
    choice pick items = none ↔ items = [] := by
  cases items <;> simp [choice]

section Members

variable (either : ∀ first second, pick first second = first ∨ pick first second = second)

include either

/-- What is chosen is one of the items. -/
theorem mem_of_choice
    {items : List α}
    {chosen : α}
    (found : choice pick items = some chosen) :
    chosen ∈ items := by
  cases items with
  | nil => cases found
  | cons first rest =>
    induction rest generalizing first with
    | nil =>
      obtain rfl : first = chosen := Option.some.inj found
      exact List.mem_cons_self
    | cons second rest inductionHypothesis =>
      rcases List.mem_cons.1 (inductionHypothesis (pick first second) found) with rfl | later
      · rcases either first second with kept | replaced
        · rw [kept]
          exact List.mem_cons_self
        · rw [replaced]
          exact List.mem_cons_of_mem _ List.mem_cons_self
      · exact List.mem_cons_of_mem _ (List.mem_cons_of_mem _ later)

/-- An item that wins all comparisons is chosen. -/
theorem choice_eq_of_wins
    {items : List α}
    {winner : α}
    (member : winner ∈ items)
    (wins : ∀ item ∈ items, pick winner item = winner ∧ pick item winner = winner) :
    choice pick items = some winner := by
  cases items with
  | nil => cases member
  | cons first rest =>
    induction rest generalizing first with
    | nil => exact congrArg some (List.mem_singleton.1 member).symm
    | cons second rest inductionHypothesis =>
      obtain ⟨firstWins, others⟩ := List.forall_mem_cons.1 wins
      obtain ⟨secondWins, restWins⟩ := List.forall_mem_cons.1 others
      apply inductionHypothesis (pick first second)
      · rcases List.mem_cons.1 member with rfl | later
        · rw [secondWins.1]
          exact List.mem_cons_self
        · rcases List.mem_cons.1 later with rfl | later
          · rw [firstWins.2]
            exact List.mem_cons_self
          · exact List.mem_cons_of_mem _ later
      · refine List.forall_mem_cons.2 ⟨?_, restWins⟩
        rcases either first second with kept | replaced
        · rwa [kept]
        · rwa [replaced]

end Members

/-- A choice between two items that follows an order. -/
structure Follows (pick : α → α → α) (Above : α → α → Prop) : Prop where
  either : ∀ first second, pick first second = first ∨ pick first second = second
  aboveFirst : ∀ first second, Above (pick first second) first
  aboveSecond : ∀ first second, Above (pick first second) second
  refl : ∀ item, Above item item
  trans : ∀ first second third, Above first second → Above second third → Above first third

namespace Follows

variable (follows : Follows pick Above)

include follows

/-- No item exceeds the chosen one. -/
theorem above
    {items : List α}
    {chosen : α}
    (found : choice pick items = some chosen) :
    ∀ item ∈ items, Above chosen item := by
  cases items with
  | nil => cases found
  | cons first rest =>
    induction rest generalizing first with
    | nil =>
      obtain rfl : first = chosen := Option.some.inj found
      exact List.forall_mem_singleton.2 (follows.refl first)
    | cons second rest inductionHypothesis =>
      obtain ⟨onwards, others⟩ :=
        List.forall_mem_cons.1 (inductionHypothesis (pick first second) found)
      have overFirst := follows.trans _ _ _ onwards (follows.aboveFirst first second)
      have overSecond := follows.trans _ _ _ onwards (follows.aboveSecond first second)
      exact List.forall_mem_cons.2 ⟨overFirst, List.forall_mem_cons.2 ⟨overSecond, others⟩⟩

/-- Where no two items exceed each other, their places do not matter. -/
theorem choice_perm
    {left right : List α}
    (reordered : left.Perm right)
    (antisymm : ∀ first ∈ left, ∀ second ∈ left,
      Above first second → Above second first →
      first = second) :
    choice pick left = choice pick right := by
  cases found : choice pick left with
  | none =>
    obtain rfl := (choice_eq_none_iff pick left).1 found
    rw [List.nil_perm.1 reordered]
    rfl
  | some chosen =>
    have member : chosen ∈ left := mem_of_choice follows.either found
    refine (choice_eq_of_wins follows.either (reordered.subset member) fun item met => ?_).symm
    have inLeft : item ∈ left := reordered.mem_iff.2 met
    have exceeds : Above chosen item := follows.above found item inLeft
    constructor
    · rcases follows.either chosen item with kept | replaced
      · exact kept
      · rw [replaced]
        exact antisymm item inLeft chosen member
          (replaced ▸ follows.aboveFirst chosen item) exceeds
    · rcases follows.either item chosen with kept | replaced
      · rw [kept]
        exact antisymm item inLeft chosen member (kept ▸ follows.aboveSecond item chosen) exceeds
      · exact replaced

end Follows

/-! ## Orders -/

section Orders

variable (order : α → α → Ordering) [Std.TransCmp order]

/-- The greater of two items follows the order. -/
theorem follows_greaterOf :
    Follows (greaterOf order) fun upper lower => (order lower upper).isLE = true where
  either := greaterOf_eq_or order
  aboveFirst best item := by
    rw [greaterOf]
    split
    · exact Std.ReflCmp.isLE_rfl
    · rename_i notAbove
      cases compared : order best item <;> simp_all
  aboveSecond best item := by
    rw [greaterOf]
    split
    · rename_i above
      exact Ordering.isLE_of_eq_lt (Std.OrientedCmp.gt_iff_lt.1 above)
    · exact Std.ReflCmp.isLE_rfl
  refl _ := Std.ReflCmp.isLE_rfl
  trans _ _ _ upper lower := Std.TransCmp.isLE_trans lower upper

/-- To keep the lesser of two items is to follow the order backwards. -/
theorem follows_lesserOf :
    Follows (lesserOf order) fun lower upper => (order lower upper).isLE = true where
  either := lesserOf_eq_or order
  aboveFirst best item := by
    rw [lesserOf]
    split
    · rename_i above
      exact Ordering.isLE_of_eq_lt (Std.OrientedCmp.gt_iff_lt.1 above)
    · exact Std.ReflCmp.isLE_rfl
  aboveSecond best item := by
    rw [lesserOf]
    split
    · exact Std.ReflCmp.isLE_rfl
    · rename_i notAbove
      cases compared : order best item <;> simp_all
  refl _ := Std.ReflCmp.isLE_rfl
  trans _ _ _ lower upper := Std.TransCmp.isLE_trans lower upper

end Orders

end Fleet.Criteria
