import Fleet.Results
import Fleet.Service.Error

/-!
# Sorting the answers of a batch

The answers of the calls of a batch are sorted one after the other. Rejected credentials end the
sorting with an error, and any other answer is put in its place among those that follow it. So a
sorting fails exactly when some answer says that the credentials were rejected.
-/

namespace Fleet.Service

variable {ρ α β : Type}

/-- The sorting ends at the first rejected call, and otherwise puts each entry in its place. -/
structure SortsInto (call : ProviderCall) (answer : ρ → Except ProviderFailure α)
    (sort : List ρ → Except ServiceError β) (sorted : List ρ → β) : Prop where
  nil : sort [] = .ok (sorted [])
  rejected : ∀ entry rest failure, answer entry = .error failure →
    failure.isAuthorization = true →
    sort (entry :: rest) = .error (.authorization call failure)
  accepted : ∀ entry rest,
    (∀ failure, answer entry = .error failure → failure.isAuthorization = false) →
    ∃ place, sort (entry :: rest) = (sort rest).map place ∧
      sorted (entry :: rest) = place (sorted rest)

/-- An answer either says that the credentials were rejected, or it does not. -/
theorem rejected_or_accepted (answer : Except ProviderFailure α) :
    (∃ failure, answer = .error failure ∧ failure.isAuthorization = true) ∨
      ∀ failure, answer = .error failure → failure.isAuthorization = false := by
  cases answer with
  | ok value => exact Or.inr (by simp)
  | error failure =>
    cases rejected : failure.isAuthorization with
    | true => exact Or.inl ⟨failure, rfl, rejected⟩
    | false =>
      refine Or.inr ?_
      rintro other same
      cases same
      exact rejected

/-- Rejected credentials among the answers are an error, and without them all entries are sorted. -/
theorem SortsInto.cases
    {call : ProviderCall}
    {answer : ρ → Except ProviderFailure α}
    {sort : List ρ → Except ServiceError β}
    {sorted : List ρ → β}
    (sorts : SortsInto call answer sort sorted)
    (entries : List ρ) :
    (∃ failure ∈ Results.failures (entries.map answer), failure.isAuthorization = true ∧
      sort entries = .error (.authorization call failure)) ∨
    ((∀ failure ∈ Results.failures (entries.map answer), failure.isAuthorization = false) ∧
      sort entries = .ok (sorted entries)) := by
  induction entries with
  | nil => exact Or.inr ⟨by simp, sorts.nil⟩
  | cons entry rest inductionHypothesis =>
    rcases rejected_or_accepted (answer entry) with ⟨failure, failed, rejected⟩ | allowed
    · refine Or.inl ⟨failure, ?_, rejected, sorts.rejected entry rest failure failed rejected⟩
      exact Results.mem_failures_iff.2 (List.mem_map.2 ⟨entry, List.mem_cons_self, failed⟩)
    · rcases sorts.accepted entry rest allowed with ⟨place, here, placed⟩
      rcases inductionHypothesis with ⟨failure, among, rejected, later⟩ | ⟨accepted, later⟩
      · refine Or.inl ⟨failure, ?_, rejected, by rw [here, later]; rfl⟩
        rw [Results.mem_failures_iff] at among ⊢
        exact List.mem_cons_of_mem _ among
      · refine Or.inr ⟨?_, by rw [here, later, placed]; rfl⟩
        intro failure among
        rcases List.mem_cons.1 (Results.mem_failures_iff.1 among) with first | others
        · exact allowed failure first.symm
        · exact accepted failure (Results.mem_failures_iff.2 others)

end Fleet.Service
