import Fleet.Session.Basic
import Mathlib.Data.List.Infix

/-!
# Words of rejection

Whether an error speaks of rejected credentials is read off its wording, in which the words of the
error's own kind stand between the texts that it carries. The words of the kinds contain no marker,
and no marker begins or ends in them. So an error speaks of rejected credentials exactly when one of
its texts does: the name of a host or of a program, or a message from whatever source.
-/

namespace Fleet

namespace Text

/-- No part of a word ends a text so that the rest of the word begins the other text. -/
def Seamless (word left right : List Char) : Prop :=
  ∀ start finish, start ≠ [] → finish ≠ [] → word = start ++ finish → start <:+ left →
    ¬ finish <+: right

namespace Seamless

variable {word left right : List Char}

theorem infix_append_iff (seamless : Seamless word left right) :
    word <:+: left ++ right ↔ word <:+: left ∨ word <:+: right := by
  rw [List.infix_append_iff_ne_nil]
  constructor
  · rintro (inLeft | inRight | ⟨start, finish, begun, unfinished, shape, ends, begins⟩)
    · exact Or.inl inLeft
    · exact Or.inr inRight
    · exact absurd begins (seamless start finish begun unfinished shape ends)
  · rintro (inLeft | inRight)
    · exact Or.inl inLeft
    · exact Or.inr (Or.inl inRight)

theorem of_left (clear : ∀ start ∈ word.inits, start ≠ [] → ¬ start <:+ left) :
    Seamless word left right := by
  intro start finish begun _ shape ends
  have starts : start <+: word := ⟨finish, shape.symm⟩
  exact absurd ends (clear start ((List.mem_inits _ _).2 starts) begun)

theorem of_right (clear : ∀ finish ∈ word.tails, finish ≠ [] → ¬ finish <+: right) :
    Seamless word left right := by
  intro start finish _ unfinished shape _
  have ends : finish <:+ word := ⟨start, shape.symm⟩
  exact clear finish ((List.mem_tails _ _).2 ends) unfinished

theorem of_not_mem
    {separator : Char}
    (absent : separator ∉ word)
    (rest : List Char) :
    Seamless word left (separator :: rest) := by
  rintro start finish _ unfinished rfl _ begins
  cases finish with
  | nil => exact unfinished rfl
  | cons character finish =>
    rcases List.cons_prefix_cons.1 begins with ⟨rfl, _⟩
    exact absent (List.mem_append_right start List.mem_cons_self)

end Seamless

end Text

namespace SessionError

open Text (Seamless)

/-! ## Markers in composed texts -/

theorem reportsRejection_iff (message : String) :
    reportsRejection message = true ↔
      ∃ marker ∈ rejectionMarkers, marker.toList <:+: message.toList := by
  simp only [reportsRejection, List.any_eq_true, Text.containsText_iff]

theorem reportsRejection_append
    {left right : String}
    (seamless : ∀ marker ∈ rejectionMarkers, Seamless marker.toList left.toList right.toList) :
    reportsRejection (left ++ right) = (reportsRejection left || reportsRejection right) := by
  rw [Bool.eq_iff_iff, Bool.or_eq_true]
  simp only [reportsRejection_iff, String.toList_append]
  rw [← exists_or]
  apply exists_congr
  intro marker
  rw [← and_or_left]
  apply and_congr_right
  intro known
  exact (seamless marker known).infix_append_iff

/-- No marker begins in a lead. -/
def IsLead (lead : String) : Prop :=
  ∀ marker ∈ rejectionMarkers, ∀ start ∈ marker.toList.inits,
    start ≠ [] → ¬ start <:+ lead.toList

instance (lead : String) : Decidable (IsLead lead) := by
  unfold IsLead
  infer_instance

theorem reportsRejection_lead
    {lead : String}
    (clear : IsLead lead)
    (silent : reportsRejection lead = false)
    (rest : String) :
    reportsRejection (lead ++ rest) = reportsRejection rest := by
  rw [reportsRejection_append fun marker known => Seamless.of_left (clear marker known), silent,
    Bool.false_or]

/-- No marker ends in a trail. -/
def IsTrail (trail : String) : Prop :=
  ∀ marker ∈ rejectionMarkers, ∀ finish ∈ marker.toList.tails, finish ≠ [] →
    ¬ finish <+: trail.toList

instance (trail : String) : Decidable (IsTrail trail) := by
  unfold IsTrail
  infer_instance

theorem reportsRejection_trail
    {trail : String}
    (clear : IsTrail trail)
    (silent : reportsRejection trail = false)
    (rest : String) :
    reportsRejection (rest ++ trail) = reportsRejection rest := by
  rw [reportsRejection_append fun marker known => Seamless.of_right (clear marker known), silent,
    Bool.or_false]

/-- No marker reaches across a colon. -/
theorem reportsRejection_colon (subject message : String) :
    reportsRejection (subject ++ (": " ++ message)) =
      (reportsRejection subject || reportsRejection message) := by
  have unbroken : ∀ marker ∈ rejectionMarkers, ':' ∉ marker.toList := by decide +kernel
  have behind : reportsRejection (": " ++ message) = reportsRejection message :=
    reportsRejection_lead (by decide +kernel) (by decide +kernel) message
  rw [← behind]
  apply reportsRejection_append
  intro marker known
  rw [String.toList_append]
  exact Seamless.of_not_mem (unbroken marker known) _

/-! ## Errors -/

/-- The texts that an error carries. -/
def texts : SessionError → List String
  | connect host message => [host, message]
  | auth account host message => [account, host, message]
  | notConnected host => [host]
  | spawn program message => [program, message]
  | keyFile message => [message]

/-- An error that puts the blame on the login: the host rejects it, or some text of the error
contains the words of a rejection. -/
inductive Blames : SessionError → Prop
  | rejected (account host message : String) : Blames (auth account host message)
  | worded {error : SessionError} {text : String} (carried : text ∈ error.texts)
    (marked : reportsRejection text = true) : Blames error

/-- The wording of any other error than a rejection has a marker exactly when one of its texts has
one. -/
theorem reportsRejection_message
    (error : SessionError)
    (other : ∀ account host message, error ≠ auth account host message) :
    reportsRejection error.message = error.texts.any reportsRejection := by
  cases error with
  | connect host message =>
    show reportsRejection ("cannot connect to " ++ host ++ ": " ++ message) = _
    rw [String.append_assoc, String.append_assoc,
      reportsRejection_lead (by decide +kernel) (by decide +kernel), reportsRejection_colon]
    simp [texts]
  | auth account host message => exact absurd rfl (other account host message)
  | notConnected host =>
    show reportsRejection ("session to " ++ host ++ " is not connected") = _
    rw [reportsRejection_trail (by decide +kernel) (by decide +kernel),
      reportsRejection_lead (by decide +kernel) (by decide +kernel)]
    simp [texts]
  | spawn program message =>
    show reportsRejection ("failed to spawn " ++ program ++ ": " ++ message) = _
    rw [String.append_assoc, String.append_assoc,
      reportsRejection_lead (by decide +kernel) (by decide +kernel), reportsRejection_colon]
    simp [texts]
  | keyFile message =>
    show reportsRejection ("cannot stage private key: " ++ message) = _
    rw [reportsRejection_lead (by decide +kernel) (by decide +kernel)]
    simp [texts]

theorem isAuthFailure_of_other
    {error : SessionError}
    (other : ∀ account host message, error ≠ auth account host message) :
    error.isAuthFailure = reportsRejection error.message := by
  cases error with
  | auth account host message => exact absurd rfl (other account host message)
  | connect | notConnected | spawn | keyFile => rfl

/-- An error counts as a rejected login exactly when it puts the blame on the login. -/
theorem isAuthFailure_iff_blames (error : SessionError) :
    error.isAuthFailure = true ↔ error.Blames := by
  by_cases rejection : ∃ account host message, error = auth account host message
  · rcases rejection with ⟨account, host, message, rfl⟩
    exact iff_of_true rfl (Blames.rejected account host message)
  · have other : ∀ account host message, error ≠ auth account host message :=
      fun account host message same => rejection ⟨account, host, message, same⟩
    rw [isAuthFailure_of_other other, reportsRejection_message error other, List.any_eq_true]
    constructor
    · rintro ⟨text, carried, marked⟩
      exact Blames.worded carried marked
    · intro blames
      cases blames with
      | rejected account host message => exact absurd rfl (other account host message)
      | worded carried marked => exact ⟨_, carried, marked⟩

end SessionError

end Fleet
