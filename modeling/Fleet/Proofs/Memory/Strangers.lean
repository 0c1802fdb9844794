import Fleet.Proofs.Memory.Numbering

/-!
# Strangers leave no trace

A client that presents a wrong identity or secret is a stranger, and is refused before anything else
happens. So the requests of strangers can be struck from any history: what the owner arranges and
what the other clients ask comes out the same, reply by reply, and the account ends up the same in
all its parts, the countdowns of boots, the arranged faults, the counters and the source of keys
included. The owner's identity and secret never change, so who is a stranger does not change either.
-/

namespace Fleet.Memory.Account

variable {account : Account}

/-! ## The owner -/

/-- The same identity and secret. -/
structure SameOwner (before after : Account) : Prop where
  identity : after.identity = before.identity
  secret : after.secret = before.secret

namespace SameOwner

theorem refl (account : Account) : SameOwner account account :=
  ⟨rfl, rfl⟩

theorem trans
    {first second third : Account}
    (early : SameOwner first second)
    (late : SameOwner second third) :
    SameOwner first third :=
  ⟨late.identity.trans early.identity, late.secret.trans early.secret⟩

theorem polling
    (account : Account)
    (id : NodeId) :
    SameOwner account (account.polling id) := by
  unfold Account.polling
  split <;> exact ⟨rfl, rfl⟩

theorem foldl_polling
    (ids : List NodeId)
    (account : Account) :
    SameOwner account (ids.foldl Account.polling account) := by
  induction ids generalizing account with
  | nil => exact refl account
  | cons id rest inductionHypothesis =>
    exact (polling account id).trans (inductionHypothesis (account.polling id))

theorem create
    (tag : String)
    (template : Template)
    (account : Account) :
    SameOwner account (Account.create tag template account).2 := by
  unfold Account.create
  split
  · exact ⟨rfl, rfl⟩
  · split
    · exact refl account
    · dsimp only
      split <;> exact ⟨rfl, rfl⟩

theorem reboot
    (id : NodeId)
    (account : Account) :
    SameOwner account (Account.reboot id account).2 := by
  rcases Account.reboot_cases id account with
    ⟨_, missing⟩ | ⟨node, _, _, refused⟩ | ⟨node, _, _, rebooted⟩
  · rw [missing]
    exact refl account
  · rw [refused]
    exact refl account
  · rw [rebooted]
    exact ⟨rfl, rfl⟩

/-- A destruction leaves the owner of the account as it is. -/
theorem destroy
    (id : NodeId)
    (account : Account) :
    SameOwner account (Account.destroy id account).2 := by
  rcases Account.destroy_cases id account with
    ⟨kind, _, refused⟩ | ⟨_, _, ignored⟩ | ⟨_, _, _, missing⟩ |
    ⟨_, _, node, _, _, done⟩ |
    ⟨_, _, node, _, _, destroyed⟩
  · rw [refused]
    exact refl account
  · rw [ignored]
    exact refl account
  · rw [missing]
    exact refl account
  · rw [done]
    exact refl account
  · rw [destroyed]
    exact ⟨rfl, rfl⟩

/-- No request changes the owner. -/
theorem operation
    (request : Request)
    (account : Account) :
    SameOwner account (request.operation account).2 := by
  cases request with
  | create tag template => exact create tag template account
  | list tag =>
    show SameOwner account (Account.list tag account).2
    rw [Account.list_eq]
    exact foldl_polling _ account
  | get id =>
    show SameOwner account (Account.get id account).2
    rw [Account.get_eq]
    exact polling account id
  | reboot id => exact reboot id account
  | destroy id => exact destroy id account
  | readCatalog => exact ⟨rfl, rfl⟩

/-- No event changes the owner. -/
theorem next
    (account : Account)
    (event : Event) :
    SameOwner account (account.next event) := by
  cases event with
  | arrangement arrangement => cases arrangement <;> exact ⟨rfl, rfl⟩
  | request client request =>
    by_cases admitted : account.admits client = true
    · rw [next_of_admits admitted]
      exact operation request account
    · rw [next_of_not_admits admitted]
      exact refl account

end SameOwner

/-! ## Strangers -/

/-- Whether an event is none of a stranger: the owner arranges something, or a client asks that the
account admits. -/
def permits (account : Account) : Event → Bool
  | .request client _ => account.admits client
  | .arrangement _ => true

/-- What a client is told at an event; an arrangement has no answer. -/
def response (account : Account) : Event → Option (Except AccountError Answer)
  | .request client request => some (account.reply client request)
  | .arrangement _ => none

/-- The events of a history, each with what the client is told at it. -/
def responses (account : Account) :
    List Event → List (Event × Option (Except AccountError Answer))
  | [] => []
  | event :: later => (event, account.response event) :: (account.next event).responses later

theorem admits_next
    (account : Account)
    (event : Event) :
    (account.next event).admits = account.admits := by
  funext client
  have same := SameOwner.next account event
  simp only [admits, same.identity, same.secret]

theorem admits_after
    (account : Account)
    (history : List Event) :
    (account.after history).admits = account.admits := by
  induction history generalizing account with
  | nil => rfl
  | cons event later inductionHypothesis =>
    rw [after_cons, inductionHypothesis, admits_next]

/-- Whoever is a stranger stays one. -/
theorem permits_next
    (account : Account)
    (event : Event) :
    (account.next event).permits = account.permits := by
  funext other
  cases other with
  | arrangement arrangement => rfl
  | request client request => simp only [permits, admits_next]

theorem next_of_not_permits
    {event : Event}
    (struck : ¬ account.permits event = true) :
    account.next event = account := by
  cases event with
  | arrangement arrangement => exact absurd rfl struck
  | request client request => exact next_of_not_admits struck request

/-- A stranger is told that it is not authorized. -/
theorem mem_responses_of_stranger
    {history : List Event}
    {client : Client}
    {request : Request}
    {answer : Option (Except AccountError Answer)}
    (stranger : ¬ account.admits client = true)
    (answered : (.request client request, answer) ∈ account.responses history) :
    answer = some (.error (.unauthorized client.identity)) := by
  induction history generalizing account with
  | nil => cases answered
  | cons event later inductionHypothesis =>
    rcases List.mem_cons.1 answered with here | there
    · obtain ⟨rfl, rfl⟩ := Prod.mk.inj here
      exact congrArg some (reply_of_not_admits stranger request)
    · refine inductionHypothesis ?_ there
      have still : (account.next event).admits client = account.admits client :=
        congrFun (permits_next account event) (.request client request)
      rwa [still]

/-- Without the requests of strangers the account ends up the same. -/
theorem after_filter_permits
    (account : Account)
    (history : List Event) :
    account.after (history.filter account.permits) = account.after history := by
  induction history generalizing account with
  | nil => rfl
  | cons event later inductionHypothesis =>
    by_cases kept : account.permits event = true
    · rw [List.filter_cons_of_pos kept, after_cons, after_cons, ← inductionHypothesis,
        permits_next]
    · rw [List.filter_cons_of_neg kept, after_cons, next_of_not_permits kept, inductionHypothesis]

/-- Without the requests of strangers all other events come out the same. -/
theorem responses_filter_permits
    (account : Account)
    (history : List Event) :
    account.responses (history.filter account.permits) =
      (account.responses history).filter fun entry => account.permits entry.1 := by
  induction history generalizing account with
  | nil => rfl
  | cons event later inductionHypothesis =>
    have onwards := inductionHypothesis (account.next event)
    rw [permits_next] at onwards
    let permitted := fun entry : Event × Option (Except AccountError Answer) =>
      account.permits entry.1
    by_cases kept : account.permits event = true
    · have keptEntry : permitted (event, account.response event) = true := kept
      rw [List.filter_cons_of_pos kept, responses, responses, List.filter_cons_of_pos keptEntry,
        onwards]
    · have struckEntry : ¬ permitted (event, account.response event) = true := kept
      rw [List.filter_cons_of_neg kept, responses, List.filter_cons_of_neg struckEntry, ← onwards,
        next_of_not_permits kept]

/-- In every history, whatever its order, strangers are refused, and striking all their requests
changes neither the reply to any other request nor the account at the end. -/
theorem strangers_leave_no_trace
    (account : Account)
    (history : List Event) :
    (∀ client request answer, (.request client request, answer) ∈ account.responses history →
      ¬ account.admits client = true →
      answer = some (.error (.unauthorized client.identity))) ∧
    account.responses (history.filter account.permits) =
      ((account.responses history).filter fun entry => account.permits entry.1) ∧
    account.after (history.filter account.permits) = account.after history := by
  refine ⟨?_, responses_filter_permits account history, after_filter_permits account history⟩
  intro client request answer answered stranger
  exact mem_responses_of_stranger stranger answered

end Fleet.Memory.Account
