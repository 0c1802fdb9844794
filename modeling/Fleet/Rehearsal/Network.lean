import Fleet.Session.Basic

/-!
# A rehearsed network

Ports and sessions that behave as arranged. A port is reported open from a given attempt on, unless
its address is closed. A session to an unreachable address is refused; any other login is accepted
or rejected by a rule of the caller. A command is answered by the first rule whose needle it
contains, else with success. Everything that sessions do is recorded in order.
-/

namespace Fleet.Rehearsal

/-- Something that happened to a session. -/
inductive Event where
  | connect (endpoint : Endpoint) (account : String) (accepted : Bool)
  | execute (endpoint : Endpoint) (command : String)
  | disconnect (endpoint : Endpoint)
  deriving DecidableEq, Repr

/-- The endpoint to which it happened. -/
def Event.endpoint : Event → Endpoint
  | connect endpoint _ _ | execute endpoint _ | disconnect endpoint => endpoint

/-- The arrangements and the record of a network. -/
structure Network where
  /-- The attempts after which a port is open. -/
  opensAfter : Nat := 0
  /-- The addresses whose ports stay closed. -/
  closed : List Address := []
  /-- The attempts made on ports; the latest count of a port stands first. -/
  attempts : List (Endpoint × Nat) := []
  /-- The answers to commands; earlier rules win. -/
  rules : List (String × Response) := []
  /-- The addresses that refuse connections. -/
  unreachable : List Address := []
  /-- What sessions have done, in order. -/
  events : List Event := []
  deriving DecidableEq

namespace Network

/-- The attempts made on a port. -/
def attemptsOn (network : Network) (endpoint : Endpoint) : Nat :=
  (network.attempts.lookup endpoint).getD 0

/-- Test a port. -/
def test (endpoint : Endpoint) (network : Network) : Bool × Network :=
  let count := min (network.attemptsOn endpoint + 1) Text.largest32
  (!network.closed.contains endpoint.address && decide (network.opensAfter < count),
    { network with attempts := (endpoint, count) :: network.attempts })

/-- The network with one more event. -/
def record (network : Network) (event : Event) : Network :=
  { network with events := network.events ++ [event] }

/-- The answer to a command. -/
def answer (network : Network) (command : String) : Response :=
  match network.rules.find? fun rule => Text.containsText command rule.1 with
  | some (_, response) => response
  | none => { exitStatus := some 0 }

end Network

/-- A rehearsed session. -/
structure Login where
  endpoint : Endpoint
  credentials : Credentials
  connected : Bool := false
  deriving DecidableEq, Repr

variable {σ : Type}

/-- Try a login: refused by an unreachable address, else accepted or rejected. -/
def tryConnect
    (login : Login)
    (accepted : Bool)
    (network : Network) :
    (Except SessionError Unit × Login) × Network :=
  let host := login.endpoint.toText
  if network.unreachable.contains login.endpoint.address then
    ((.error (.connect host "Connection refused"), login), network)
  else
    let recorded := network.record (.connect login.endpoint login.credentials.account accepted)
    if accepted then
      ((.ok (), { login with connected := true }), recorded)
    else
      ((.error (.connect host "Auth fail"), login), recorded)

/-- Run a command in a session. -/
def tryExecute
    (login : Login)
    (command : String)
    (network : Network) :
    (Except SessionError Response × Login) × Network :=
  if login.connected then
    ((.ok (network.answer command), login), network.record (.execute login.endpoint command))
  else
    ((.error (.notConnected login.endpoint.toText), login), network)

/-- Test a port of a rehearsed network. -/
def probe (place : Part σ Network) : Probe σ := fun endpoint =>
  Activity.focus place (Activity.perform fun _ network => network.test endpoint)

/-- Sessions over a rehearsed network; `accepts` decides about logins. -/
def transport (place : Part σ Network) (accepts : σ → Address → Credentials → Bool) :
    Transport σ Login where
  create endpoint credentials := { endpoint := endpoint, credentials := credentials }
  connect login := Activity.perform fun _ whole =>
    let accepted := accepts whole login.endpoint.address login.credentials
    let (result, network) := tryConnect login accepted (place.view whole)
    (result, place.update network whole)
  execute login command :=
    Activity.focus place (Activity.perform fun _ network => tryExecute login command network)
  disconnect login :=
    Activity.focus place (Activity.perform fun _ network =>
      ({ login with connected := false }, network.record (.disconnect login.endpoint)))

end Fleet.Rehearsal
