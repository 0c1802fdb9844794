import Fleet.Node.Basic
import Fleet.Retry.Poll

/-!
# Options of a script run

Which login a script uses and how long it waits for the login port. An override is used whole.
Otherwise the account is the node's own or, for a node without credentials, a fallback account, and
the key is the given private key or else the node's own. A login counts only when it is complete.
-/

namespace Fleet

/-- How to reach a node and log in. -/
structure RunOptions where
  /-- The login to use instead of any other. -/
  override : Option Credentials := none
  /-- The private key to log in with under the node's own account. -/
  privateKey : Option String := none
  /-- The account for nodes whose record carries no credentials. -/
  fallbackAccount : Option String := none
  /-- The login port. -/
  port : Nat := 22
  /-- How long the port may take to open. -/
  socketWait : PollPolicy := PollPolicy.forSockets
  deriving DecidableEq, Repr

namespace RunOptions

/-- The login for a node from its parts: an account and a key, both there and complete. -/
def loginOf (account key : Option String) : Option Credentials := do
  let account ← account
  let key ← key
  if Credentials.isComplete { account := account, key := key } then
    some { account := account, key := key }
  else
    none

/-- The login for a node, when a complete one results. -/
def credentialsFor (options : RunOptions) (node : Node) : Option Credentials :=
  match options.override with
  | some credentials => if credentials.isComplete then some credentials else none
  | none =>
    loginOf ((node.credentials.map Credentials.account).or options.fallbackAccount)
      (options.privateKey.or (node.credentials.map Credentials.key))

/-- A login that results is complete. -/
theorem isComplete_of_credentialsFor
    {options : RunOptions}
    {node : Node}
    {login : Credentials}
    (found : options.credentialsFor node = some login) :
    login.isComplete = true := by
  simp only [credentialsFor] at found
  split at found
  · split at found <;> simp_all
  · simp only [loginOf, Option.bind_eq_bind, Option.bind_eq_some_iff] at found
    obtain ⟨account, _, key, _, complete⟩ := found
    split at complete <;> simp_all

end RunOptions

end Fleet
