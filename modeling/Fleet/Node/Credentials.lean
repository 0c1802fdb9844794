import Fleet.Text.Blank
import Fleet.Text.Quoted

/-!
# Credentials

What a login presents: an account and a key. Credentials are complete when the account is not blank
and the key is not empty. Their description never shows the key.
-/

namespace Fleet

/-- An account with its password or private key. -/
structure Credentials where
  /-- The account, for example `root`. -/
  account : String
  /-- The password or the text of the private key. -/
  key : String
  deriving DecidableEq, Repr

namespace Credentials

/-- Both halves are there. -/
def isComplete (credentials : Credentials) : Bool :=
  !Text.isBlankText credentials.account && !credentials.key.isEmpty

/-- The text that stands for a secret. -/
def redacted : String := "<redacted>"

/-- The description of credentials. -/
def describe (credentials : Credentials) : String :=
  Text.recordText "Credentials"
    [("account", Text.quote credentials.account), ("key", Text.quote redacted)]

/-- Descriptions do not depend on the key. -/
theorem describe_congr
    {left right : Credentials}
    (same : left.account = right.account) :
    left.describe = right.describe := by
  simp [describe, same]

end Credentials

end Fleet
