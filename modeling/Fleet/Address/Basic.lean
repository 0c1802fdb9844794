/-!
# Network addresses

An address is an IPv4 address of four octets or an IPv6 address of eight groups of sixteen bits.
Addresses are ordered numerically, all IPv4 addresses before all IPv6 addresses. An endpoint is an
address with a port; an IPv6 address may belong to a numbered zone of the local host.
-/

namespace Fleet

/-- The address of a network interface. -/
inductive Address where
  /-- An address of four octets. -/
  | v4 (first second third fourth : Nat)
  /-- An address of eight groups, most significant first. -/
  | v6 (groups : List Nat)
  deriving DecidableEq, Repr

namespace Address

/-- The version of the address and its numbers, most significant first. -/
def key : Address → List Nat
  | v4 first second third fourth => [4, first, second, third, fourth]
  | v6 groups => 6 :: groups

instance : Ord Address where
  compare := compareOn key

theorem key_injective
    {left right : Address}
    (same : left.key = right.key) :
    left = right := by
  cases left <;> cases right <;> simp_all [key]

instance : Std.TransOrd Address :=
  inferInstanceAs (Std.TransCmp (compareOn key))

instance : Std.LawfulEqOrd Address where
  compare_self {address} := Std.ReflOrd.compare_self (a := address.key)
  eq_of_compare same := key_injective (Std.LawfulEqOrd.eq_of_compare same)

/-- A list of addresses in ascending order with an address put in, unless it is there already. -/
def insertSorted (address : Address) : List Address → List Address
  | [] => [address]
  | first :: rest =>
    match compare address first with
    | .lt => address :: first :: rest
    | .eq => first :: rest
    | .gt => first :: insertSorted address rest

/-- The addresses of a list in ascending order, each once. -/
def sorted (addresses : List Address) : List Address :=
  addresses.foldr insertSorted []

end Address

/-- An address with a port. -/
structure Endpoint where
  /-- The interface. -/
  address : Address
  /-- The port on it. -/
  port : Nat
  /-- The zone of the address; zero when the address is not bound to one. -/
  zone : Nat := 0
  deriving DecidableEq, Repr

end Fleet
