import Fleet.Address.Basic
import Fleet.Text.Decimal
import Fleet.Text.Digit
import Fleet.Text.Search

/-!
# Addresses as text

An IPv4 address is written as four decimal octets. An IPv6 address is written as hexadecimal groups
with its first longest run of two or more zero groups left out between two colons; an address that
embeds an IPv4 address is written as `::ffff:` and the octets. Reading accepts decimal octets
without leading zeros, groups of up to four hexadecimal digits, one gap, and embedded octets at the
end. An endpoint with an IPv6 address stands between brackets, and a zone follows the address and a
percent sign.
-/

namespace Fleet.Address

open Fleet.Text

/-- A group in lower-case hexadecimal digits. -/
def groupText (group : Nat) : String :=
  paddedHex 1 group

/-- Octets between points. -/
def octetsText (octets : List Nat) : String :=
  ".".intercalate (octets.map toString)

/-- The length of the run of zeros at the start of the groups. -/
def zeroRun (groups : List Nat) : Nat :=
  (groups.takeWhile (· == 0)).length

/-- The position and length of the first longest run of zeros; `offset` is the position of the first
of the given groups. -/
def longestZeroRun (offset : Nat) : List Nat → Nat × Nat
  | [] => (offset, 0)
  | group :: rest =>
    let here := zeroRun (group :: rest)
    let later := longestZeroRun (offset + 1) rest
    if here ≥ later.2 then (offset, here) else later

/-- Hexadecimal groups between colons. -/
def groupsText (groups : List Nat) : String :=
  ":".intercalate (groups.map groupText)

/-- The text of an IPv6 address from its groups. -/
def wideText (groups : List Nat) : String :=
  match groups with
  | [0, 0, 0, 0, 0, 0xFFFF, high, low] =>
    "::ffff:" ++ octetsText [high / 256, high % 256, low / 256, low % 256]
  | _ =>
    let (start, length) := longestZeroRun 0 groups
    if length > 1 then
      groupsText (groups.take start) ++ "::" ++ groupsText (groups.drop (start + length))
    else
      groupsText groups

/-- The text of an address. -/
def toText : Address → String
  | v4 first second third fourth => octetsText [first, second, third, fourth]
  | v6 groups => wideText groups

/-- The octet written by one to three digits without a leading zero. -/
def readOctet (digits : List Char) : Option Nat :=
  if digits.length > 3 || (digits.length > 1 && digits.head? == some '0') then
    none
  else
    (readDigits digits).filter (· ≤ 255)

/-- The octets of an IPv4 address. -/
def readOctets (characters : List Char) : Option (List Nat) :=
  let pieces := piecesAt (· == '.') characters
  if pieces.length = 4 then pieces.mapM readOctet else none

/-- The group written by one to four hexadecimal digits. -/
def readGroup (digits : List Char) : Option Nat :=
  if digits.isEmpty || digits.length > 4 then
    none
  else
    numberIn 16 0 digits

/-- The groups written by pieces between colons; the last piece may hold four octets. -/
def readGroups : List (List Char) → Option (List Nat)
  | [] => some []
  | [last] =>
    match readOctets last with
    | some [first, second, third, fourth] => some [first * 256 + second, third * 256 + fourth]
    | _ => (readGroup last).map ([·])
  | piece :: rest => do
    let group ← readGroup piece
    let groups ← readGroups rest
    pure (group :: groups)

/-- The groups on one side of a gap. -/
def readSide (characters : List Char) : Option (List Nat) :=
  if characters.isEmpty then some [] else readGroups (piecesAt (· == ':') characters)

/-- The characters before and after the first pair of colons. -/
def cutAtGap : List Char → Option (List Char × List Char)
  | ':' :: ':' :: rest => some ([], rest)
  | character :: rest => (cutAtGap rest).map fun (front, back) => (character :: front, back)
  | [] => none

/-- The groups of an IPv6 address. -/
def readWide (characters : List Char) : Option (List Nat) :=
  match cutAtGap characters with
  | none => (readSide characters).filter fun groups => groups.length == 8
  | some (front, back) => do
    let head ← if front.contains '.' then none else readSide front
    let tail ← readSide back
    if head.length + tail.length < 8 then
      pure (head ++ List.replicate (8 - head.length - tail.length) 0 ++ tail)
    else
      none

/-- The address that a text writes. -/
def ofText? (text : String) : Option Address :=
  match readOctets text.toList with
  | some [first, second, third, fourth] => some (v4 first second third fourth)
  | _ => (readWide text.toList).map v6

end Fleet.Address

namespace Fleet.Endpoint

/-- The zone as it follows an address. -/
def zoneText (zone : Nat) : String :=
  if zone = 0 then "" else s!"%{zone}"

/-- The text of an endpoint: the address, between brackets when it has groups, and the port. -/
def toText (endpoint : Endpoint) : String :=
  match endpoint.address with
  | .v4 .. => s!"{endpoint.address.toText}:{endpoint.port}"
  | .v6 _ => s!"[{endpoint.address.toText}{zoneText endpoint.zone}]:{endpoint.port}"

/-- The groups and the zone between brackets. -/
def readZoned (characters : List Char) : Option (List Nat × Nat) :=
  match Text.cutAtFirst '%' characters with
  | none => (Address.readWide characters).map (·, 0)
  | some (groups, digits) => do
    let zone ← (Text.readDigits digits).filter (· ≤ Text.largest32)
    (Address.readWide groups).map (·, zone)

/-- The endpoint that a text writes. -/
def ofText? (text : String) : Option Endpoint := do
  let (host, digits) ← Text.cutAtLast ':' text.toList
  let port ← (Text.readDigits digits).filter (· < 65536)
  match Text.afterLead ['['] host with
  | none => do
    let octets ← Address.readOctets host
    match octets with
    | [first, second, third, fourth] =>
      pure { address := .v4 first second third fourth, port := port }
    | _ => none
  | some bracketed => do
    let inner ← if bracketed.getLast? == some ']' then some bracketed.dropLast else none
    let (groups, zone) ← readZoned inner
    pure { address := .v6 groups, port := port, zone := zone }

end Fleet.Endpoint
