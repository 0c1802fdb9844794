import Fleet.Json.Record
import Fleet.Scaleway.Api

/-!
# Payloads

The bodies of requests and replies. A body is read into a value when it has the form of the value:
every field that must be there is there and of the right form, and fields that the value does not
have do not count. Replies to the calls that make servers and list images are read in full, although
only a few of their fields are of use: each of their fields must have its form.
-/

namespace Fleet.Scaleway

open Json (Record)

/-- The text of the single field of a record. -/
def onlyText? (name : String) (json : Json) : Option String := do
  let record ← json.record? [name]
  record.required? name Json.text?

/-- The names of the fields of a server. -/
def serverFields : List String :=
  ["id", "name", "state", "allowed_actions", "tags", "image", "public_ip", "public_ips",
    "private_ip", "zone"]

/-- The server of a document. -/
def Server.ofJson? (json : Json) : Option Server := do
  let record ← json.record? serverFields
  let texts := Json.listOf? Json.text?
  pure
    { id := ← record.required? "id" Json.text?
      name := ← record.withDefault? "name" Json.text? ""
      state := ← record.required? "state" Json.text?
      allowedActions := ← record.withDefault? "allowed_actions" texts []
      labels := ← record.withDefault? "tags" texts []
      image := ← record.maybe? "image" (onlyText? "id")
      publicAddress := ← record.maybe? "public_ip" (onlyText? "address")
      publicAddresses :=
        ← record.withDefault? "public_ips" (Json.listOf? (onlyText? "address")) []
      privateAddress := ← record.maybe? "private_ip" Json.text?
      zone := ← record.required? "zone" Json.text? }

/-- The server in an envelope. -/
def Server.ofEnvelope? (json : Json) : Option Server := do
  let record ← json.record? ["server"]
  record.required? "server" Server.ofJson?

/-- The servers of a page. -/
def Server.ofPage? (json : Json) : Option (List Server) := do
  let record ← json.record? ["servers"]
  record.withDefault? "servers" (Json.listOf? Server.ofJson?) []

/-- The largest volume that a constraint on volumes allows. -/
def largestVolumeOf? (json : Json) : Option Nat := do
  let record ← json.record? ["max_size"]
  record.withDefault? "max_size" (Json.natural? Text.largest64) 0

/-- The product of a document. -/
def Product.ofJson? (json : Json) : Option Product := do
  let record ← json.record? ["ncpus", "ram", "arch", "volumes_constraint"]
  pure
    { processors := ← record.required? "ncpus" (Json.natural? Text.largest32)
      memory := ← record.required? "ram" (Json.natural? Text.largest64)
      architecture := ← record.maybe? "arch" Json.text?
      largestVolume := ← record.maybe? "volumes_constraint" largestVolumeOf? }

/-- The products of a list, by name. -/
def Product.ofList? (json : Json) : Option (Table Product) := do
  let record ← json.record? ["servers"]
  let products ← record.withDefault? "servers" (Json.objectOf? Product.ofJson?) []
  pure (Table.ofList products)

/-- The fields of a volume as images and servers name it. -/
def volumeFields : List String :=
  ["id", "name", "size", "volume_type"]

/-- A document has the form of a volume. -/
def volume? (json : Json) : Option Unit := do
  let record ← json.fullRecord? volumeFields
  record.hold? ["id", "name", "volume_type"] Json.text?
  record.hold? ["size"] (Json.natural? Text.largest64)

/-- The fields of a boot script. -/
def bootscriptFields : List String :=
  ["bootcmdargs", "default", "dtb", "id", "initrd", "kernel", "organization", "project", "public",
    "title", "arch", "zone"]

/-- A document has the form of a boot script. -/
def bootscript? (json : Json) : Option Unit := do
  let record ← json.fullRecord? bootscriptFields
  record.hold? ["bootcmdargs", "dtb", "id", "initrd", "kernel", "organization", "project", "title",
    "zone"] Json.text?
  record.hold? ["default", "public"] Json.bool?
  record.mayHold? ["arch"] Json.text?

/-- The fields of the record of an image. -/
def imageFields : List String :=
  ["id", "name", "arch", "creation_date", "modification_date", "from_server", "organization",
    "public", "state", "project", "tags", "zone", "root_volume", "default_bootscript",
    "extra_volumes"]

/-- The image record of a document. -/
def ImageRecord.ofJson? (json : Json) : Option ImageRecord := do
  let record ← json.fullRecord? imageFields
  record.hold? ["modification_date", "organization", "project", "zone"] Json.text?
  record.mayHold? ["from_server"] Json.text?
  record.hold? ["public"] Json.bool?
  record.hold? ["tags"] (Json.listOf? Json.text?)
  record.hold? ["root_volume"] volume?
  record.mayHold? ["default_bootscript"] bootscript?
  record.hold? ["extra_volumes"] (Json.objectOf? volume?)
  pure
    { id := ← record.required? "id" Json.text?
      name := ← record.required? "name" Json.text?
      architecture := ← record.required? "arch" Json.text?
      creationDate := ← record.required? "creation_date" Json.text?
      state := ← record.required? "state" Json.text? }

/-- The image records of a list. -/
def ImageRecord.ofList? (json : Json) : Option (List ImageRecord) := do
  let record ← json.fullRecord? ["images"]
  record.required? "images" (Json.listOf? ImageRecord.ofJson?)

/-- The fields of a public address. -/
def publicAddressFields : List String :=
  ["id", "address", "gateway", "netmask", "family", "dynamic", "provisioning_mode", "tags", "state"]

/-- The text of a public address. -/
def publicAddress? (json : Json) : Option String := do
  let record ← json.fullRecord? publicAddressFields
  record.hold? ["id", "netmask", "family", "provisioning_mode", "state"] Json.text?
  record.mayHold? ["gateway"] Json.text?
  record.hold? ["dynamic"] Json.bool?
  record.hold? ["tags"] (Json.listOf? Json.text?)
  record.required? "address" Json.text?

/-- A document has the form of a security group. -/
def securityGroup? (json : Json) : Option Unit := do
  let record ← json.fullRecord? ["id", "name"]
  record.hold? ["id", "name"] Json.text?

/-- A document has fields, or values in order. -/
def structured? : Json → Option Unit
  | .object _ | .list _ => some ()
  | _ => none

/-- The fields of the record of a new server. -/
def createdFields : List String :=
  ["id", "name", "organization", "project", "allowed_actions", "tags", "commercial_type",
    "creation_date", "dynamic_ip_required", "routed_ip_enabled", "enable_ipv6", "hostname", "image",
    "protected", "private_ip", "public_ip", "public_ips", "mac_address", "modification_date",
    "state", "location", "ipv6", "bootscript", "boot_type", "volumes", "security_group",
    "maintenances", "state_detail", "arch", "placement_group", "private_nics", "zone"]

/-- The new server of a document. -/
def Created.ofJson? (json : Json) : Option Created := do
  let record ← json.fullRecord? createdFields
  record.hold? ["name", "organization", "project", "commercial_type", "hostname", "mac_address",
    "boot_type", "state_detail", "arch", "zone"] Json.text?
  record.mayHold? ["creation_date", "private_ip", "modification_date"] Json.text?
  record.hold? ["dynamic_ip_required", "routed_ip_enabled", "enable_ipv6", "protected"] Json.bool?
  record.hold? ["tags"] (Json.listOf? Json.text?)
  record.hold? ["image"] ImageRecord.ofJson?
  record.hold? ["public_ips"] (Json.listOf? publicAddress?)
  record.hold? ["bootscript"] bootscript?
  record.hold? ["volumes"] (Json.objectOf? structured?)
  record.hold? ["security_group"] securityGroup?
  record.hold? ["maintenances", "private_nics"] (Json.listOf? structured?)
  record.mayHold? ["location", "ipv6", "placement_group"] structured?
  pure
    { id := ← record.required? "id" Json.text?
      state := ← record.required? "state" Json.text?
      allowedActions := ← record.required? "allowed_actions" (Json.listOf? Json.text?)
      publicAddress := ← record.maybe? "public_ip" publicAddress? }

/-- The new server in an envelope. -/
def Created.ofEnvelope? (json : Json) : Option Created := do
  let record ← json.fullRecord? ["server"]
  record.required? "server" Created.ofJson?

/-- The error in an error document. -/
def errorOf? (json : Json) : Option ScalewayError := do
  let record ← json.fullRecord? ["message", "resource", "resource_id", "type"]
  record.mayHold? ["resource", "resource_id"] Json.text?
  pure (.api (← record.required? "type" Json.text?) (← record.required? "message" Json.text?))

/-- The body of the request for a new server. -/
def ServerOrder.toJson (order : ServerOrder) : Json :=
  .object
    [("name", .text order.name), ("commercial_type", .text order.size),
      ("routed_ip_enabled", .bool true), ("image", .text order.image),
      ("project", .text order.project), ("tags", .list (order.labels.map Json.text))]

/-- The body of the request for an action. -/
def ServerAction.toJson (action : ServerAction) : Json :=
  .object [("action", .text action.name)]

/-- The query for images. -/
def ImageQuery.toPairs (query : ImageQuery) : List (String × String) :=
  [("public", if query.isPublic then "true" else "false")] ++
    query.project.toList.map (fun project => ("project", project)) ++
    [("arch", query.architecture)] ++
    query.organization.toList.map fun organization => ("organization", organization)

/-- The query for a page of servers. -/
def pageQuery (label : Option String) (page : Nat) : List (String × String) :=
  [("per_page", toString pageSize), ("page", toString page)] ++
    label.toList.map fun label => ("tags", label)

end Fleet.Scaleway
