import Fleet.Text.Letters
import Fleet.Text.Search

/-!
# Operating systems

The family of an operating system is recognised by the first known word that occurs in an image's
name. Families with a known package manager have a bootstrap script that installs the tools which
later steps need.
-/

namespace Fleet

/-- A family of operating systems. -/
inductive SystemFamily where
  | ubuntu
  | debian
  | centos
  | rhel
  | windows
  /-- Anything else. -/
  | unrecognized
  deriving DecidableEq, Repr

namespace SystemFamily

/-- The name of a family. -/
def name : SystemFamily → String
  | ubuntu => "ubuntu"
  | debian => "debian"
  | centos => "centos"
  | rhel => "rhel"
  | windows => "windows"
  | unrecognized => "unrecognized"

/-- The family with a given name. -/
def ofName? : String → Option SystemFamily
  | "ubuntu" => some ubuntu
  | "debian" => some debian
  | "centos" => some centos
  | "rhel" => some rhel
  | "windows" => some windows
  | "unrecognized" => some unrecognized
  | _ => none

/-- The words by which families are recognised, in the order in which they are looked for. -/
def words : List (String × SystemFamily) :=
  [("ubuntu", ubuntu), ("debian", debian), ("centos", centos), ("rhel", rhel), ("red hat", rhel),
    ("windows", windows)]

/-- The family that the name of an image suggests, the case of its letters aside. -/
def detect (imageName : String) : SystemFamily :=
  let lowered := Text.lowerCase imageName
  ((words.find? fun (word, _) => Text.containsText lowered word).map Prod.snd).getD unrecognized

/-- The commands by which a family installs the tools. -/
def installCommands : SystemFamily → Option (List String)
  | ubuntu | debian =>
    some ["export DEBIAN_FRONTEND=noninteractive", "apt-get update -qq",
      "apt-get install -y curl ca-certificates"]
  | centos | rhel => some ["yum -y install curl ca-certificates"]
  | windows | unrecognized => none

/-- The script that prepares a new node, when the family has one. -/
def bootstrapScript (family : SystemFamily) : Option String :=
  family.installCommands.map fun commands =>
    String.join (("#!/bin/sh" :: "set -e" :: commands).map (· ++ "\n"))

theorem ofName?_name (family : SystemFamily) : ofName? family.name = some family := by
  cases family <;> rfl

end SystemFamily

end Fleet
