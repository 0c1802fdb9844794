import Fleet.Template.Catalog

/-!
# The catalog of the provider in memory

One region with two zones, two images and three sizes: what an account in memory offers unless it is
given another catalog.
-/

namespace Fleet.Memory

/-- The name of the provider in memory, which is also the name of its root location. -/
def providerName : String := "stub"

/-- The provider, its region and its two zones. -/
def defaultLocations : List Location :=
  let provider := Location.root providerName "In-memory provider"
  let region := Location.childOf provider "stub-region" .region "Region"
  [provider, region, Location.childOf region "stub-zone-a" .zone "Zone A",
    Location.childOf region "stub-zone-b" .zone "Zone B"]

/-- An image that can be booted everywhere. -/
def freeImage (id name version : String) : Image :=
  { id := id, name := name, family := SystemFamily.detect name, systemDescription := name,
    architecture := "x86_64", version := version, location := none }

/-- A size for the usual architecture. -/
def standardSize (id : String) (cores memory disk : Nat) : Size :=
  { id := id, cores := cores, memory := memory, disk := disk, architectures := ["x86_64"] }

/-- What an account in memory offers unless it is given another catalog. -/
def defaultCatalog : Catalog :=
  { images :=
      [freeImage "ubuntu-22.04" "Ubuntu 22.04 LTS" "22.04",
        freeImage "centos-stream-9" "CentOS Stream 9" "9"]
    sizes :=
      [standardSize "stub.small" 1 1024 20, standardSize "stub.medium" 2 4096 40,
        standardSize "stub.large" 8 16384 160]
    locations := (Registry.ofList defaultLocations).toOption.getD Registry.empty }

end Fleet.Memory
