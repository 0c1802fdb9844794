/-!
# Identifiers

Nodes, images, sizes and locations are named by the texts that a provider hands out. Identifiers
are compared character by character in code-point order, and case matters.
-/

namespace Fleet

/-- The name of a node, unique within its provider. -/
abbrev NodeId := String

/-- The name of a bootable image. -/
abbrev ImageId := String

/-- The name of a hardware size. -/
abbrev SizeId := String

/-- The name of a provider, region, zone or host. -/
abbrev LocationId := String

end Fleet
