/-
# Configuration of a generation run

Which files to generate, where to, in which namespace, and for which core
versions and extensions. Every setting has a default.
-/
namespace VulkanFoundry

/-- The name that includes every extension. -/
def allExtensions : String := "*"

/-- Which extensions contribute structs. -/
structure ExtensionPolicy where
  /-- The extensions to include, or the name for all of them. -/
  included : List String := []
  excluded : List String := []
  /-- Leaves out all extensions that belong to a platform. -/
  withoutPlatforms : Bool := false
  deriving DecidableEq, Repr

/-- The settings of a generation run. -/
structure Configuration where
  target : String := "struct_factories"
  outputDirectory : String := "generated"
  codeNamespace : String := "vk_factories"
  versions : List String := ["VK_VERSION_1_0"]
  extensions : ExtensionPolicy := {}
  /-- Structs that are never generated. -/
  excludedStructs : List String := ["VkBaseInStructure", "VkBaseOutStructure"]
  deriving DecidableEq, Repr

end VulkanFoundry
