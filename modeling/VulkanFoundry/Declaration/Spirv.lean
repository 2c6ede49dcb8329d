/-
# SPIR-V extensions and capabilities

Each is enabled by versions, extensions, features or properties. An enabling
element names one of these; if it names several, the version counts first, then
the extension, the feature and the property. A SPIR-V extension is not enabled
by features or properties.
-/
import VulkanFoundry.Attribute
import VulkanFoundry.Document.Basic
import VulkanFoundry.Registry.Basic

namespace VulkanFoundry

inductive Enable where
  | version (name : String)
  | ext (name : String)
  | feature (f : SpirvFeature)
  | property (p : SpirvProperty)

namespace Enable

def ofElement (owner : String) (e : EnableElement) : Except LoadError Enable :=
  match e.version, e.ext, e.struct, e.property with
  | some v, _, _, _ => .ok (.version v)
  | none, some x, _, _ => .ok (.ext x)
  | none, none, some struct, _ => do
    let feature ← Attribute.required "feature" owner e.feature
    return .feature { struct, feature, requires := e.requires }
  | none, none, none, some p => do
    let member ← Attribute.required "member" owner e.member
    let value ← Attribute.required "value" owner e.value
    return .property { property := p, member, value, requires := e.requires }
  | none, none, none, none => .error (.invalidElement owner .emptyEnable)

def version? : Enable → Option String
  | version v => some v
  | _ => none

def ext? : Enable → Option String
  | ext x => some x
  | _ => none

def feature? : Enable → Option SpirvFeature
  | feature f => some f
  | _ => none

def property? : Enable → Option SpirvProperty
  | property p => some p
  | _ => none

/-- Whether a SPIR-V extension cannot be enabled in this way. -/
def isForeign (e : Enable) : Bool := e.feature?.isSome || e.property?.isSome

end Enable

def SpirvExtension.ofElement (e : SpirvElement) : Except LoadError SpirvExtension := do
  let name ← Attribute.required "name" "spirvextension" e.name
  let enables ← e.enables.mapM (Enable.ofElement name)
  if enables.any Enable.isForeign then .error (.invalidElement name .foreignEnable)
  else
    return {
      name
      versions := enables.filterMap Enable.version?
      extensions := enables.filterMap Enable.ext? }

def SpirvCapability.ofElement (e : SpirvElement) : Except LoadError SpirvCapability := do
  let name ← Attribute.required "name" "spirvcapability" e.name
  let enables ← e.enables.mapM (Enable.ofElement name)
  return {
    name
    versions := enables.filterMap Enable.version?
    extensions := enables.filterMap Enable.ext?
    features := enables.filterMap Enable.feature?
    properties := enables.filterMap Enable.property? }

end VulkanFoundry
