/-
# Core versions and extensions

A version or extension lists what it requires: types, commands, features of
devices, and enum elements, which may also add a field, an alias or a constant.
Entries, requirements and versions that do not apply to Vulkan are passed over,
and so are extensions that are not supported for it. Within a requirement, and
within a version as a whole, the last entry of a name counts.
-/
import VulkanFoundry.Attribute
import VulkanFoundry.Document.Basic
import VulkanFoundry.Registry.Basic

namespace VulkanFoundry

/-- What a required enum element adds, if anything: with an extended enum an
alias or a field, otherwise a constant if it has a value. -/
def EnumAddition.ofElement? (e : EnumElement) (name owner : String) :
    Except LoadError (Option EnumAddition) :=
  match e.extended with
  | none => .ok ((e.value.or e.target).map .constant)
  | some extended =>
    match e.target, e.value, e.bitPosition, e.offset with
    | some target, _, _, _ => .ok (some (.fieldAlias extended target))
    | none, some literal, _, _ => .ok (some (.field extended (.literal literal)))
    | none, none, some position, _ => do
      let n ← Attribute.readNumber "bitpos" position
      return some (.field extended (.bitPosition n))
    | none, none, none, some offset => do
      let extensionNumber ← Attribute.readNumber? "extnumber" e.extensionNumber
      let n ← Attribute.readNumber "offset" offset
      return some (.field extended (.offset extensionNumber n (e.direction = some "-")))
    | none, none, none, none =>
      .error (.missingAttribute "value|bitpos|offset|alias" (name ++ " in " ++ owner))

def Feature.ofEnum (owner : String) (e : EnumElement) : Except LoadError Feature := do
  let name ← Attribute.required "name" owner e.name
  let addition ← EnumAddition.ofElement? e name owner
  return { name, kind := .enum, addition }

def Feature.ofName (owner : String) (kind : FeatureKind) (e : NameElement) :
    Except LoadError Feature := do
  let name ← Attribute.required "name" owner e.name
  return { name, kind, addition := none }

/-- Whether an entry is more than a comment and applies to Vulkan. -/
def RequireEntry.counts : RequireEntry → Bool
  | .type e | .command e | .feature e => Attribute.supportsVulkan e.api
  | .enum e => Attribute.supportsVulkan e.api
  | .comment _ => false

/-- The feature of an entry; a comment has none. -/
def RequireEntry.feature? (owner : String) : RequireEntry → Except LoadError (Option Feature)
  | .type e => (Feature.ofName owner .type e).map some
  | .command e => (Feature.ofName owner .command e).map some
  | .feature e => (Feature.ofName owner .deviceFeature e).map some
  | .enum e => (Feature.ofEnum owner e).map some
  | .comment _ => .ok none

/-- The features of a requirement, a later one replacing an earlier one of its
name. -/
def RequireElement.features (e : RequireElement) (owner : String) :
    Except LoadError (NameMap Feature) := do
  let features ← (e.entries.filter RequireEntry.counts).mapM (RequireEntry.feature? owner)
  return NameMap.ofList ((features.filterMap id).map fun f => (f.name, f))

/-- The condition of a requirement, which may be given in two parts. -/
def RequireElement.condition (e : RequireElement) : Option String :=
  match e.depends with
  | some depends => some depends
  | none =>
    match [e.feature, e.ext].filterMap id with
    | [] => none
    | parts => some (Text.joined "+" parts)

def Requirement.ofElement (owner : String) (e : RequireElement) :
    Except LoadError Requirement := do
  return { depends := e.condition, features := ← e.features owner }

def vulkanRequirements (requirements : List RequireElement) : List RequireElement :=
  requirements.filter fun r => Attribute.supportsVulkan r.api

/-- A core version, unless it does not apply to Vulkan. The name is demanded in
any case. -/
def CoreVersion.ofElement? (e : VersionElement) : Except LoadError (Option CoreVersion) := do
  let name ← Attribute.required "name" "feature" e.name
  if Attribute.supportsVulkan e.api then
    let number ← Attribute.required "number" name e.number
    let requirements ← (vulkanRequirements e.requirements).mapM (Requirement.ofElement name)
    let features := requirements.foldl (fun acc r => acc.union r.features) NameMap.empty
    return some { name, number, features }
  else return none

def ExtensionElement.isSupported (e : ExtensionElement) : Bool :=
  (Attribute.list e.supported).contains "vulkan"

/-- An extension, unless it is not supported. The name is demanded in any
case. -/
def Extension.ofElement? (e : ExtensionElement) : Except LoadError (Option Extension) := do
  let name ← Attribute.required "name" "extension" e.name
  if e.isSupported then
    let number ← Attribute.requiredNumber "number" name e.number
    let requirements ← (vulkanRequirements e.requirements).mapM (Requirement.ofElement name)
    return some {
      name, number, requirements
      kind := e.kind
      platform := e.platform
      promotedTo := Attribute.nonBlank e.promotedTo
      deprecatedBy := Attribute.nonBlank e.deprecatedBy
      depends := (Attribute.nonBlank e.depends).or (Attribute.nonBlank e.requires) }
  else return none

end VulkanFoundry
