/-
# The registry of a document

A document is resolved section by section: platforms, types, enum blocks,
commands, versions, extensions, formats and SPIR-V conditions, each element in
the order of the document and each name at most once in its section. Then the
contributions to enums are made, and at last all references are checked. The
first thing found wrong is reported.

Types of all categories, enums and constants share one space of names.
-/
import VulkanFoundry.Declaration.TypeElement
import VulkanFoundry.Declaration.Command
import VulkanFoundry.Declaration.Requirement
import VulkanFoundry.Declaration.ImageFormat
import VulkanFoundry.Declaration.Spirv
import VulkanFoundry.Document.Reader
import VulkanFoundry.Registry.Contribution
import VulkanFoundry.Registry.Consistency

namespace VulkanFoundry

/-- The map with a declaration of a name that it does not hold yet. -/
def declare {α : Type} (kind : String) (map : NameMap α) (name : String) (value : α) :
    Except LoadError (NameMap α) :=
  if map.contains name then .error (.duplicateName kind name)
  else .ok (map.insert name value)

/-- The declarations of a section, each element giving at most one. -/
def declareAll {ε α : Type} (kind : String) (name : α → String)
    (ofElement? : ε → Except LoadError (Option α)) (elements : List ε) :
    Except LoadError (NameMap α) :=
  elements.foldlM (fun map e => do
    match ← ofElement? e with
    | some value => declare kind map (name value) value
    | none => return map) NameMap.empty

/-- A platform, for which a macro is demanded. -/
def Platform.ofElement (e : PlatformElement) : Except LoadError Platform := do
  return { name := e.name, protect := ← Attribute.required "protect" e.name e.protect }

/-- What the types section declares: headers, types, and the names of enums. -/
structure TypesSection where
  includes : NameMap IncludeType := ∅
  types : NameMap RegistryType := ∅
  enumNames : NameSet := ∅

def TypesSection.add (s : TypesSection) (e : TypeElement) : Except LoadError TypesSection :=
  if Attribute.supportsVulkan e.api then do
    match ← Declared.ofElement e with
    | .header h => return { s with includes := ← declare "include" s.includes h.name h }
    | .enumName name => return { s with enumNames := s.enumNames.add name }
    | .type t => return { s with types := ← declare "type" s.types t.name t }
  else .ok s

def addEnumBlock (types : NameMap RegistryType) (b : EnumBlock) :
    Except LoadError (NameMap RegistryType) := do
  let name ← Attribute.required "name" "enums" b.name
  if b.holdsConstants name then
    b.vulkanEntries.foldlM (fun types e => do
      let d ← Define.ofConstant e
      declare "type" types d.name (.define d)) types
  else
    let e ← EnumType.ofBlock name b
    declare "type" types e.name (.enum e)

/-- The types with every enum that was only named. -/
def addNamedEnums (types : NameMap RegistryType) (names : NameSet) : NameMap RegistryType :=
  names.names.foldl (fun types name =>
    if types.contains name then types
    else types.insert name (.enum (EnumType.withoutFields name))) types

/-- The commands section: commands, and aliases of them. -/
structure CommandsSection where
  commands : NameMap Command := ∅
  aliases : NameMap Alias := ∅

def CommandsSection.add (s : CommandsSection) (e : CommandElement) :
    Except LoadError CommandsSection :=
  if Attribute.supportsVulkan e.api then
    match e.target with
    | some target => do
      let name ← Attribute.required "name" "command alias" e.name
      return { s with aliases := ← declare "command" s.aliases name { name, target } }
    | none => do
      let c ← Command.ofElement e
      return { s with commands := ← declare "command" s.commands c.name c }
  else .ok s

namespace Registry

/-- What the sections of a document declare, each by itself. -/
def ofSections (doc : Document) : Except LoadError Registry := do
  let platforms ← declareAll "platform" (·.name) (fun e => (Platform.ofElement e).map some)
    doc.platforms
  let declared ← doc.types.foldlM TypesSection.add {}
  let blocks ← doc.enumBlocks.foldlM addEnumBlock declared.types
  let commands ← doc.commands.foldlM CommandsSection.add {}
  let coreVersions ← declareAll "feature" (·.name) CoreVersion.ofElement? doc.versions
  let extensions ← declareAll "extension" (·.name) Extension.ofElement? doc.extensions
  let imageFormats ← declareAll "format" (·.name) (fun e => (ImageFormat.ofElement e).map some)
    doc.formats
  let spirvExtensions ← declareAll "spirvextension" (·.name)
    (fun e => (SpirvExtension.ofElement e).map some) doc.spirvExtensions
  let spirvCapabilities ← declareAll "spirvcapability" (·.name)
    (fun e => (SpirvCapability.ofElement e).map some) doc.spirvCapabilities
  return {
    platforms
    includes := declared.includes
    types := addNamedEnums blocks declared.enumNames
    commands := commands.commands
    commandAliases := commands.aliases
    coreVersions, extensions, imageFormats, spirvExtensions, spirvCapabilities }

def ofDocument (doc : Document) : Except LoadError Registry := do
  let sections ← ofSections doc
  let complete ← sections.withContributions
  complete.checkReferences
  return complete

/-- The registry that a text declares. -/
def load (text : String) : Except LoadError Registry :=
  match Document.read? text with
  | some doc => ofDocument doc
  | none => .error .malformed

end Registry
end VulkanFoundry
