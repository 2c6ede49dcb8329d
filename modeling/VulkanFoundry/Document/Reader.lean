/-
# Reading a document from markup

The elements of a registry document, each with the shape of its record. A
section may stand once and holds the records of one name; the blocks of enums
and the core versions stand for themselves and may be repeated. Declarations
and requirements have mixed content, in which a requirement has no text.

A document that lacks this shape is refused as a whole: `Document.read?` gives
no reason.

Key definitions: `Document.read?`.
-/
import VulkanFoundry.Document.Basic
import VulkanFoundry.Document.Record

namespace VulkanFoundry
namespace Document

open Markup

/-- The name of a child that is running text with a tag of its own. -/
def taggedText : String := "$text"

/-- A tagged word of a declaration. -/
def fragment? (name : String) : Option (Element → Reading Fragment) :=
  if name = taggedText then some fun e => .text <$> e.leaf
  else
    match name with
    | "type" => some fun e => .type <$> e.leaf
    | "name" => some fun e => .name <$> e.leaf
    | "enum" => some fun e => .enum <$> e.leaf
    | "comment" => some fun e => .comment <$> e.leaf
    | _ => none

def declarationShape (attributes : List String) : Shape Fragment :=
  { attributes, content := some ⟨fun s => some (.text s), fragment?⟩ }

def proto (e : Element) : Reading (List Fragment) := do
  return (← e.record (declarationShape [])).parts

def member (e : Element) : Reading MemberElement := do
  let r ← e.record (declarationShape
    ["optional", "len", "values", "noautovalidity", "selection", "api"])
  return {
    optional := r.value? "optional"
    len := r.value? "len"
    values := r.value? "values"
    noAutoValidity := r.value? "noautovalidity"
    selection := r.value? "selection"
    api := r.value? "api"
    content := r.parts }

def param (e : Element) : Reading ParamElement := do
  let r ← e.record (declarationShape ["optional", "externsync", "len", "api"])
  return {
    optional := r.value? "optional"
    externSync := r.value? "externsync"
    len := r.value? "len"
    api := r.value? "api"
    content := r.parts }

/-- A tagged word, member, prototype or parameter inside a type element. -/
def typePart? (name : String) : Option (Element → Reading TypePart) :=
  if name = taggedText then some fun e => .text <$> e.leaf
  else
    match name with
    | "type" => some fun e => .type <$> e.leaf
    | "name" => some fun e => .name <$> e.leaf
    | "comment" => some fun e => .comment <$> e.leaf
    | "member" => some fun e => .member <$> member e
    | "proto" => some fun e => .proto <$> proto e
    | "param" => some fun e => .param <$> param e
    | _ => none

def typeShape : Shape TypePart where
  attributes := ["name", "category", "alias", "requires", "bitvalues", "api", "parent",
    "objtypeenum", "structextends", "returnedonly"]
  content := some ⟨fun s => some (.text s), typePart?⟩

/-- A type of any category, read in the same way whether it applies to Vulkan or not. -/
def type (e : Element) : Reading TypeElement := do
  let r ← e.record typeShape
  return {
    name := r.value? "name"
    category := r.value? "category"
    target := r.value? "alias"
    requires := r.value? "requires"
    bitValues := r.value? "bitvalues"
    api := r.value? "api"
    parent := r.value? "parent"
    objectType := r.value? "objtypeenum"
    structExtends := r.value? "structextends"
    returnedOnly := r.value? "returnedonly"
    content := r.parts }

inductive CommandPart where
  | proto (content : List Fragment)
  | param (p : ParamElement)

/-- The shape of a command, with one prototype at most. -/
def commandShape : Shape CommandPart where
  attributes := ["name", "alias", "api", "successcodes", "errorcodes", "queues",
    "cmdbufferlevel", "renderpass"]
  single := fun name => if name = "proto" then some fun e => .proto <$> proto e else none
  repeated := fun name => if name = "param" then some fun e => .param <$> param e else none

def command (e : Element) : Reading CommandElement := do
  let r ← e.record commandShape
  return {
    name := r.value? "name"
    target := r.value? "alias"
    api := r.value? "api"
    successCodes := r.value? "successcodes"
    errorCodes := r.value? "errorcodes"
    queues := r.value? "queues"
    bufferLevels := r.value? "cmdbufferlevel"
    renderPass := r.value? "renderpass"
    proto := r.parts.findSome? fun | .proto content => some content | _ => none
    params := r.parts.filterMap fun | .param p => some p | _ => none }

/-- The shape of a record without children of its own. -/
def plainShape (attributes : List String) : Shape Empty := { attributes }

/-- The shape of a record whose children of one name are repeated. -/
def listShape {α : Type} (attributes : List String) (child : String)
    (read : Element → Reading α) : Shape α :=
  { attributes, repeated := fun name => if name = child then some read else none }

/-- An enum element, as it stands in a block or in a requirement. -/
def enum (e : Element) : Reading EnumElement := do
  let r ← e.record (plainShape
    ["name", "value", "bitpos", "alias", "api", "extends", "extnumber", "offset", "dir"])
  return {
    name := r.value? "name"
    value := r.value? "value"
    bitPosition := r.value? "bitpos"
    target := r.value? "alias"
    api := r.value? "api"
    extended := r.value? "extends"
    extensionNumber := r.value? "extnumber"
    offset := r.value? "offset"
    direction := r.value? "dir" }

def enumBlock (e : Element) : Reading EnumBlock := do
  let r ← e.record (listShape ["name", "type", "bitwidth"] "enum" enum)
  return {
    name := r.value? "name"
    kind := r.value? "type"
    bitWidth := r.value? "bitwidth"
    entries := r.parts }

def name (e : Element) : Reading NameElement := do
  let r ← e.record (plainShape ["name", "api"])
  return { name := r.value? "name", api := r.value? "api" }

def requireEntry? (name : String) : Option (Element → Reading RequireEntry) :=
  match name with
  | "type" => some fun e => .type <$> Document.name e
  | "enum" => some fun e => .enum <$> enum e
  | "command" => some fun e => .command <$> Document.name e
  | "feature" => some fun e => .feature <$> Document.name e
  | "comment" => some fun e => .comment <$> e.leaf
  | _ => none

/-- The shape of a requirement: text that is not blank has no place in it. -/
def requirementShape : Shape RequireEntry where
  attributes := ["api", "depends", "feature", "extension"]
  content := some ⟨fun _ => none, requireEntry?⟩

def requirement (e : Element) : Reading RequireElement := do
  let r ← e.record requirementShape
  return {
    api := r.value? "api"
    depends := r.value? "depends"
    feature := r.value? "feature"
    ext := r.value? "extension"
    entries := r.parts }

def version (e : Element) : Reading VersionElement := do
  let r ← e.record (listShape ["api", "name", "number"] "require" requirement)
  return {
    api := r.value? "api"
    name := r.value? "name"
    number := r.value? "number"
    requirements := r.parts }

def extension (e : Element) : Reading ExtensionElement := do
  let r ← e.record (listShape
    ["name", "number", "type", "supported", "platform", "promotedto", "deprecatedby", "depends",
      "requires"] "require" requirement)
  return {
    name := r.value? "name"
    number := r.value? "number"
    kind := r.value? "type"
    supported := r.value? "supported"
    platform := r.value? "platform"
    promotedTo := r.value? "promotedto"
    deprecatedBy := r.value? "deprecatedby"
    depends := r.value? "depends"
    requires := r.value? "requires"
    requirements := r.parts }

def component (e : Element) : Reading ComponentElement := do
  let r ← e.record (plainShape ["name", "bits", "numericFormat", "planeIndex"])
  return {
    name := r.value? "name"
    bits := r.value? "bits"
    numericFormat := r.value? "numericFormat"
    planeIndex := r.value? "planeIndex" }

def plane (e : Element) : Reading PlaneElement := do
  let r ← e.record (plainShape ["index", "widthDivisor", "heightDivisor", "compatible"])
  return {
    index := r.value? "index"
    widthDivisor := r.value? "widthDivisor"
    heightDivisor := r.value? "heightDivisor"
    compatible := r.value? "compatible" }

def spirvFormat (e : Element) : Reading (Option String) := do
  return (← e.record (plainShape ["name"])).value? "name"

inductive FormatPart where
  | component (c : ComponentElement)
  | plane (p : PlaneElement)
  | spirvFormat (name : Option String)

/-- The shape of an image format, with one SPIR-V name at most. -/
def formatShape : Shape FormatPart where
  attributes := ["name", "class", "blockSize", "texelsPerBlock", "packed", "chroma"]
  single := fun name =>
    if name = "spirvimageformat" then some fun e => .spirvFormat <$> spirvFormat e else none
  repeated := fun name =>
    match name with
    | "component" => some fun e => .component <$> component e
    | "plane" => some fun e => .plane <$> plane e
    | _ => none

def format (e : Element) : Reading FormatElement := do
  let r ← e.record formatShape
  return {
    name := r.value? "name"
    formatClass := r.value? "class"
    blockSize := r.value? "blockSize"
    texelsPerBlock := r.value? "texelsPerBlock"
    packed := r.value? "packed"
    chroma := r.value? "chroma"
    components := r.parts.filterMap fun | .component c => some c | _ => none
    planes := r.parts.filterMap fun | .plane p => some p | _ => none
    spirvFormat := r.parts.findSome? fun | .spirvFormat name => name | _ => none }

def enable (e : Element) : Reading EnableElement := do
  let r ← e.record (plainShape
    ["version", "extension", "struct", "feature", "property", "member", "value", "requires"])
  return {
    version := r.value? "version"
    ext := r.value? "extension"
    struct := r.value? "struct"
    feature := r.value? "feature"
    property := r.value? "property"
    member := r.value? "member"
    value := r.value? "value"
    requires := r.value? "requires" }

def spirv (e : Element) : Reading SpirvElement := do
  let r ← e.record (listShape ["name"] "enable" enable)
  return { name := r.value? "name", enables := r.parts }

/-- The shape of a platform. It is the one record whose name the document's shape
demands. -/
def platformShape : Shape Empty :=
  { attributes := ["name", "protect"], demanded := ["name"] }

def platform (e : Element) : Reading PlatformElement := do
  let r ← e.record platformShape
  match r.value? "name" with
  | some name => return { name, protect := r.value? "protect" }
  | none => failure

/-- A section: the records of one name. -/
def recordsOf {α : Type} (child : String) (read : Element → Reading α) (e : Element) :
    Reading (List α) := do
  return (← e.record (listShape [] child read)).parts

/-- A child of the document's root. -/
inductive Part where
  | platforms (xs : List PlatformElement)
  | types (xs : List TypeElement)
  | enumBlock (x : EnumBlock)
  | commands (xs : List CommandElement)
  | version (x : VersionElement)
  | extensions (xs : List ExtensionElement)
  | formats (xs : List FormatElement)
  | spirvExtensions (xs : List SpirvElement)
  | spirvCapabilities (xs : List SpirvElement)

/-- The sections, which may stand once. -/
def section? (name : String) : Option (Element → Reading Part) :=
  match name with
  | "platforms" => some fun e => .platforms <$> recordsOf "platform" platform e
  | "types" => some fun e => .types <$> recordsOf "type" type e
  | "commands" => some fun e => .commands <$> recordsOf "command" command e
  | "extensions" => some fun e => .extensions <$> recordsOf "extension" extension e
  | "formats" => some fun e => .formats <$> recordsOf "format" format e
  | "spirvextensions" => some fun e => .spirvExtensions <$> recordsOf "spirvextension" spirv e
  | "spirvcapabilities" =>
    some fun e => .spirvCapabilities <$> recordsOf "spirvcapability" spirv e
  | _ => none

def rootShape : Shape Part where
  attributes := []
  single := section?
  repeated := fun name =>
    match name with
    | "enums" => some fun e => .enumBlock <$> enumBlock e
    | "feature" => some fun e => .version <$> version e
    | _ => none

def ofParts (parts : List Part) : Document where
  platforms := parts.flatMap fun | .platforms xs => xs | _ => []
  types := parts.flatMap fun | .types xs => xs | _ => []
  enumBlocks := parts.filterMap fun | .enumBlock x => some x | _ => none
  commands := parts.flatMap fun | .commands xs => xs | _ => []
  versions := parts.filterMap fun | .version x => some x | _ => none
  extensions := parts.flatMap fun | .extensions xs => xs | _ => []
  formats := parts.flatMap fun | .formats xs => xs | _ => []
  spirvExtensions := parts.flatMap fun | .spirvExtensions xs => xs | _ => []
  spirvCapabilities := parts.flatMap fun | .spirvCapabilities xs => xs | _ => []

/-- The document in the first element of a text. -/
def read? (text : String) : Option Document := do
  let root ← Root.read? text
  let (r, _) ← (Element.record rootShape ⟨root.tag, root.children, root.next⟩).run {}
  return ofParts r.parts

end Document
end VulkanFoundry
