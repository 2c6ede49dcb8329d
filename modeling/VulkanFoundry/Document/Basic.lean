/-
# Registry documents

A registry document as its author wrote it: sections of elements with
attributes that may be missing and, for declarations, running text mixed with
tags. Nothing is interpreted yet; attribute values and texts are as written.

A fragment of a declaration is a piece of running text or a tagged word in it.
A comment is kept as a fragment, though nothing reads it.
-/
namespace VulkanFoundry

/-- A platform and the macro that protects its declarations. -/
structure PlatformElement where
  name : String
  protect : Option String := none
  deriving DecidableEq, Repr

/-- A piece of a declaration: running text or a tagged word. -/
inductive Fragment where
  | text (s : String)
  | type (s : String)
  | name (s : String)
  | enum (s : String)
  | comment (s : String)
  deriving DecidableEq, Repr

structure MemberElement where
  optional : Option String := none
  len : Option String := none
  values : Option String := none
  noAutoValidity : Option String := none
  selection : Option String := none
  api : Option String := none
  content : List Fragment := []
  deriving DecidableEq, Repr

structure ParamElement where
  optional : Option String := none
  externSync : Option String := none
  len : Option String := none
  api : Option String := none
  content : List Fragment := []
  deriving DecidableEq, Repr

/-- A piece of a type element: running text, a tagged word, or a whole member,
prototype or parameter. -/
inductive TypePart where
  | text (s : String)
  | type (s : String)
  | name (s : String)
  | member (m : MemberElement)
  | comment (s : String)
  | proto (content : List Fragment)
  | param (p : ParamElement)
  deriving DecidableEq, Repr

structure TypeElement where
  name : Option String := none
  category : Option String := none
  target : Option String := none
  requires : Option String := none
  bitValues : Option String := none
  api : Option String := none
  parent : Option String := none
  objectType : Option String := none
  structExtends : Option String := none
  returnedOnly : Option String := none
  content : List TypePart := []
  deriving DecidableEq, Repr

/-- A command, or an alias of one. -/
structure CommandElement where
  name : Option String := none
  target : Option String := none
  api : Option String := none
  successCodes : Option String := none
  errorCodes : Option String := none
  queues : Option String := none
  bufferLevels : Option String := none
  renderPass : Option String := none
  proto : Option (List Fragment) := none
  params : List ParamElement := []
  deriving DecidableEq, Repr

/-- A field or constant, inside a block of them or required by a version or
extension. -/
structure EnumElement where
  name : Option String := none
  value : Option String := none
  bitPosition : Option String := none
  target : Option String := none
  api : Option String := none
  extended : Option String := none
  extensionNumber : Option String := none
  offset : Option String := none
  direction : Option String := none
  deriving DecidableEq, Repr

/-- A block of fields of one enum, or of constants. -/
structure EnumBlock where
  name : Option String := none
  kind : Option String := none
  bitWidth : Option String := none
  entries : List EnumElement := []
  deriving DecidableEq, Repr

structure NameElement where
  name : Option String := none
  api : Option String := none
  deriving DecidableEq, Repr

inductive RequireEntry where
  | type (e : NameElement)
  | enum (e : EnumElement)
  | command (e : NameElement)
  | feature (e : NameElement)
  | comment (s : String)
  deriving DecidableEq, Repr

/-- A list of what a version or extension requires. -/
structure RequireElement where
  api : Option String := none
  depends : Option String := none
  feature : Option String := none
  ext : Option String := none
  entries : List RequireEntry := []
  deriving DecidableEq, Repr

structure VersionElement where
  api : Option String := none
  name : Option String := none
  number : Option String := none
  requirements : List RequireElement := []
  deriving DecidableEq, Repr

structure ExtensionElement where
  name : Option String := none
  number : Option String := none
  kind : Option String := none
  supported : Option String := none
  platform : Option String := none
  promotedTo : Option String := none
  deprecatedBy : Option String := none
  depends : Option String := none
  requires : Option String := none
  requirements : List RequireElement := []
  deriving DecidableEq, Repr

structure ComponentElement where
  name : Option String := none
  bits : Option String := none
  numericFormat : Option String := none
  planeIndex : Option String := none
  deriving DecidableEq, Repr

structure PlaneElement where
  index : Option String := none
  widthDivisor : Option String := none
  heightDivisor : Option String := none
  compatible : Option String := none
  deriving DecidableEq, Repr

structure FormatElement where
  name : Option String := none
  formatClass : Option String := none
  blockSize : Option String := none
  texelsPerBlock : Option String := none
  packed : Option String := none
  chroma : Option String := none
  components : List ComponentElement := []
  planes : List PlaneElement := []
  spirvFormat : Option String := none
  deriving DecidableEq, Repr

/-- A condition that enables a SPIR-V extension or capability. -/
structure EnableElement where
  version : Option String := none
  ext : Option String := none
  struct : Option String := none
  feature : Option String := none
  property : Option String := none
  member : Option String := none
  value : Option String := none
  requires : Option String := none
  deriving DecidableEq, Repr

structure SpirvElement where
  name : Option String := none
  enables : List EnableElement := []
  deriving DecidableEq, Repr

/-- A registry document, section by section. -/
structure Document where
  platforms : List PlatformElement := []
  types : List TypeElement := []
  enumBlocks : List EnumBlock := []
  commands : List CommandElement := []
  versions : List VersionElement := []
  extensions : List ExtensionElement := []
  formats : List FormatElement := []
  spirvExtensions : List SpirvElement := []
  spirvCapabilities : List SpirvElement := []
  deriving DecidableEq, Repr

end VulkanFoundry
