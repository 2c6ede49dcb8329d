/-
# The registry

What a registry declares, by name: types of every category, commands, core
versions, extensions, image formats and SPIR-V conditions. A registry is a
plain value; that its names agree with its keys, that its references resolve
and so on holds of the registries that documents give.

`get?` looks a type up under its own name, `resolve?` also under an alias,
following one hop. Aliases of enum fields may point at further aliases, and
`EnumType.resolveAlias?` follows them to a field.

Key definitions: `RegistryType`, `Registry`, `Registry.resolve?`,
`EnumType.resolveAlias?`, `Registry.struct?`.
-/
import VulkanFoundry.NameMap
import VulkanFoundry.EnumValue

namespace VulkanFoundry

/-- A platform and the macro that protects its declarations. -/
structure Platform where
  name : String
  protect : String
  deriving DecidableEq

/-- A header, with the text that includes it. -/
structure IncludeType where
  name : String
  directive : Option String
  deriving DecidableEq

/-- Another name for a declared entity. -/
structure Alias where
  name : String
  target : String
  deriving DecidableEq

/-- A handle, which names an object of the API. -/
structure HandleType where
  name : String
  /-- Dispatchable handles are pointers, the others 64-bit values. -/
  dispatchable : Bool
  parent : Option String
  objectType : Option String
  deriving DecidableEq

structure Member where
  /-- The canonical text of the type. -/
  type : String
  name : String
  /-- The dimensions of a static array, outermost first. -/
  arraySizes : List ArraySize
  /-- The value that the member must hold. -/
  expectedValue : Option String
  /-- The first length given for the member. -/
  len : Option String
  nullTerminated : Bool
  noAutoValidity : Bool
  optional : Bool
  bitFieldWidth : Option UInt32
  /-- The value of a union's discriminator that selects the member. -/
  selection : Option String
  deriving DecidableEq

/-- A struct and how it may be chained to others. -/
structure StructType where
  name : String
  /-- In the order of declaration. -/
  members : List Member
  /-- The structs to whose extension chain this one may be attached. -/
  extended : List String
  returnedOnly : Bool
  deriving DecidableEq

/-- The name of the member that points to the extension chain. -/
def chainLinkMember : String := "pNext"

/-- The first member of the name. -/
def StructType.member? (s : StructType) (name : String) : Option Member :=
  s.members.find? (·.name = name)

/-- Whether the struct carries an extension chain. -/
def StructType.hasChainLink (s : StructType) : Bool :=
  s.members.any (·.name = chainLinkMember)

structure UnionType where
  name : String
  members : List Member
  returnedOnly : Bool
  deriving DecidableEq

structure EnumField where
  name : String
  value : Int64
  /-- The text to write for the value. -/
  representation : String
  /-- Contributed by a version or extension and not by the enum itself. -/
  added : Bool
  deriving DecidableEq

/-- Another name for a field of the same enum, or for another such name. -/
structure EnumFieldAlias where
  name : String
  target : String
  added : Bool
  deriving DecidableEq

/-- An enum, whose fields may be the bits of a word of 32 or 64 bits. -/
structure EnumType where
  name : String
  /-- The enum's own fields in the order of declaration, then those added. -/
  fields : List EnumField
  aliases : NameMap EnumFieldAlias
  bitmask : Bool
  bit64 : Bool
  deriving DecidableEq

namespace EnumType

def field? (e : EnumType) (name : String) : Option EnumField := e.fields.find? (·.name = name)

/-- The field that a name denotes within a number of steps along aliases. -/
def fieldWithin? (e : EnumType) : Nat → String → Option EnumField
  | 0, _ => none
  | steps + 1, name =>
    match e.field? name with
    | some f => some f
    | none =>
      match e.aliases.get? name with
      | some a => e.fieldWithin? steps a.target
      | none => none

/-- The field that a name denotes, directly or through aliases. No path visits an
alias twice before it reaches a field, so the number of aliases bounds the
steps. -/
def resolveAlias? (e : EnumType) (name : String) : Option EnumField :=
  e.fieldWithin? (e.aliases.size + 1) name

end EnumType

/-- A word whose bits are given by an enum. -/
structure BitmaskType where
  name : String
  baseType : String
  /-- The enum that holds the bits. -/
  fieldEnum : Option String
  deriving DecidableEq

structure FunctionArgument where
  type : String
  name : String
  deriving DecidableEq

structure FunctionPointerType where
  name : String
  returnType : String
  arguments : List FunctionArgument
  deriving DecidableEq

/-- A constant or macro. -/
structure Define where
  name : String
  /-- The name with its parameters, for a macro that has some. -/
  signature : Option String
  value : String
  added : Bool
  deriving DecidableEq

/-- Another name for a C type, or for an opaque one when there is no base. -/
structure BaseType where
  name : String
  base : Option String
  deriving DecidableEq

/-- A type that the registry only names. -/
structure ExternalType where
  name : String
  /-- The header that declares it. -/
  header : Option String
  /-- Declared by the C standard headers and not by a platform's. -/
  isCType : Bool
  deriving DecidableEq

/-- A type of any category, an alias of one, or a constant. -/
inductive RegistryType where
  | handle (h : HandleType)
  | handleAlias (a : Alias)
  | struct (s : StructType)
  | structAlias (a : Alias)
  | union (u : UnionType)
  | enum (e : EnumType)
  | enumAlias (a : Alias)
  | bitmask (b : BitmaskType)
  | bitmaskAlias (a : Alias)
  | functionPointer (f : FunctionPointerType)
  | define (d : Define)
  | base (b : BaseType)
  | external (x : ExternalType)
  deriving DecidableEq

namespace RegistryType

def name : RegistryType → String
  | handle h => h.name
  | struct s => s.name
  | union u => u.name
  | enum e => e.name
  | bitmask b => b.name
  | functionPointer f => f.name
  | define d => d.name
  | base b => b.name
  | external x => x.name
  | handleAlias a | structAlias a | enumAlias a | bitmaskAlias a => a.name

def target? : RegistryType → Option String
  | handleAlias a | structAlias a | enumAlias a | bitmaskAlias a => some a.target
  | _ => none

def isAlias (t : RegistryType) : Bool := t.target?.isSome

def category : RegistryType → String
  | handle _ | handleAlias _ => "handle"
  | struct _ | structAlias _ => "struct"
  | union _ => "union"
  | enum _ | enumAlias _ => "enum"
  | bitmask _ | bitmaskAlias _ => "bitmask"
  | functionPointer _ => "funcpointer"
  | define _ => "define"
  | base _ => "basetype"
  | external _ => "external"

/-- The struct that the type is, not following an alias. -/
def struct? : RegistryType → Option StructType
  | struct s => some s
  | _ => none

def enum? : RegistryType → Option EnumType
  | enum e => some e
  | _ => none

def handle? : RegistryType → Option HandleType
  | handle h => some h
  | _ => none

end RegistryType

/-- What must be synchronized outside of a command for a parameter. -/
inductive ExternSync where
  /-- The parameter as a whole. -/
  | whole
  /-- The members that the text names. -/
  | members (text : String)
  deriving DecidableEq

structure CommandParam where
  type : String
  name : String
  optional : Bool
  externSync : Option ExternSync
  /-- The lengths given for the parameter, separated by commas. -/
  len : Option String
  deriving DecidableEq

/-- A command with its results and the queues and buffers it may be recorded for. -/
structure Command where
  name : String
  returnType : String
  params : List CommandParam
  successCodes : List String
  errorCodes : List String
  queues : List String
  bufferLevels : List String
  renderPass : Option String
  deriving DecidableEq

/-- How the value of a contributed field is given. -/
inductive ValueSource where
  | literal (text : String)
  | bitPosition (n : UInt32)
  /-- Without a number, the offset counts in the block of the extension around. -/
  | offset (extensionNumber : Option UInt32) (offset : UInt32) (negative : Bool)
  deriving DecidableEq

inductive EnumAddition where
  | field (extended : String) (source : ValueSource)
  | fieldAlias (extended target : String)
  | constant (value : String)
  deriving DecidableEq

inductive FeatureKind where
  | type
  | enum
  | command
  /-- A feature of a device, which names a struct's member. -/
  | deviceFeature
  deriving DecidableEq

/-- Something that a version or extension requires. -/
structure Feature where
  name : String
  kind : FeatureKind
  addition : Option EnumAddition
  deriving DecidableEq

/-- A version of the API with everything that it requires. -/
structure CoreVersion where
  name : String
  number : String
  features : NameMap Feature
  deriving DecidableEq

/-- A part of what an extension requires, with the condition on which it does. -/
structure Requirement where
  depends : Option String
  features : NameMap Feature
  deriving DecidableEq

/-- An extension of the API that is supported for Vulkan. -/
structure Extension where
  name : String
  number : UInt32
  kind : Option String
  platform : Option String
  promotedTo : Option String
  deprecatedBy : Option String
  depends : Option String
  requirements : List Requirement
  deriving DecidableEq

/-- All features that an extension requires, requirement by requirement. -/
def Extension.features (x : Extension) : List Feature :=
  x.requirements.flatMap fun r => r.features.values

structure FormatComponent where
  name : String
  /-- Missing for compressed formats. -/
  bits : Option UInt32
  numericFormat : String
  planeIndex : Option UInt32
  deriving DecidableEq

structure FormatPlane where
  index : UInt32
  widthDivisor : UInt32
  heightDivisor : UInt32
  compatible : String
  deriving DecidableEq

structure ImageFormat where
  name : String
  formatClass : String
  blockSize : UInt32
  texelsPerBlock : UInt32
  packed : Option UInt32
  chroma : Option String
  spirvFormat : Option String
  components : List FormatComponent
  planes : List FormatPlane
  deriving DecidableEq

/-- A SPIR-V extension with the versions and extensions that enable it. -/
structure SpirvExtension where
  name : String
  versions : List String
  extensions : List String
  deriving DecidableEq

structure SpirvFeature where
  struct : String
  feature : String
  requires : Option String
  deriving DecidableEq

structure SpirvProperty where
  property : String
  member : String
  value : String
  requires : Option String
  deriving DecidableEq

/-- A SPIR-V capability with everything that enables it. -/
structure SpirvCapability where
  name : String
  versions : List String
  extensions : List String
  features : List SpirvFeature
  properties : List SpirvProperty
  deriving DecidableEq

/-- Everything that is declared, by name. -/
structure Registry where
  platforms : NameMap Platform := ∅
  includes : NameMap IncludeType := ∅
  types : NameMap RegistryType := ∅
  commands : NameMap Command := ∅
  commandAliases : NameMap Alias := ∅
  coreVersions : NameMap CoreVersion := ∅
  extensions : NameMap Extension := ∅
  imageFormats : NameMap ImageFormat := ∅
  spirvExtensions : NameMap SpirvExtension := ∅
  spirvCapabilities : NameMap SpirvCapability := ∅
  deriving DecidableEq

namespace Registry

/-- The type declared under the name, which may be an alias. -/
def get? (r : Registry) (name : String) : Option RegistryType := r.types.get? name

/-- The type that the name denotes, following an alias by one hop. -/
def resolve? (r : Registry) (name : String) : Option RegistryType :=
  match r.types.get? name with
  | none => none
  | some t =>
    match t.target? with
    | some target => r.types.get? target
    | none => some t

def struct? (r : Registry) (name : String) : Option StructType :=
  (r.resolve? name).bind RegistryType.struct?

def enum? (r : Registry) (name : String) : Option EnumType :=
  (r.resolve? name).bind RegistryType.enum?

def handle? (r : Registry) (name : String) : Option HandleType :=
  (r.resolve? name).bind RegistryType.handle?

/-- The declared structs, in the order of their names. -/
def structs (r : Registry) : List StructType := r.types.values.filterMap RegistryType.struct?

def handles (r : Registry) : List HandleType := r.types.values.filterMap RegistryType.handle?

/-- The structs that may be attached to the chain of the named one. -/
def extendingStructs (r : Registry) (name : String) : List StructType :=
  r.structs.filter fun s => s.extended.contains name

end Registry
end VulkanFoundry
