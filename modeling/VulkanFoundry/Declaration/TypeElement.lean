/-
# Types by category

What a type element declares depends on its category. Handles, structs, enums
and bitmasks may be declared as an alias, and then nothing but the name and the
target is looked at. An element without category names a type from elsewhere.
An enum element declares only the name; its fields are given in a block of
their own.
-/
import VulkanFoundry.Declaration.Member
import VulkanFoundry.Declaration.FunctionPointer

namespace VulkanFoundry

/-- What a type element declares. -/
inductive Declared where
  | header (h : IncludeType)
  /-- An enum whose fields are given elsewhere. -/
  | enumName (name : String)
  | type (t : RegistryType)

def TypeElement.alias? (e : TypeElement) : Except LoadError (Option Alias) :=
  match e.target with
  | some target => do
    let name ← Attribute.required "name" "alias type" e.name
    return some { name, target }
  | none => .ok none

/-- A type that is declared elsewhere: by the C standard headers when no header
or the platform header is named. -/
def ExternalType.ofElement (e : TypeElement) : Except LoadError ExternalType := do
  let name ← Attribute.required "name" "external type" e.name
  let isCType := match e.requires with
    | none => true
    | some header => header = "vk_platform"
  return { name, header := e.requires, isCType }

/-- A header, named by a tag or else by the attribute. -/
def IncludeType.ofElement (e : TypeElement) : Except LoadError IncludeType := do
  let fragments := e.fragments
  let tagged := (fragments.findSome? Fragment.name?).map Text.trimmed
  match tagged.or e.name with
  | none => .error (.missingElement "name" "include")
  | some name =>
    let directive := Text.trimmed (allText fragments)
    return { name, directive := if directive = "" then none else some directive }

/-- The text up to the first comment of the kind that ends with its line. -/
def beforeLineComment (cs : List Char) : List Char :=
  match Text.splitAtFirst? ['/', '/'] cs with
  | some (before, _) => before
  | none => cs

/-- A constant or macro. With a name attribute the whole text is the value.
Otherwise the value is what follows the name tag, less the parameter list of a
macro and a comment. -/
def Define.ofElement (e : TypeElement) : Except LoadError Define :=
  match e.name with
  | some name =>
    .ok { name, signature := none, value := Text.trimmed (allText e.fragments), added := false }
  | none =>
    match splitAtName? e.fragments with
    | none => .error (.missingElement "name" "define")
    | some (_, name, after) =>
      let text := (allText after).toList
      let (signature, value) :=
        match text.head?, Text.splitAtFirst? [')'] text with
        | some '(', some (params, rest) =>
          (some (name ++ String.ofList params ++ ")"), rest)
        | _, _ => (none, text)
      .ok {
        name, signature
        value := String.ofList (Text.trim (beforeLineComment value))
        added := false }

/-- Another name for a C type; the words that lead up to it are not part of the
type. -/
def BaseType.ofElement (e : TypeElement) : Except LoadError BaseType := do
  let d := Declaration.ofFragments e.fragments
  let name ← d.requireName "basetype"
  return { name, base := d.base.map fun base => TypeText.assemble "" base d.tail }

/-- A bitmask; the enum of its bits is named by either of two attributes. -/
def BitmaskType.ofElement (e : TypeElement) : Except LoadError BitmaskType := do
  let d := Declaration.ofFragments e.fragments
  let name ← d.requireName "bitmask"
  let baseType ← d.requireBase name
  return { name, baseType, fieldEnum := e.requires.or e.bitValues }

/-- A handle, defined by one of two macros. -/
def HandleType.ofElement (e : TypeElement) : Except LoadError HandleType := do
  let d := Declaration.ofFragments e.fragments
  let name ← d.requireName "handle"
  let definer ← d.requireBase name
  if definer = "VK_DEFINE_HANDLE" then
    return { name, dispatchable := true, parent := e.parent, objectType := e.objectType }
  else if definer = "VK_DEFINE_NON_DISPATCHABLE_HANDLE" then
    return { name, dispatchable := false, parent := e.parent, objectType := e.objectType }
  else .error (.invalidElement name .unknownDefiner)

def StructType.ofElement (e : TypeElement) : Except LoadError StructType := do
  let name ← Attribute.required "name" "struct" e.name
  let members ← e.members name
  return {
    name, members
    extended := Attribute.list e.structExtends
    returnedOnly := Attribute.isTrue e.returnedOnly }

def UnionType.ofElement (e : TypeElement) : Except LoadError UnionType := do
  let name ← Attribute.required "name" "union" e.name
  let members ← e.members name
  return { name, members, returnedOnly := Attribute.isTrue e.returnedOnly }

/-- An alias where the element has a target, and else what the element
declares. -/
def TypeElement.aliasOr (e : TypeElement) (ofAlias : Alias → RegistryType)
    (otherwise : Except LoadError Declared) : Except LoadError Declared := do
  match ← e.alias? with
  | some a => return .type (ofAlias a)
  | none => otherwise

def Declared.ofElement (e : TypeElement) : Except LoadError Declared :=
  match e.category with
  | none => (ExternalType.ofElement e).map (.type ∘ .external)
  | some "include" => (IncludeType.ofElement e).map .header
  | some "define" => (Define.ofElement e).map (.type ∘ .define)
  | some "basetype" => (BaseType.ofElement e).map (.type ∘ .base)
  | some "bitmask" => e.aliasOr .bitmaskAlias ((BitmaskType.ofElement e).map (.type ∘ .bitmask))
  | some "enum" =>
    e.aliasOr .enumAlias ((Attribute.required "name" "enum type" e.name).map .enumName)
  | some "handle" => e.aliasOr .handleAlias ((HandleType.ofElement e).map (.type ∘ .handle))
  | some "struct" => e.aliasOr .structAlias ((StructType.ofElement e).map (.type ∘ .struct))
  | some "union" => (UnionType.ofElement e).map (.type ∘ .union)
  | some "funcpointer" =>
    (FunctionPointerType.ofElement e).map (.type ∘ .functionPointer)
  | some other => .error (.unknownCategory (e.name.getD "") other)

end VulkanFoundry
