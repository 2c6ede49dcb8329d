/-
# Enums and their fields

A block of fields gives one enum its own fields and field aliases, in the order
of declaration. Fields and aliases share one space of names: a name stands for
one value or for one target. Declaring the same field or alias again changes
nothing, so the first declaration decides the text of a value; declaring a
different one is refused.

A block of constants declares each of its entries as a constant.
-/
import VulkanFoundry.Declaration.Basic
import VulkanFoundry.Registry.Basic

namespace VulkanFoundry

namespace EnumType

def addField (e : EnumType) (field : EnumField) : Except LoadError EnumType :=
  if e.aliases.contains field.name then .error (.enumAliasCollision e.name field.name)
  else match e.field? field.name with
    | some existing =>
      if existing.value = field.value then .ok e
      else .error (.conflictingEnumValue e.name field.name existing.value field.value)
    | none => .ok { e with fields := e.fields ++ [field] }

def addAlias (e : EnumType) (a : EnumFieldAlias) : Except LoadError EnumType :=
  if (e.field? a.name).isSome then .error (.enumAliasCollision e.name a.name)
  else match e.aliases.get? a.name with
    | some existing =>
      if existing.target = a.target then .ok e
      else .error (.duplicateName "enum field alias" a.name)
    | none => .ok { e with aliases := e.aliases.insert a.name a }

end EnumType

/-- The value of a field that is no alias. -/
def EnumElement.fieldValue (e : EnumElement) (name : String) (bit64 : Bool) :
    Except LoadError EnumValue :=
  match e.value, e.bitPosition with
  | some literal, _ => EnumValue.ofLiteral literal
  | none, some position => do
    EnumValue.ofBitPosition (← Attribute.readNumber "bitpos" position) bit64
  | none, none => .error (.missingAttribute "value|bitpos|alias" name)

/-- How many of value, bit position and alias an element gives. -/
def EnumElement.declarations (e : EnumElement) : Nat :=
  ([e.value, e.bitPosition, e.target].filter Option.isSome).length

def EnumType.addElement (enum : EnumType) (e : EnumElement) : Except LoadError EnumType := do
  let name ← Attribute.required "name" enum.name e.name
  if e.declarations > 1 then .error (.invalidElement name .severalValues)
  else match e.target with
    | some target => enum.addAlias { name, target, added := false }
    | none => do
      let v ← e.fieldValue name enum.bit64
      enum.addField { name, value := v.value, representation := v.representation, added := false }

def EnumBlock.vulkanEntries (b : EnumBlock) : List EnumElement :=
  b.entries.filter fun e => Attribute.supportsVulkan e.api

def EnumBlock.isBitmask (b : EnumBlock) (name : String) : Except LoadError Bool :=
  match b.kind with
  | some "enum" => .ok false
  | some "bitmask" => .ok true
  | other => .error (.unknownEnumKind name (other.getD ""))

def EnumBlock.isBit64 (b : EnumBlock) (name : String) : Except LoadError Bool :=
  match b.bitWidth with
  | none => .ok false
  | some "32" => .ok false
  | some "64" => .ok true
  | some other => .error (.unsupportedBitWidth name other)

def EnumType.ofBlock (name : String) (b : EnumBlock) : Except LoadError EnumType := do
  let bitmask ← b.isBitmask name
  let bit64 ← b.isBit64 name
  b.vulkanEntries.foldlM EnumType.addElement { name, fields := [], aliases := ∅, bitmask, bit64 }

/-- An enum that was declared without a block of fields. -/
def EnumType.withoutFields (name : String) : EnumType :=
  { name, fields := [], aliases := ∅, bitmask := false, bit64 := false }

def constantsBlockName : String := "API Constants"

def EnumBlock.holdsConstants (b : EnumBlock) (name : String) : Bool :=
  name = constantsBlockName || b.kind = some "constants"

/-- The constant that an entry declares: its value, or what it is an alias of. -/
def Define.ofConstant (e : EnumElement) : Except LoadError Define := do
  let name ← Attribute.required "name" constantsBlockName e.name
  let value ← Attribute.required "value" name (e.value.or e.target)
  return { name, signature := none, value, added := false }

end VulkanFoundry
