/-
# Contributions to enums

Versions and extensions add fields and field aliases to enums that are declared
anywhere, and constants of their own. Each addition is a contribution; they are
taken version by version and then extension by extension, each in the order of
the names, and applied one after another.

A contribution changes one enum, or adds one constant, and nothing else. Making
the same one again changes nothing.
-/
import VulkanFoundry.Declaration.EnumBlock

namespace VulkanFoundry

/-- An addition to an enum or to the constants. -/
structure Contribution where
  /-- The version or extension that makes it. -/
  origin : String
  /-- The number of the extension that makes it. -/
  extensionNumber : Option UInt32
  name : String
  addition : EnumAddition
  deriving DecidableEq

def Contribution.ofFeatures (origin : String) (extensionNumber : Option UInt32)
    (features : List Feature) : List Contribution :=
  features.filterMap fun f =>
    f.addition.map fun addition => ⟨origin, extensionNumber, f.name, addition⟩

/-- All contributions that a registry's versions and extensions make. -/
def Registry.contributions (r : Registry) : List Contribution :=
  r.coreVersions.values.flatMap (fun v => Contribution.ofFeatures v.name none v.features.values) ++
    r.extensions.values.flatMap fun x => Contribution.ofFeatures x.name (some x.number) x.features

/-- The name of the enum that an extended name denotes. -/
def Registry.extendedName (r : Registry) (name : String) : String :=
  match r.types.get? name with
  | some (.enumAlias a) => a.target
  | _ => name

namespace Contribution

/-- Where a contribution comes from, for error messages. -/
def place (c : Contribution) : String := c.name ++ " in " ++ c.origin

def fieldValue (c : Contribution) (source : ValueSource) (bit64 : Bool) :
    Except LoadError EnumValue :=
  match source with
  | .literal text => EnumValue.ofLiteral text
  | .bitPosition n => EnumValue.ofBitPosition n bit64
  | .offset extensionNumber offset negative =>
    match extensionNumber.or c.extensionNumber with
    | some number => EnumValue.ofOffset number offset negative
    | none => .error (.missingAttribute "extnumber" c.place)

/-- The registry with a constant added, or as it is if the constant has the value
already. -/
def addConstant (r : Registry) (name value : String) : Except LoadError Registry :=
  match r.types.get? name with
  | some (.define d) =>
    if d.value = value then .ok r else .error (.duplicateName "constant" name)
  | some _ => .error (.duplicateName "constant" name)
  | none =>
    .ok { r with
      types := r.types.insert name (.define { name, signature := none, value, added := true }) }

def changeEnum (c : Contribution) (r : Registry) (extended : String)
    (change : EnumType → Except LoadError EnumType) : Except LoadError Registry :=
  let key := r.extendedName extended
  match r.types.get? key with
  | some (.enum e) => do
    let e' ← change e
    return { r with types := r.types.insert key (.enum e') }
  | _ => .error (.unresolvedReference extended c.place)

def apply (r : Registry) (c : Contribution) : Except LoadError Registry :=
  match c.addition with
  | .constant value => addConstant r c.name value
  | .field extended source =>
    c.changeEnum r extended fun e => do
      let v ← c.fieldValue source e.bit64
      e.addField { name := c.name, value := v.value, representation := v.representation, added := true }
  | .fieldAlias extended target =>
    c.changeEnum r extended fun e => e.addAlias { name := c.name, target, added := true }

end Contribution

def Registry.withContributions (r : Registry) : Except LoadError Registry :=
  r.contributions.foldlM Contribution.apply r

end VulkanFoundry
