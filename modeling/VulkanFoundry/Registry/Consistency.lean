/-
# References between declarations

A registry is consistent when every name it refers to is declared: alias
targets, the types of members, arguments, parameters and results, the constants
in array dimensions, the parents of handles, the enums of bitmasks, the targets
of field aliases, and the types and commands that versions and extensions
require. An alias must not point at an alias, but for commands and enum fields.
Types are checked in the order of their names, then commands, versions and
extensions; the first reference that fails is reported.
-/
import VulkanFoundry.Registry.Basic

namespace VulkanFoundry
namespace Registry

def expectType (r : Registry) (referencedBy type : String) : Except LoadError Unit :=
  let name := TypeText.plainName type
  if (r.resolve? name).isSome then .ok ()
  else .error (.unresolvedReference name referencedBy)

def checkArraySize (r : Registry) (referencedBy : String) : ArraySize → Except LoadError Unit
  | .literal _ => .ok ()
  | .constant name =>
    match r.get? name with
    | some (.define _) => .ok ()
    | _ => .error (.unresolvedReference name referencedBy)

def checkMember (r : Registry) (owner : String) (m : Member) : Except LoadError Unit := do
  let place := owner ++ "::" ++ m.name
  r.expectType place m.type
  m.arraySizes.forM (r.checkArraySize place)

/-- Checks that an alias points at a declared type that is no alias. -/
def checkAlias (r : Registry) (a : Alias) : Except LoadError Unit :=
  match r.get? a.target with
  | none => .error (.unresolvedReference a.target a.name)
  | some t => if t.isAlias then .error (.aliasChain a.name a.target) else .ok ()

/-- Checks that an alias of an enum's field leads to a field. -/
def checkFieldAlias (e : EnumType) (a : EnumFieldAlias) : Except LoadError Unit :=
  if (e.resolveAlias? a.target).isSome then .ok ()
  else .error (.unresolvedReference a.target (e.name ++ "::" ++ a.name))

def checkType (r : Registry) : RegistryType → Except LoadError Unit
  | .handleAlias a | .structAlias a | .enumAlias a | .bitmaskAlias a => r.checkAlias a
  | .struct s => s.members.forM (r.checkMember s.name)
  | .union u => u.members.forM (r.checkMember u.name)
  | .functionPointer f => do
    r.expectType f.name f.returnType
    f.arguments.forM fun a => r.expectType f.name a.type
  | .bitmask b => do
    r.expectType b.name b.baseType
    b.fieldEnum.toList.forM (r.expectType b.name)
  | .enum e => e.aliases.values.forM (checkFieldAlias e)
  | .handle h => (Attribute.list h.parent).forM (r.expectType h.name)
  | .define _ | .base _ | .external _ => .ok ()

def isCommand (r : Registry) (name : String) : Bool :=
  r.commands.contains name || r.commandAliases.contains name

/-- Checks that an alias leads to a command or to another alias of one. -/
def checkCommandAlias (r : Registry) (a : Alias) : Except LoadError Unit :=
  if r.isCommand a.target then .ok () else .error (.unresolvedReference a.target a.name)

def checkCommand (r : Registry) (c : Command) : Except LoadError Unit := do
  r.expectType c.name c.returnType
  c.params.forM fun p => r.expectType (c.name ++ "(" ++ p.name ++ ")") p.type

/-- Whether a required feature is known. Contributions to enums were checked when
they were made, and features of devices name no declaration. -/
def knowsFeature (r : Registry) (f : Feature) : Bool :=
  match f.kind with
  | .type => r.types.contains f.name || r.includes.contains f.name
  | .command => r.isCommand f.name
  | .enum | .deviceFeature => true

def checkFeature (r : Registry) (owner : String) (f : Feature) : Except LoadError Unit :=
  if r.knowsFeature f then .ok () else .error (.unresolvedReference f.name owner)

def checkReferences (r : Registry) : Except LoadError Unit := do
  r.types.values.forM r.checkType
  r.commandAliases.values.forM r.checkCommandAlias
  r.commands.values.forM r.checkCommand
  r.coreVersions.values.forM fun v => v.features.values.forM (r.checkFeature v.name)
  r.extensions.values.forM fun x => x.features.forM (r.checkFeature x.name)

end Registry
end VulkanFoundry
