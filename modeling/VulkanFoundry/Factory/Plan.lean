/-
# Plans of factory classes

A factory is planned for every selected struct: the struct, its members with
their stored types, and the macros under which it exists. The plans stand in the
order of the structs' dependencies, which is the order of the generated code.
-/
import VulkanFoundry.Selection.Order
import VulkanFoundry.Selection.Policy
import VulkanFoundry.Storage.Mapping

namespace VulkanFoundry

/-- A member with the type in which it is stored. -/
structure PlannedMember where
  member : Member
  stored : StoredType
  deriving DecidableEq

structure FactoryPlan where
  source : StructType
  members : List PlannedMember
  guards : List String
  deriving DecidableEq

namespace FactoryPlan

def name (p : FactoryPlan) : String := p.source.name

def factory (p : FactoryPlan) : String := Code.factoryName p.source.name

def ofStruct (r : Registry) (guards : List String) (s : StructType) :
    Except GenerationError FactoryPlan := do
  let members ← s.members.mapM fun m => do
    return { member := m, stored := ← r.storeMember s.name m }
  return { source := s, members, guards }

end FactoryPlan

def Registry.planSelection (r : Registry) (s : Selection) :
    Except GenerationError (List FactoryPlan) :=
  ((r.sequence s.structs).filterMap fun name =>
    (r.struct? name).map fun struct => (s.guardsOf name, struct)).mapM
      fun e => FactoryPlan.ofStruct r e.1 e.2

/-- The plans for what a configuration selects. -/
def Registry.planFactories (r : Registry) (c : Configuration) :
    Except GenerationError (List FactoryPlan) := do
  r.planSelection (← r.select c)

end VulkanFoundry
