/-
# The factory class of a struct

A factory class has a constructor that sets the defaults, a setter and a getter
for every member, the sizes of the struct and of the chain behind it, and the
functions that generate the struct. Setters, getters and fields all use the
stored type.
-/
import VulkanFoundry.Code.Class
import VulkanFoundry.Factory.Statement

namespace VulkanFoundry

open Code (Method unlines)

namespace PlannedMember

def setter (m : PlannedMember) : Method :=
  { name := Code.setterName m.member.name
    returnType := "void"
    args := [⟨m.stored.accessorType, "value"⟩]
    body := m.field ++ " = value;\n" }

def getter (m : PlannedMember) : Method :=
  { name := Code.getterName m.member.name
    returnType := m.stored.accessorType
    isConst := true
    body := "return " ++ m.field ++ ";\n" }

end PlannedMember

namespace FactoryPlan

/-- The constructor, which sets the given defaults. -/
def constructorWith (p : FactoryPlan) (defaults : List String) : Method :=
  { name := p.factory, body := unlines defaults }

def sizeMethod (p : FactoryPlan) : Method :=
  { name := "Size", returnType := "size_t", isConst := true, isOverride := true
    body := "return sizeof(" ++ p.name ++ ");\n" }

def chainSizeMethod (p : FactoryPlan) : Method :=
  let link := Code.fieldName chainLinkMember
  { name := "ChainSize", returnType := "size_t", isConst := true, isOverride := true
    body :=
      if p.source.hasChainLink then
        "return " ++ link ++ " ? " ++ link ++ "->ChainLinkSize() : 0;\n"
      else "return 0;\n" }

def generateMethod (p : FactoryPlan) : Method :=
  { name := "Generate", returnType := p.name, args := [⟨"Sidecar", "sidecar"⟩], isConst := true
    body :=
      unlines [p.name ++ " out;", "std::memset(&out, 0, sizeof(out));"] ++
        String.join (p.members.map PlannedMember.generateStatement) ++ "return out;\n" }

/-- The function that generates the struct as a link of a chain. -/
def generateLinkMethod (p : FactoryPlan) : Method :=
  { name := "GenerateChainLink", returnType := "void*", args := [⟨"Sidecar", "sidecar"⟩]
    isConst := true, isOverride := true
    body :=
      unlines [
        p.name ++ "* link = sidecar.Allocate<" ++ p.name ++ ">(1);",
        "*link = Generate(sidecar.Subordinate());",
        "return link;"] }

def defaults (p : FactoryPlan) : Except GenerationError (List String) := do
  let statements ← p.members.mapM (PlannedMember.defaultStatement p.name)
  return statements.filterMap id

/-- The class without looking at the defaults. -/
def classWith (p : FactoryPlan) (defaults : List String) : Code.Class :=
  { name := p.factory
    bases := ["ChainLink"]
    methods :=
      p.constructorWith defaults :: p.members.flatMap (fun m => [m.setter, m.getter]) ++
        [p.sizeMethod, p.chainSizeMethod, p.generateMethod, p.generateLinkMethod]
    fields := p.members.map fun m => ⟨m.stored.expr, m.field⟩ }

def factoryClass (p : FactoryPlan) : Except GenerationError Code.Class :=
  p.defaults.map p.classWith

end FactoryPlan
end VulkanFoundry
