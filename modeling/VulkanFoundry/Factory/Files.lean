/-
# The files of the factories

The header declares all factory classes, first by name and then in full, the
source file defines their methods, and the test file tests them. Code of a
factory that exists under macros alone stands under their condition, but for
the declaration by name.
-/
import VulkanFoundry.Factory.ClassOf
import VulkanFoundry.Factory.Prelude
import VulkanFoundry.Factory.Test

namespace VulkanFoundry

open Code (unlines protect)

/-- The planned factories, with what their files need to know. -/
structure FactorySet where
  registry : Registry
  codeNamespace : String
  plans : List FactoryPlan

namespace FactorySet

def targetName : String := "struct_factories"

/-- The factories that a configuration asks for. -/
def ofConfiguration (r : Registry) (c : Configuration) : Except GenerationError FactorySet := do
  return { registry := r, codeNamespace := c.codeNamespace, plans := ← r.planFactories c }

def structNames (f : FactorySet) : List String := f.plans.map FactoryPlan.name

def standardHeaders : List String :=
  ["array", "cstddef", "cstdint", "cstring", "memory", "new", "string", "vector"]

def declarationOf (p : FactoryPlan) : Except GenerationError String :=
  p.factoryClass.map fun c => "\n" ++ protect p.guards c.declaration

def definitionsOf (p : FactoryPlan) : Except GenerationError String :=
  p.factoryClass.map fun c => "\n" ++ protect p.guards c.definitions

/-- The header, which fails where the default of a member cannot be expressed. -/
def header (f : FactorySet) : Except GenerationError String := do
  let declarations ← f.plans.mapM declarationOf
  return Code.generatedHeader targetName ++
    unlines (["", "#pragma once", ""] ++ standardHeaders.map (fun h => "#include <" ++ h ++ ">") ++
      ["", "#include <vulkan/vulkan.h>", ""]) ++
    Code.openNamespace f.codeNamespace ++ "\n" ++ Prelude.text ++ "\n" ++
    unlines (f.plans.map fun p => "class " ++ p.factory ++ ";") ++
    String.join declarations ++ "\n" ++ Code.closeNamespace f.codeNamespace

/-- The source file, which fails where the header does. -/
def source (f : FactorySet) : Except GenerationError String := do
  let definitions ← f.plans.mapM definitionsOf
  return Code.generatedHeader targetName ++
    unlines ["", "#include \"" ++ targetName ++ ".h\"", ""] ++
    Code.openNamespace f.codeNamespace ++ String.join definitions ++ "\n" ++
    Code.closeNamespace f.codeNamespace

def testsOf (f : FactorySet) (p : FactoryPlan) : String :=
  "\n" ++ protect p.guards p.defaultsTest ++
    match chainTestLinks? f.registry f.plans p with
    | some (first, second) => "\n" ++ guardedChainTest p first second
    | none => ""

/-- The test file up to the tests. -/
def testsOpening (f : FactorySet) : String :=
  Code.generatedHeader targetName ++
    unlines ["", "#include \"" ++ targetName ++ ".h\"", "", "#include <memory>", "",
      "#include <gtest/gtest.h>", "", "using namespace " ++ f.codeNamespace ++ ";"]

def tests (f : FactorySet) : String :=
  f.testsOpening ++ String.join (f.plans.map f.testsOf) ++ "\n" ++ Code.testMain

end FactorySet
end VulkanFoundry
