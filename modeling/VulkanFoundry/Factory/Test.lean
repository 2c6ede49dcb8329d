/-
# Tests of the factories

Every factory has a test of its defaults and sizes. A factory of a struct with
an extension chain also has a test that attaches a chain of two links, if a
selected struct that has a chain itself extends the struct. Then the first two
such structs are the links, or one such struct is both.

A chain test exists only where the factories of the struct and of both links
exist.
-/
import VulkanFoundry.Factory.Plan
import VulkanFoundry.Code.Layout

namespace VulkanFoundry

open Code (unlines protect)

namespace FactoryPlan

/-- The members that have to hold a value, with the value. -/
def expectedValues (p : FactoryPlan) : List (String × String) :=
  p.members.filterMap fun m => m.member.expectedValue.map fun value => (m.member.name, value)

/-- What the test of the defaults expects of the generated struct. -/
def defaultExpectations (m : PlannedMember) : List String :=
  (if m.stored.storage = .chainLink then ["  EXPECT_EQ(out." ++ m.member.name ++ ", nullptr);"]
    else []) ++
  (m.member.expectedValue.map fun value =>
    "  EXPECT_EQ(out." ++ m.member.name ++ ", " ++ value ++ ");").toList

/-- The test of defaults and sizes. -/
def defaultsTest (p : FactoryPlan) : String :=
  unlines ([
    "TEST(" ++ p.factory ++ ", DefaultsAndSize) \x7b",
    "  " ++ p.factory ++ " factory;",
    "  EXPECT_EQ(factory.Size(), sizeof(" ++ p.name ++ "));",
    "  EXPECT_EQ(factory.ChainSize(), 0u);"] ++
    p.expectedValues.map (fun e =>
      "  EXPECT_EQ(factory." ++ Code.getterName e.1 ++ "(), " ++ e.2 ++ ");") ++ [
    "  Sidecar sidecar;",
    "  " ++ p.name ++ " out = factory.Generate(sidecar);"] ++
    p.members.flatMap defaultExpectations ++ [
    "\x7d"])

/-- What a chain test expects of the link behind a pointer. -/
def linkExpectations (p : FactoryPlan) (pointer : String) : List String :=
  p.expectedValues.map fun e => "  EXPECT_EQ(" ++ pointer ++ "->" ++ e.1 ++ ", " ++ e.2 ++ ");"

/-- The test that attaches a chain of two links. -/
def chainTest (p first second : FactoryPlan) : String :=
  let setLink := Code.setterName chainLinkMember
  let next := chainLinkMember
  unlines ([
    "TEST(" ++ p.factory ++ ", ChainMaterialization) \x7b",
    "  " ++ p.factory ++ " factory;",
    "  auto first = std::make_shared<" ++ first.factory ++ ">();",
    "  auto second = std::make_shared<" ++ second.factory ++ ">();",
    "  first->" ++ setLink ++ "(second);",
    "  factory." ++ setLink ++ "(first);",
    "  EXPECT_EQ(factory.ChainSize(), AlignToPointer(sizeof(" ++ first.name ++
      ")) + AlignToPointer(sizeof(" ++ second.name ++ ")));",
    "  Sidecar sidecar;",
    "  " ++ p.name ++ " out = factory.Generate(sidecar);",
    "  EXPECT_GE(sidecar.BlockCount(), 2u);",
    "  ASSERT_NE(out." ++ next ++ ", nullptr);",
    "  const auto* next = static_cast<const " ++ first.name ++ "*>(out." ++ next ++ ");"] ++
    first.linkExpectations "next" ++ [
    "  ASSERT_NE(next->" ++ next ++ ", nullptr);",
    "  const auto* last = static_cast<const " ++ second.name ++ "*>(next->" ++ next ++ ");"] ++
    second.linkExpectations "last" ++ [
    "  EXPECT_EQ(last->" ++ next ++ ", nullptr);",
    "\x7d"])

end FactoryPlan

def findPlan? (plans : List FactoryPlan) (name : String) : Option FactoryPlan :=
  plans.find? (·.name = name)

/-- The plans of the two links in the chain test of a plan, if it has one. -/
def chainTestLinks? (r : Registry) (plans : List FactoryPlan) (p : FactoryPlan) :
    Option (FactoryPlan × FactoryPlan) :=
  if p.source.hasChainLink then
    match ((r.extendingStructs p.name).filter StructType.hasChainLink).filterMap
        fun s => findPlan? plans s.name with
    | [] => none
    | [link] => some (link, link)
    | first :: second :: _ => some (first, second)
  else none

/-- The chain test under the conditions of all three factories. -/
def guardedChainTest (p first second : FactoryPlan) : String :=
  let test := protect first.guards (p.chainTest first second)
  protect p.guards (if second.name = first.name then test else protect second.guards test)

end VulkanFoundry
