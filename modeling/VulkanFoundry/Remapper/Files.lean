/-
# The files of the handle remapper

One class remaps the handles of every type that the registry declares. Its
tests add, remap and remove a handle of every type.
-/
import VulkanFoundry.Remapper.Handle

namespace VulkanFoundry

open Code (unlines)

/-- The handles to remap, and the namespace of the class. -/
structure HandleRemapper where
  handles : List HandleType
  codeNamespace : String

namespace HandleRemapper

def targetName : String := "handle_remapper"

def className : String := "HandleRemapper"

def declarations : List String :=
  [className ++ "() = default;\n",
    className ++ "(const " ++ className ++ "&) = delete;\n",
    className ++ "& operator=(const " ++ className ++ "&) = delete;\n\n",
    Code.exceptionDeclaration inconsistency "std::exception",
    Code.exceptionDeclaration collision "std::exception",
    Code.exceptionDeclaration redefinition collision,
    Code.exceptionDeclaration unknownRemoval "std::exception",
    Code.exceptionDeclaration unknownRemap "std::exception",
    "\n"]

def remapperClass (m : HandleRemapper) : Code.Class :=
  { name := className
    declarations := declarations
    methods := m.handles.flatMap fun h => [addMethod h, removeMethod h, remapMethod h]
    fields := m.handles.flatMap fieldsOf }

/-- The header, which declares the class. -/
def header (m : HandleRemapper) : String :=
  Code.generatedHeader targetName ++
    unlines ["", "#pragma once", "", "#include <cstdint>", "#include <exception>",
      "#include <map>", ""] ++
    Code.openNamespace m.codeNamespace ++
    unlines ["", "using " ++ handleTypeName ++ " = uint64_t;", ""] ++
    m.remapperClass.declaration ++ "\n" ++ Code.closeNamespace m.codeNamespace

def source (m : HandleRemapper) : String :=
  Code.generatedHeader targetName ++
    unlines ["", "#include \"" ++ targetName ++ ".h\"", ""] ++
    Code.openNamespace m.codeNamespace ++ "\n" ++ m.remapperClass.definitions ++ "\n" ++
    Code.closeNamespace m.codeNamespace

def testHead (handle case : String) : String :=
  "TEST(" ++ className ++ ", " ++ handle ++ case ++ ") \x7b"

/-- A call that must not throw. -/
def expectPass (call : String) : String := "  EXPECT_NO_THROW(mapper." ++ call ++ ");"

/-- A call that must throw an exception of the class. -/
def expectThrow (call exception : String) : String :=
  "  EXPECT_THROW(mapper." ++ call ++ ", " ++ className ++ "::" ++ exception ++ ");"

def testsOf (h : HandleType) : String :=
  let add := addName h.name
  let remove := removeName h.name
  let remap := remapName h.name
  let mapper := "  " ++ className ++ " mapper;"
  let found := "  EXPECT_EQ(mapper." ++ remap ++ "(1234), 5678u);"
  unlines ([
    "",
    testHead h.name "BasicRemap",
    mapper,
    expectThrow (remap ++ "(1234)") unknownRemap,
    expectPass (add ++ "(1234, 5678)"),
    found,
    expectPass (remove ++ "(1234)"),
    expectThrow (remap ++ "(1234)") unknownRemap,
    "\x7d",
    "",
    testHead h.name "UnknownRemap",
    mapper,
    expectPass (add ++ "(1234, 5678)"),
    expectThrow (remap ++ "(5678)") unknownRemap,
    expectThrow (remove ++ "(5678)") unknownRemoval,
    "\x7d",
    ""] ++
    if h.dispatchable then [
      testHead h.name "RedefinitionCollides",
      mapper,
      expectPass (add ++ "(1234, 5678)"),
      expectThrow (add ++ "(1234, 5678)") collision,
      expectThrow (add ++ "(1234, 8765)") collision,
      found,
      expectPass (remove ++ "(1234)"),
      expectThrow (remove ++ "(1234)") unknownRemoval,
      expectThrow (remap ++ "(1234)") unknownRemap,
      "\x7d"]
    else [
      testHead h.name "RedefinitionIsCounted",
      mapper,
      expectPass (add ++ "(1234, 5678)"),
      expectPass (add ++ "(1234, 5678)"),
      expectThrow (add ++ "(1234, 8765)") redefinition,
      expectThrow (add ++ "(1234, 8765)") collision,
      expectPass (remove ++ "(1234)"),
      found,
      expectPass (remove ++ "(1234)"),
      expectThrow (remap ++ "(1234)") unknownRemap,
      expectThrow (remove ++ "(1234)") unknownRemoval,
      "\x7d"])

def tests (m : HandleRemapper) : String :=
  Code.generatedHeader targetName ++
    unlines ["", "#include \"" ++ targetName ++ ".h\"", "", "#include <gtest/gtest.h>", "",
      "using namespace " ++ m.codeNamespace ++ ";"] ++
    String.join (m.handles.map testsOf) ++ "\n" ++ Code.testMain

end HandleRemapper
end VulkanFoundry
