/-
# Remapping of one handle type

The generated remapper replaces handles that were recorded by the handles that
stand for them now. For each handle type it has a method to add a pair, to
remove one and to look one up. A dispatchable handle is unique, so adding it
twice is an error. Other handles are counted: a handle may be added again with
the same value, and is forgotten when it was removed as often.
-/
import VulkanFoundry.Code.Class
import VulkanFoundry.Registry.Basic
import VulkanFoundry.Text.LetterCase

namespace VulkanFoundry
namespace HandleRemapper

open Code (Argument Method unlines)

/-- The C++ type of every handle. -/
def handleTypeName : String := "VulkanHandle"

/-- Thrown where handles and counts do not fit together. -/
def inconsistency : String := "InternalConsistencyException"

/-- Thrown where a unique handle is added twice. -/
def collision : String := "HandleCollisionException"

/-- Thrown where a counted handle is added with another value. -/
def redefinition : String := "HandleRedefinitionException"

/-- Thrown where a handle is removed that was not added. -/
def unknownRemoval : String := "UnknownHandleRemovalException"

/-- Thrown where a handle is looked up that was not added. -/
def unknownRemap : String := "UnknownHandleRemapException"

def addName (handle : String) : String := "Add" ++ Text.upperFirst handle ++ "Handle"

def removeName (handle : String) : String := "Remove" ++ Text.upperFirst handle ++ "Handle"

def remapName (handle : String) : String := "Remap" ++ Text.upperFirst handle ++ "Handle"

/-- The field that maps recorded handles to present ones. -/
def handlesField (handle : String) : String := Text.lowerFirst handle ++ "Handles_"

/-- The field that counts how often handles were added. -/
def countsField (handle : String) : String := Text.lowerFirst handle ++ "RefCounts_"

def throwing (exception : String) : String := "throw " ++ exception ++ "();"

/-- Adding counts a handle that is not unique, and refuses a unique one that is there. -/
def addBody (h : HandleType) : String :=
  let map := handlesField h.name
  let counts := countsField h.name
  if h.dispatchable then
    unlines [
      "if (" ++ map ++ ".count(captureHandle) != 0) " ++ throwing collision,
      map ++ "[captureHandle] = replayHandle;"]
  else
    unlines [
      "auto handle = " ++ map ++ ".find(captureHandle);",
      "auto count = " ++ counts ++ ".find(captureHandle);",
      "if (handle == " ++ map ++ ".end()) \x7b",
      "  if (count != " ++ counts ++ ".end()) " ++ throwing inconsistency,
      "  " ++ map ++ ".emplace(captureHandle, replayHandle);",
      "  " ++ counts ++ ".emplace(captureHandle, 1);",
      "  return;",
      "\x7d",
      "if (count == " ++ counts ++ ".end() || count->second == 0) " ++ throwing inconsistency,
      "if (handle->second != replayHandle) " ++ throwing redefinition,
      "++count->second;"]

/-- Removing forgets a handle that is unique or was removed as often as added. -/
def removeBody (h : HandleType) : String :=
  let map := handlesField h.name
  let counts := countsField h.name
  if h.dispatchable then
    unlines ["if (" ++ map ++ ".erase(captureHandle) == 0) " ++ throwing unknownRemoval]
  else
    unlines [
      "auto handle = " ++ map ++ ".find(captureHandle);",
      "auto count = " ++ counts ++ ".find(captureHandle);",
      "if (handle == " ++ map ++ ".end() || count == " ++ counts ++ ".end()) " ++
        throwing unknownRemoval,
      "if (count->second == 0) " ++ throwing inconsistency,
      "if (--count->second == 0) \x7b",
      "  " ++ map ++ ".erase(handle);",
      "  " ++ counts ++ ".erase(count);",
      "\x7d"]

/-- Looking up refuses a handle that is not there. -/
def remapBody (h : HandleType) : String :=
  let map := handlesField h.name
  let counts := countsField h.name
  unlines ([
    "auto handle = " ++ map ++ ".find(captureHandle);",
    "if (handle == " ++ map ++ ".end()) " ++ throwing unknownRemap] ++
    (if h.dispatchable then []
    else [
      "auto count = " ++ counts ++ ".find(captureHandle);",
      "if (count == " ++ counts ++ ".end() || count->second == 0) " ++ throwing inconsistency]) ++
    ["return handle->second;"])

def captureArgument : Argument := ⟨handleTypeName, "captureHandle"⟩

def replayArgument : Argument := ⟨handleTypeName, "replayHandle"⟩

def addMethod (h : HandleType) : Method :=
  { name := addName h.name, returnType := "void", args := [captureArgument, replayArgument]
    body := addBody h }

def removeMethod (h : HandleType) : Method :=
  { name := removeName h.name, returnType := "void", args := [captureArgument]
    body := removeBody h }

def remapMethod (h : HandleType) : Method :=
  { name := remapName h.name, returnType := handleTypeName, args := [captureArgument]
    isConst := true, body := remapBody h }

def fieldsOf (h : HandleType) : List Argument :=
  ⟨"std::map<" ++ handleTypeName ++ ", " ++ handleTypeName ++ ">", handlesField h.name⟩ ::
    if h.dispatchable then []
    else [⟨"std::map<" ++ handleTypeName ++ ", uint32_t>", countsField h.name⟩]

end HandleRemapper
end VulkanFoundry
