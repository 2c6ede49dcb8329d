/-
# Layout of the generated C++ code

Code is text of whole lines. It is indented by two spaces a level, put inside
preprocessor conditions where it exists on some platforms only, and wrapped in
namespaces, which may be nested.
-/
import VulkanFoundry.Text.Blank

namespace VulkanFoundry
namespace Code

/-- The lines, each ended by a line feed. -/
def unlines (lines : List String) : String := String.join (lines.map (· ++ "\n"))

def pad (depth : Nat) : String := String.ofList (List.replicate (2 * depth) ' ')

/-- One line at a depth; an empty line stays empty. -/
def indentLine (depth : Nat) (line : List Char) : String :=
  if line.isEmpty then "\n" else pad depth ++ String.ofList line ++ "\n"

def indent (depth : Nat) (code : String) : String :=
  String.join ((Text.lines code.toList).map (indentLine depth))

/-- The code under the condition that one of the macros is defined; without
macros, the code as it is. -/
def protect (guards : List String) (code : String) : String :=
  match guards with
  | [] => code
  | [guard] => "#ifdef " ++ guard ++ "\n" ++ code ++ "#endif  // " ++ guard ++ "\n"
  | _ =>
    let condition := Text.joined " || " (guards.map fun g => "defined(" ++ g ++ ")")
    "#if " ++ condition ++ "\n" ++ code ++ "#endif  // " ++ condition ++ "\n"

def splitAtColons : List Char → List (List Char)
  | [] => [[]]
  | ':' :: ':' :: cs => [] :: splitAtColons cs
  | c :: cs =>
    match splitAtColons cs with
    | [] => [[c]]
    | part :: parts => (c :: part) :: parts

def namespaceParts (name : String) : List String :=
  (splitAtColons name.toList).map String.ofList

def openNamespace (name : String) : String :=
  unlines ((namespaceParts name).map fun part => "namespace " ++ part ++ " \x7b")

/-- The lines that close a namespace, the innermost part first. -/
def closeNamespace (name : String) : String :=
  unlines ((namespaceParts name).reverse.map fun part => "\x7d  // namespace " ++ part)

def generatedHeader (target : String) : String :=
  unlines [
    "// Generated by vk-factory-gen (target: " ++ target ++ ") from the Vulkan API registry.",
    "// Do not edit this file by hand; regenerate it instead."]

def testMain : String :=
  unlines [
    "int main(int argc, char** argv) \x7b",
    "  ::testing::InitGoogleTest(&argc, argv);",
    "  return RUN_ALL_TESTS();",
    "\x7d"]

end Code
end VulkanFoundry
