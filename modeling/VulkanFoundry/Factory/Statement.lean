/-
# Statements for a member

The constructor of a factory gives each member its default: the value that it
has to hold if there is one, and else a zero or an empty value. Generating the
struct writes each member into it; what is stored in a container is copied into
memory that the sidecar owns, and structs are generated by their own factories.

Arrays of structs are copied by nested loops, one for each dimension, with the
outermost dimension outside.
-/
import VulkanFoundry.Code.Layout
import VulkanFoundry.Factory.Plan

namespace VulkanFoundry

open Code (unlines pad)

namespace PlannedMember

def field (m : PlannedMember) : String := Code.fieldName m.member.name

/-- The statement that gives a member of a storage class its empty value. Members
that own their content are empty by themselves. -/
def emptyStatement? (m : PlannedMember) : Option String :=
  match m.stored.storage with
  | .scalar => some (m.field ++ " = 0;")
  | .handle => some (m.field ++ " = VK_NULL_HANDLE;")
  | .enum | .bitmask => some (m.field ++ " = static_cast<" ++ m.stored.expr ++ ">(0);")
  | .functionPointer | .untypedPointer | .untypedDoublePointer =>
    some (m.field ++ " = nullptr;")
  | .platformType | .staticArray false => some (m.field ++ " = \x7b\x7d;")
  | .union => some ("std::memset(&" ++ m.field ++ ", 0, sizeof(" ++ m.field ++ "));")
  | .nestedFactory | .staticArray true | .string | .stringArray | .vector | .factoryVector
  | .nestedVector _ | .chainLink => none

/-- Why a member of a storage class cannot hold an expected value, if it
cannot. -/
def defaultFault? : StorageClass → Option DefaultFault
  | .scalar | .enum | .bitmask | .handle => none
  | .union => some .union
  | _ => some .notAValue

/-- The statement that gives the member its default, if there is one. -/
def defaultStatement (owner : String) (m : PlannedMember) :
    Except GenerationError (Option String) :=
  match m.member.expectedValue with
  | none => .ok m.emptyStatement?
  | some value =>
    match defaultFault? m.stored.storage with
    | some fault => .error (.unsupportedDefault (owner ++ "::" ++ m.member.name) fault)
    | none => .ok (some (m.field ++ " = " ++ value ++ ";"))

end PlannedMember

def loopIndex (dimension : Nat) : String := "i" ++ Text.decimal dimension

/-- The element that the loops of the first dimensions have reached. -/
def elementIndex (dimensions : Nat) : String :=
  String.join ((List.range dimensions).map fun k => "[" ++ loopIndex k ++ "]")

def loopHead (dimension : Nat) (size : ArraySize) : String :=
  let i := loopIndex dimension
  pad dimension ++ "for (size_t " ++ i ++ " = 0; " ++ i ++ " < " ++ arrayExtent size ++ "; ++" ++
    i ++ ") \x7b\n"

/-- The loops that copy an array of factories into an array of structs: all heads,
the statement inside, and all ends. -/
def copyLoops (name field : String) (sizes : List ArraySize) : String :=
  let depth := sizes.length
  let index := elementIndex depth
  String.join (sizes.zipIdx.map fun e => loopHead e.2 e.1) ++
    pad depth ++ "out." ++ name ++ index ++ " = " ++ field ++ index ++
      ".Generate(sidecar.Subordinate());\n" ++
    String.join ((List.range depth).reverse.map fun level => pad level ++ "\x7d\n")

namespace PlannedMember

/-- The statements that write the member into the struct. -/
def generateStatement (m : PlannedMember) : String :=
  let out := "out." ++ m.member.name
  let f := m.field
  let base := m.stored.base
  match m.stored.storage with
  | .scalar | .platformType | .handle | .enum | .bitmask | .functionPointer | .union
  | .untypedPointer | .untypedDoublePointer => out ++ " = " ++ f ++ ";\n"
  | .string =>
    if m.member.optional then
      out ++ " = " ++ f ++ ".empty() ? nullptr : sidecar.CopyString(" ++ f ++ ");\n"
    else out ++ " = sidecar.CopyString(" ++ f ++ ");\n"
  | .stringArray => out ++ " = sidecar.CopyStringArray(" ++ f ++ ");\n"
  | .vector => out ++ " = sidecar.CopyArray(" ++ f ++ ");\n"
  | .nestedVector false => out ++ " = sidecar.CopyNestedArray(" ++ f ++ ");\n"
  | .nestedVector true =>
    unlines [
      "\x7b",
      "  auto** rows = sidecar.Allocate<" ++ base ++ "*>(" ++ f ++ ".size());",
      "  for (size_t i = 0; i < " ++ f ++ ".size(); ++i) \x7b",
      "    auto* row = sidecar.Allocate<" ++ base ++ ">(" ++ f ++ "[i].size());",
      "    for (size_t j = 0; j < " ++ f ++ "[i].size(); ++j) \x7b",
      "      row[j] = " ++ f ++ "[i][j].Generate(sidecar.Subordinate());",
      "    \x7d",
      "    rows[i] = row;",
      "  \x7d",
      "  " ++ out ++ " = rows;",
      "\x7d"]
  | .factoryVector =>
    unlines [
      "\x7b",
      "  auto* items = sidecar.Allocate<" ++ base ++ ">(" ++ f ++ ".size());",
      "  for (size_t i = 0; i < " ++ f ++ ".size(); ++i) \x7b",
      "    items[i] = " ++ f ++ "[i].Generate(sidecar.Subordinate());",
      "  \x7d",
      "  " ++ out ++ " = items;",
      "\x7d"]
  | .nestedFactory => out ++ " = " ++ f ++ ".Generate(sidecar.Subordinate());\n"
  | .staticArray false => "std::memcpy(" ++ out ++ ", " ++ f ++ ".data(), sizeof(" ++ out ++ "));\n"
  | .staticArray true => copyLoops m.member.name f m.member.arraySizes
  | .chainLink =>
    out ++ " = " ++ f ++ " ? static_cast<decltype(" ++ out ++ ")>(" ++ f ++
      "->GenerateChainLink(sidecar.Subordinate())) : nullptr;\n"

end PlannedMember
end VulkanFoundry
