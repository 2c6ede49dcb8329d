/-
# C++ functions and classes

A method is declared inside its class and defined outside of it. A class has
public bases, declarations and methods, and private fields.
-/
import VulkanFoundry.Code.Layout

namespace VulkanFoundry
namespace Code

/-- A name with its type: an argument or a field. -/
structure Argument where
  type : String
  name : String
  deriving DecidableEq

/-- A function's head; a constructor has no return type. -/
def functionSignature (name returnType : String) (args : List Argument) : String :=
  let head := name ++ "(" ++ Text.joined ", " (args.map fun a => a.type ++ " " ++ a.name) ++ ")"
  if returnType = "" then head else returnType ++ " " ++ head

/-- A member function; a constructor has an empty return type. -/
structure Method where
  name : String
  returnType : String := ""
  args : List Argument := []
  isConst : Bool := false
  isOverride : Bool := false
  body : String := ""
  deriving DecidableEq

namespace Method

def constMark (m : Method) : String := if m.isConst then " const" else ""

def declaration (m : Method) : String :=
  functionSignature m.name m.returnType m.args ++ m.constMark ++
    (if m.isOverride then " override" else "") ++ ";"

def definition (m : Method) (className : String) : String :=
  functionSignature (className ++ "::" ++ m.name) m.returnType m.args ++ m.constMark ++
    " \x7b\n" ++ indent 1 m.body ++ "\x7d\n"

end Method

/-- A class with public declarations and methods and private fields. -/
structure Class where
  name : String
  bases : List String := []
  declarations : List String := []
  methods : List Method := []
  fields : List Argument := []
  deriving DecidableEq

namespace Class

def baseList (c : Class) : String :=
  match c.bases with
  | [] => ""
  | bases => " : " ++ Text.joined ", " (bases.map ("public " ++ ·))

def privatePart (c : Class) : String :=
  match c.fields with
  | [] => ""
  | fields =>
    "\n private:\n" ++ unlines (fields.map fun f => "  " ++ f.type ++ " " ++ f.name ++ ";")

def declaration (c : Class) : String :=
  "class " ++ c.name ++ c.baseList ++ " \x7b\n public:\n" ++
    String.join (c.declarations.map (indent 1)) ++
    String.join (c.methods.map fun m => indent 1 m.declaration) ++
    c.privatePart ++ "\x7d;\n"

def definitions (c : Class) : String :=
  Text.joined "\n" (c.methods.map fun m => m.definition c.name)

end Class

/-- An exception class without content of its own. -/
def exceptionDeclaration (name base : String) : String :=
  "class " ++ name ++ " : public " ++ base ++ " \x7b\x7d;\n"

end Code
end VulkanFoundry
