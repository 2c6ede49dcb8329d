/-
# Function pointers

A function pointer type is written in one of two ways: with a tagged prototype
and parameters, each a declaration, or as one running text in which only the
function's name and the argument types are tagged. In running text an argument
is what stands between commas, its name is the last word behind its type, and
a star counts for the type wherever it stands.

An argument has at most one `const` and one pointer level and is no constant
pointer.
-/
import VulkanFoundry.Declaration.Basic
import VulkanFoundry.Registry.Basic

namespace VulkanFoundry

def constToken : Token := .atom (.word "const")

def starToken : Token := .atom .star

/-- What forbids the tokens of an argument, if anything does. -/
def argumentFault? (tokens : List Token) : Option ElementFault :=
  if tokens.count constToken > 1 then some .repeatedConst
  else if tokens.count starToken > 1 then some .repeatedPointer
  else if (tokens.dropWhile (· ≠ starToken)).contains constToken then some .constPointer
  else none

def checkArgument (function : String) (tokens : List Token) : Except LoadError Unit :=
  match argumentFault? tokens with
  | some fault => .error (.invalidElement function fault)
  | none => .ok ()

def beforeParenthesis (cs : List Char) : List Char := cs.takeWhile (· ≠ '(')

/-- The text with the keyword that opens a type definition blanked out. -/
def withoutTypedef (cs : List Char) : List Char := Text.replaceAll "typedef".toList [' '] cs

def FunctionArgument.ofElement (function : String) (e : ParamElement) :
    Except LoadError FunctionArgument := do
  let d := Declaration.ofFragments e.content
  let name ← d.requireName function
  let type ← d.requireType (function ++ "(" ++ name ++ ")")
  checkArgument function (TypeText.tokens type.toList)
  return { type, name }

def FunctionPointerType.ofTagged (proto : List Fragment) (params : List ParamElement) :
    Except LoadError FunctionPointerType := do
  let d := Declaration.ofFragments proto
  let name ← d.requireName "funcpointer proto"
  let base ← d.requireBase name
  let returnType := TypeText.assemble (String.ofList (withoutTypedef d.lead.toList)) base
    (String.ofList (beforeParenthesis d.tail.toList))
  let arguments ← params.mapM (FunctionArgument.ofElement name)
  return { name, returnType, arguments }

/-- A token of an argument list in running text: text or a tagged type. -/
inductive ArgumentToken where
  | text (t : Token)
  | type (name : String)
  deriving DecidableEq

def argumentTokens : Fragment → List ArgumentToken
  | .type s => [.type (Text.trimmed s)]
  | .text s => (TypeText.tokens s.toList).map .text
  | _ => []

def ArgumentToken.isOneOf (cs : List Char) : ArgumentToken → Bool
  | .text (.punct c) => cs.contains c
  | _ => false

/-- The groups between the separators; there is one more than separators. -/
def splitWhere {α : Type} (isSeparator : α → Bool) : List α → List (List α)
  | [] => [[]]
  | a :: rest =>
    if isSeparator a then [] :: splitWhere isSeparator rest
    else match splitWhere isSeparator rest with
      | [] => [[a]]
      | group :: groups => (a :: group) :: groups

/-- The word of a token that can name an argument. -/
def ArgumentToken.nameWord? : ArgumentToken → Option String
  | .text (.atom (.word w)) => if w = "const" then none else some w
  | _ => none

def lexicalTokens (group : List ArgumentToken) : List Token :=
  group.filterMap fun
    | .text t => some t
    | .type _ => none

/-- The first tagged type of a group and the tokens behind it. -/
def splitAtType? : List ArgumentToken → Option (String × List ArgumentToken)
  | [] => none
  | .type base :: rest => some (base, rest)
  | .text _ :: rest => splitAtType? rest

/-- The argument that a group of tokens declares; a group without tokens, or with
the word `void` alone, declares none. -/
def FunctionArgument.ofTokens? (function : String) (tokens : List ArgumentToken) :
    Except LoadError (Option FunctionArgument) := do
  let group := tokens.filter fun t => !t.isOneOf [';']
  match splitAtType? group with
  | none =>
    if group = [] || group = [.text (.atom (.word "void"))] then return none
    else .error (.missingElement "type" function)
  | some (base, after) =>
    let lexical := lexicalTokens group
    checkArgument function lexical
    match after.reverse.findSome? ArgumentToken.nameWord? with
    | none => .error (.missingElement "name" function)
    | some name =>
      let type := TypeText.assemble (if lexical.contains constToken then "const" else "") base
        (if lexical.contains starToken then "*" else "")
      return some { type, name }

def FunctionPointerType.ofText (fragments : List Fragment) :
    Except LoadError FunctionPointerType := do
  match splitAtName? fragments with
  | none => .error (.missingElement "name" "funcpointer")
  | some (before, name, after) =>
    let head := Text.joined " " (before.filterMap fun
      | .text s | .type s => some s
      | _ => none)
    let returnType := TypeText.canonical (withoutTypedef (beforeParenthesis head.toList))
    if returnType = "" then .error (.missingElement "type" name)
    else
      let tokens := (after.flatMap argumentTokens).dropWhile (·.isOneOf ['(', ')'])
      let arguments ← (splitWhere (·.isOneOf [',', ')']) tokens).mapM
        (FunctionArgument.ofTokens? name)
      return { name, returnType, arguments := arguments.filterMap id }

def TypeElement.proto? (e : TypeElement) : Option (List Fragment) :=
  e.content.findSome? fun
    | .proto content => some content
    | _ => none

/-- The parameters of a type element that apply to Vulkan. -/
def TypeElement.paramElements (e : TypeElement) : List ParamElement :=
  e.content.filterMap fun
    | .param p => if Attribute.supportsVulkan p.api then some p else none
    | _ => none

def FunctionPointerType.ofElement (e : TypeElement) : Except LoadError FunctionPointerType :=
  match e.proto? with
  | some proto => FunctionPointerType.ofTagged proto e.paramElements
  | none => FunctionPointerType.ofText e.fragments

end VulkanFoundry
