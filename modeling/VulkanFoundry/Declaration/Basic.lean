/-
# Declarations in running text

A C declaration is written as running text with the type and the name tagged:
what leads up to the type, the type, what stands between type and name, the
name, and what follows it. The first type tag before the name is the type, the
first name tag is the name; any other tag is part of the text around it, and
comments do not count. So no text is lost and none changes places.
-/
import VulkanFoundry.Attribute
import VulkanFoundry.Document.Basic

namespace VulkanFoundry

/-- The parts of a declaration. -/
structure Declaration where
  /-- The text before the type. -/
  lead : String := ""
  base : Option String := none
  /-- The text between type and name. -/
  tail : String := ""
  name : Option String := none
  /-- The text after the name. -/
  suffix : String := ""
  deriving DecidableEq

namespace Declaration

/-- More text at the point that the declaration has reached. -/
def addText (d : Declaration) (s : String) : Declaration :=
  if d.name.isSome then { d with suffix := d.suffix ++ s }
  else if d.base.isSome then { d with tail := d.tail ++ s }
  else { d with lead := d.lead ++ s }

def add (d : Declaration) : Fragment → Declaration
  | .comment _ => d
  | .text s => d.addText s
  | .enum s => d.addText s
  | .type s =>
    if d.base.isNone && d.name.isNone then { d with base := some (Text.trimmed s) }
    else d.addText s
  | .name s =>
    if d.name.isNone then { d with name := some (Text.trimmed s) } else d.addText s

def ofFragments (fragments : List Fragment) : Declaration := fragments.foldl add {}

/-- The canonical text of the declared type. -/
def typeText? (d : Declaration) : Option String :=
  d.base.map fun base => TypeText.assemble d.lead base d.tail

def requireName (d : Declaration) (context : String) : Except LoadError String :=
  match d.name with
  | some name => .ok name
  | none => .error (.missingElement "name" context)

def requireType (d : Declaration) (context : String) : Except LoadError String :=
  match d.typeText? with
  | some type => .ok type
  | none => .error (.missingElement "type" context)

/-- The tagged type without the text around it. -/
def requireBase (d : Declaration) (context : String) : Except LoadError String :=
  match d.base with
  | some base => .ok base
  | none => .error (.missingElement "type" context)

end Declaration

/-- The text of a fragment, if it is not a comment. -/
def Fragment.text? : Fragment → Option String
  | .text s | .type s | .name s | .enum s => some s
  | .comment _ => none

def Fragment.name? : Fragment → Option String
  | .name s => some s
  | _ => none

/-- All text of the fragments but the comments. -/
def allText (fragments : List Fragment) : String := String.join (fragments.filterMap Fragment.text?)

/-- The fragments before the first name tag, its trimmed text, and those after
it. -/
def splitAtName? : List Fragment → Option (List Fragment × String × List Fragment)
  | [] => none
  | .name s :: rest => some ([], Text.trimmed s, rest)
  | f :: rest => (splitAtName? rest).map fun (before, name, after) => (f :: before, name, after)

/-- A piece of a type element that is running text or a tagged word. -/
def TypePart.fragment? : TypePart → Option Fragment
  | .text s => some (.text s)
  | .type s => some (.type s)
  | .name s => some (.name s)
  | .comment s => some (.comment s)
  | .member _ | .proto _ | .param _ => none

def TypeElement.fragments (e : TypeElement) : List Fragment :=
  e.content.filterMap TypePart.fragment?

end VulkanFoundry
