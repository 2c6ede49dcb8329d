/-
# Records in markup

An element is read as a record: its attributes and its children by their names.
A name may stand for an attribute (also written as a child whose name is the
attribute's behind an at sign), for a child that may stand once, for children
that may be repeated, or for nothing; then the child is passed over. A record
with mixed content takes all text that is not blank and all children that are
no attributes, in order, and admits no others. A leaf holds text alone.

Reading goes through the document once, and the order matters in two ways.

* While the repeated children of a name or the mixed content are gathered, all
  else in the record is set aside up to its end, and read after that. What is
  set aside has to be readable even if it is passed over later. The repeated
  children of a name are written under one prefix.
* An attribute or single child is absent if its element, or the element around
  it, is marked as nil. What the mark's prefix stands for is looked up in the
  scope at the place that reading has reached, which is one tag ahead: behind
  the start of the child, or, for what was set aside, behind the end of the
  record. Of an element that is passed over, its tag and a first child's are
  the last places looked at. Unless it is empty, their scopes stay open, and
  every end from there on leaves one scope less than it should.

Key definitions: `Reading`, `Element`, `Shape`, `Record`, `Element.record`,
`Element.leaf`.
-/
import VulkanFoundry.Markup.Namespace
import VulkanFoundry.Markup.Node

namespace VulkanFoundry
namespace Document

open Markup

/-- The scope at the place that reading has reached, and whether what is read was
set aside before. -/
structure Progress where
  scope : Scope := {}
  aside : Bool := false

/-- A step of reading, which may be refused. -/
abbrev Reading := StateT Progress Option

/-- An element, and the start tag right behind it. -/
structure Element where
  tag : Tag
  nodes : List Node
  next : Option Tag

/-- The name of an element without its prefix. -/
def Element.name (e : Element) : String := localName e.tag.name

def runText (run : List RunPiece) : Reading (List Char) := fun p => (textOf? run).map (·, p)

def enter (tag : Tag) : Reading Unit := fun p =>
  if p.aside then some ((), p)
  else (p.scope.enter? tag).map fun inner => ((), { p with scope := inner })

def leave : Reading Unit := fun p =>
  if p.aside then some ((), p) else some ((), { p with scope := p.scope.leave })

/-- Whether an element inside another is marked as nil, by itself or by the other. -/
def isNilInside (outer child : Element) : Reading Bool := fun p =>
  let answer := fun scope : Scope => scope.isNil outer.tag || scope.isNil child.tag
  if p.aside then some (answer p.scope, p)
  else (p.scope.enter? child.tag).map fun inner =>
    (answer (inner.ahead (firstTag child.nodes)), p)

mutual

/-- Looks through a node that is set aside. -/
def lookThrough : Node → Reading Unit
  | .text run => do let _ ← runText run
  | .doctype => pure ()
  | .element tag nodes => do
    enter tag
    lookThroughAll nodes
    leave

/-- Looks through nodes that are set aside. -/
def lookThroughAll : List Node → Reading Unit
  | [] => pure ()
  | node :: rest => do
    lookThrough node
    lookThroughAll rest

end

/-- Passes over an element. Its tag and a first child's are noticed, and its end
only if it is empty. -/
def Element.passOver (e : Element) : Reading Unit := do
  enter e.tag
  match e.nodes with
  | [] => leave
  | .element inner _ :: _ => enter inner
  | _ => pure ()

/-- The text of nodes that hold nothing else. -/
def textOfNodes? : List Node → Option String
  | [] => some ""
  | .doctype :: rest => textOfNodes? rest
  | .text run :: rest =>
    if rest.all fun node => node matches .doctype then (textOf? run).map String.ofList else none
  | .element _ _ :: _ => none

def Element.leaf (e : Element) : Reading String := do
  enter e.tag
  let text ← fun p => (textOfNodes? e.nodes).map (·, p)
  leave
  return text

/-- How mixed content is read: its text and its children by their names. -/
structure Content (β : Type) where
  text : String → Option β
  child : String → Option (Element → Reading β)

/-- What a record is made of. Names in `attributes` may be missing; `demanded`
are those whose element is never taken as absent. -/
structure Shape (β : Type) where
  attributes : List String
  demanded : List String := []
  single : String → Option (Element → Reading β) := fun _ => none
  repeated : String → Option (Element → Reading β) := fun _ => none
  content : Option (Content β) := none

/-- The name of mixed content. It is no name for a child. -/
def contentName : String := "$value"

/-- The name of an attribute among the names of children. -/
def attributeKey (name : String) : String := "@" ++ name

/-- What is found under a name of a record. -/
inductive Item (β : Type) where
  | value (text : Option String)
  | parts (ps : List β)

/-- A record that was read, by names. -/
abbrev Record (β : Type) := List (String × Item β)

namespace Record

def value? {β : Type} (r : Record β) (name : String) : Option String :=
  match r.lookup (attributeKey name) with
  | some (.value text) => text
  | _ => none

/-- The children that were read. -/
def parts {β : Type} (r : Record β) : List β :=
  r.flatMap fun entry =>
    match entry.2 with
    | .parts ps => ps
    | .value _ => []

end Record

namespace Shape

/-- The attribute that a child of this name stands for. -/
def attribute? {β : Type} (shape : Shape β) (name : String) : Option String :=
  shape.attributes.find? fun known => attributeKey known = name

/-- Whether a child of this name is set aside while mixed content is gathered. -/
def isField {β : Type} (shape : Shape β) (name : String) : Bool :=
  (shape.attribute? name).isSome || name = contentName

end Shape

/-- How children are gathered: what becomes of text and which children are taken,
with the reading of each. -/
structure Gathering (β : Type) where
  text : List Char → Option (List β)
  takes : Tag → Bool
  read : Element → Reading β

/-- The children that are gathered from the nodes; all others are looked through. -/
def Gathering.run {β : Type} (g : Gathering β) : List Node → Reading (List β)
  | [] => return []
  | .doctype :: rest => g.run rest
  | .text run :: rest => do
    let cs ← runText run
    let found ← fun p => (g.text cs).map (·, p)
    return found ++ (← g.run rest)
  | .element tag nodes :: rest => do
    if g.takes tag then
      let found ← g.read ⟨tag, nodes, firstTag rest⟩
      return found :: (← g.run rest)
    else
      lookThrough (.element tag nodes)
      g.run rest

/-- The nodes that are set aside by a gathering. -/
def Gathering.rest {β : Type} (g : Gathering β) (nodes : List Node) : List Node :=
  nodes.filter fun node =>
    match node with
    | .element tag _ => !g.takes tag
    | _ => false

/-- The gathering of the children that have the tag's name. -/
def Gathering.ofName {β : Type} (tag : Tag) (read : Element → Reading β) : Gathering β where
  text := fun _ => some []
  takes := fun other => other.name = tag.name
  read := read

/-- The gathering of mixed content in a record. -/
def Gathering.ofContent {β : Type} (shape : Shape β) (content : Content β) : Gathering β where
  text := fun cs =>
    if isBlankText cs then some [] else (content.text (String.ofList cs)).map ([·])
  takes := fun tag => !shape.isField (localName tag.name)
  read := fun e =>
    match content.child e.name with
    | some read => read e
    | none => failure

/-- Leaves a record and reads what was set aside in it, with the tag in view that
comes next. -/
def afterEnd {α : Type} (next : Option Tag) (read : Reading α) : Reading α := fun p =>
  if p.aside then read p
  else
    let outer := p.scope.leave
    (read ⟨outer.ahead next, true⟩).map fun found => (found.1, ⟨outer, false⟩)

/-- A child that stands for an attribute. -/
def attributeItem {β : Type} (shape : Shape β) (outer child : Element) (known : String) :
    Reading (String × Item β) := do
  if !shape.demanded.contains known && (← isNilInside outer child) then
    child.passOver
    return (child.name, .value none)
  else return (child.name, .value (some (← child.leaf)))

/-- A child that may stand once. -/
def singleItem {β : Type} (read : Element → Reading β) (outer child : Element) :
    Reading (String × Item β) := do
  if ← isNilInside outer child then
    child.passOver
    return (child.name, .parts [])
  else return (child.name, .parts [← read child])

/-- The items among the nodes of an element, which is left at their end. -/
def items {β : Type} (shape : Shape β) (outer : Element) : List Node → Reading (Record β)
  | [] => do
    leave
    return []
  | .doctype :: rest => items shape outer rest
  | .text run :: rest => do
    let cs ← runText run
    match shape.content with
    | none => items shape outer rest
    | some content =>
      if isBlankText cs then items shape outer rest
      else
        let g := Gathering.ofContent shape content
        let found ← g.run (.text run :: rest)
        return (contentName, .parts found) ::
          (← afterEnd outer.next (items shape outer (g.rest rest)))
  | .element tag nodes :: rest => do
    let child : Element := ⟨tag, nodes, firstTag rest⟩
    match shape.attribute? child.name, shape.content with
    | some known, _ =>
      let item ← attributeItem shape outer child known
      return item :: (← items shape outer rest)
    | none, some content =>
      if child.name = contentName then failure
      else
        let g := Gathering.ofContent shape content
        let found ← g.run (.element tag nodes :: rest)
        return (contentName, .parts found) ::
          (← afterEnd outer.next (items shape outer (g.rest rest)))
    | none, none =>
      match shape.single child.name, shape.repeated child.name with
      | some read, _ =>
        let item ← singleItem read outer child
        return item :: (← items shape outer rest)
      | none, some read =>
        let g := Gathering.ofName tag read
        let found ← g.run (.element tag nodes :: rest)
        return (child.name, .parts found) ::
          (← afterEnd outer.next (items shape outer (g.rest rest)))
      | none, none =>
        child.passOver
        items shape outer rest
termination_by nodes => nodes.length
decreasing_by
  all_goals simp only [List.length_cons, Gathering.rest]
  all_goals first
    | omega
    | exact Nat.lt_succ_of_le (List.length_filter_le _ _)

/-- The attributes of the shape among those of a tag. -/
def givenAttributes? {β : Type} (shape : Shape β) : Attributes → Option (Record β)
  | [] => some []
  | (name, value) :: rest =>
    if shape.attributes.contains (attributeName name) then
      match unescape? value, givenAttributes? shape rest with
      | some cs, some others =>
        some ((attributeKey (attributeName name), .value (some (String.ofList cs))) :: others)
      | _, _ => none
    else givenAttributes? shape rest

/-- The element as a record of the shape, in which no name may repeat. -/
def Element.record {β : Type} (shape : Shape β) (e : Element) : Reading (Record β) := do
  enter e.tag
  match (Attributes.read? e.tag.attributeText).bind (givenAttributes? shape) with
  | none => failure
  | some given =>
    let r := given ++ (← items shape e e.nodes)
    if (r.map (·.1)).Nodup then return r else failure

end Document
end VulkanFoundry
