/-
# Namespaces and absent elements

A tag may bind prefixes to namespaces, each for the elements inside. `Scope`
holds the bindings in force with the depth of the tag that made them. Some
bindings are refused: the prefix `xmlns` cannot be bound, `xml` stands for its
own namespace only, and no other prefix may stand for the namespace of one of
these two. The namespace of names without a prefix is free.

One attribute of the instance namespace matters for reading: an element with a
true `nil` is to be taken as absent where it may be.
-/
import VulkanFoundry.Markup.Attributes

namespace VulkanFoundry
namespace Markup

/-- The name of a standard namespace. These differ in their last part alone. -/
def standardNamespace (path : String) : List Char :=
  ("http:" ++ "//www.w3.org/" ++ path).toList

def xmlNamespace : List Char := standardNamespace "XML/1998/namespace"

def xmlnsNamespace : List Char := standardNamespace "2000/xmlns/"

/-- The namespace of the attribute `nil`. -/
def instanceNamespace : List Char := standardNamespace "2001/XMLSchema-instance"

/-- What is bound by an attribute: the namespace of names without a prefix, or a
prefix. -/
inductive Bound where
  | unprefixed
  | label (cs : List Char)
  deriving DecidableEq

/-- What an attribute of this name binds, if it is a binding. -/
def bound? (name : List Char) : Option Bound :=
  match Text.dropLeading? ['x', 'm', 'l', 'n', 's'] name with
  | some [] => some .unprefixed
  | some (':' :: cs) => some (.label cs)
  | _ => none

/-- A namespace with the prefix that stands for it, which is empty for names
without one, and the depth of the tag that says so. -/
structure Binding where
  depth : Nat
  label : List Char
  namespaceName : List Char
  deriving DecidableEq

/-- The bindings in force at a depth, the latest first. -/
structure Scope where
  depth : Nat := 0
  bindings : List Binding := []
  deriving DecidableEq

namespace Scope

/-- Whether the binding is one that may be made. -/
def mayBind : Bound → List Char → Bool
  | .unprefixed, _ => true
  | .label ['x', 'm', 'l'], value => value = xmlNamespace
  | .label ['x', 'm', 'l', 'n', 's'], _ => false
  | .label _, value => value ≠ xmlNamespace && value ≠ xmlnsNamespace

/-- The scope with one more binding at its depth. The prefix `xml` stands for its
namespace anyway. -/
def bind (s : Scope) (bound : Bound) (value : List Char) : Scope :=
  match bound with
  | .unprefixed => { s with bindings := ⟨s.depth, [], value⟩ :: s.bindings }
  | .label ['x', 'm', 'l'] => s
  | .label cs => { s with bindings := ⟨s.depth, cs, value⟩ :: s.bindings }

/-- The scope with the bindings among the attributes, up to one that is refused,
and whether there is none of that kind. -/
def bindAll (s : Scope) : Attributes → Scope × Bool
  | [] => (s, true)
  | (name, value) :: rest =>
    match bound? name with
    | none => bindAll s rest
    | some bound => if mayBind bound value then bindAll (s.bind bound value) rest else (s, false)

/-- The scope inside a tag as far as its bindings are sound, and whether all are. -/
def enter (s : Scope) (tag : Tag) : Scope × Bool :=
  bindAll { s with depth := s.depth + 1 } (Attributes.leading tag.attributeText)

/-- The scope inside a tag, if it binds no prefix that it must not. -/
def enter? (s : Scope) (tag : Tag) : Option Scope :=
  match s.enter tag with
  | (inner, true) => some inner
  | (_, false) => none

/-- The scope one step further out, without the bindings made deeper than there. -/
def leave (s : Scope) : Scope :=
  let outer := s.depth - 1
  ⟨outer, s.bindings.dropWhile fun b => outer < b.depth⟩

/-- The scope with the bindings of the tag that comes next, if one does. -/
def ahead (s : Scope) (next : Option Tag) : Scope :=
  match next with
  | some tag => (s.enter tag).1
  | none => s

/-- The namespace that a prefix stands for. -/
def namespace? (s : Scope) (label : List Char) : Option (List Char) :=
  if label.isEmpty then none
  else (s.bindings.find? fun b => b.label = label).map (·.namespaceName)

/-- Whether the attribute is a true `nil` of the instance namespace. -/
def isNilEntry (s : Scope) (entry : List Char × List Char) : Bool :=
  match Text.splitAtFirst? [':'] entry.1 with
  | some (label, ['n', 'i', 'l']) =>
    s.namespace? label = some instanceNamespace &&
      (entry.2 = ['1'] || entry.2 = ['t', 'r', 'u', 'e'])
  | _ => false

/-- Whether the tag says that its element is to be taken as absent. -/
def isNil (s : Scope) (tag : Tag) : Bool :=
  (Attributes.readable tag.attributeText).any s.isNilEntry

end Scope
end Markup
end VulkanFoundry
