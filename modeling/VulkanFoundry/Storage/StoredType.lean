/-
# How a factory stores a member

A factory keeps each member of its struct in C++ terms: plain values as they
are, texts and arrays in containers, structs as factories. The storage class of
a member says how it gets its default value and how it is written into the
struct.
-/
import VulkanFoundry.Registry.Basic
import VulkanFoundry.Code.Naming

namespace VulkanFoundry

/-- How a member is stored, defaulted and written. -/
inductive StorageClass where
  /-- A C scalar or a type that is another name for one. -/
  | scalar
  /-- A type of a platform that the registry only names. -/
  | platformType
  | handle
  | enum
  | bitmask
  | functionPointer
  /-- A union, stored as it is. -/
  | union
  /-- A struct value, stored as its factory. -/
  | nestedFactory
  | string
  | stringArray
  /-- A pointer to elements that are no structs. -/
  | vector
  /-- A pointer to structs, stored as factories. -/
  | factoryVector
  /-- A pointer to pointers to elements. -/
  | nestedVector (factories : Bool)
  /-- A pointer whose elements are not known, stored as it is. -/
  | untypedPointer
  | untypedDoublePointer
  /-- The extension chain. -/
  | chainLink
  /-- An array of fixed size. -/
  | staticArray (factories : Bool)
  deriving DecidableEq, Repr

structure StoredType where
  expr : String
  storage : StorageClass
  /-- The type that the member refers to: the struct for factories, the element
  type for containers, otherwise the type itself. -/
  base : String
  deriving DecidableEq, Repr

def StorageClass.byReference : StorageClass → Bool
  | string | stringArray | vector | factoryVector | nestedFactory => true
  | nestedVector _ | staticArray _ => true
  | _ => false

/-- The type of the setter's argument and the getter's result. -/
def StoredType.accessorType (t : StoredType) : String :=
  if t.storage.byReference then "const " ++ t.expr ++ "&" else t.expr

/-- The C++ expression of an array dimension. -/
def arrayExtent : ArraySize → String
  | .literal n => Text.decimal n.toNat
  | .constant name => name

/-- The type of an array with the given dimensions, outermost first. -/
def arrayExpr (element : String) (sizes : List ArraySize) : String :=
  sizes.foldr (fun size inner => "std::array<" ++ inner ++ ", " ++ arrayExtent size ++ ">") element

/-- Whether values of the class can be the elements of an array of fixed size,
and if so, whether they are factories. -/
def StorageClass.asElement? : StorageClass → Option Bool
  | nestedFactory => some true
  | scalar | platformType | handle | enum | bitmask | functionPointer | union => some false
  | _ => none

end VulkanFoundry
