/-
# From C types to stored types

The stored type of a member follows from the shape of its C type, a name with
at most two pointer levels, from the type that the name denotes, and from the
array dimensions. Qualifiers, blanks and punctuation do not matter. The
extension chain pointer is stored as a chain link whatever its type is.

Only values can be elements of an array of fixed size; other types have no
stored form.
-/
import VulkanFoundry.Generation.Error
import VulkanFoundry.Storage.StoredType

namespace VulkanFoundry

/-- A name with pointer levels. -/
structure TypeShape where
  base : String
  pointers : Nat
  deriving DecidableEq, Repr

/-- Whether the atom only qualifies a type. -/
def Atom.isQualifier (a : Atom) : Bool := a = .word "const" || a = .word "struct"

/-- The shape of a type's atoms: one of any kind, and then stars alone. -/
def TypeShape.ofAtoms? (atoms : List Atom) : Option TypeShape :=
  match atoms.filter fun a => !a.isQualifier with
  | [] => none
  | base :: stars => if stars.all (· = .star) then some ⟨base.text, stars.length⟩ else none

namespace Registry

/-- How a value of the named type is stored. -/
def classify? (r : Registry) (name : String) : Option StorageClass :=
  match r.resolve? name with
  | some (.struct _) => some .nestedFactory
  | some (.union _) => some .union
  | some (.handle _) => some .handle
  | some (.enum _) => some .enum
  | some (.bitmask _) => some .bitmask
  | some (.functionPointer _) => some .functionPointer
  | some (.base b) => some (if b.base.isSome then .scalar else .platformType)
  | some (.external x) => some (if x.isCType then .scalar else .platformType)
  | _ => none

def storedValue? (r : Registry) (base : String) : Option StoredType :=
  if base = "void" then none
  else match r.classify? base with
    | none => none
    | some .nestedFactory =>
      (r.struct? base).map fun s => ⟨Code.factoryName s.name, .nestedFactory, s.name⟩
    | some storage => some ⟨base, storage, base⟩

def storedPointer? (r : Registry) (base : String) : Option StoredType :=
  if base = "char" then some ⟨"std::string", .string, base⟩
  else if base = "void" then some ⟨"void*", .untypedPointer, base⟩
  else match r.classify? base with
    | none => none
    | some .nestedFactory =>
      (r.struct? base).map fun s =>
        ⟨"std::vector<" ++ Code.factoryName s.name ++ ">", .factoryVector, s.name⟩
    | some .platformType => some ⟨base ++ "*", .untypedPointer, base⟩
    | some _ => some ⟨"std::vector<" ++ base ++ ">", .vector, base⟩

def storedDoublePointer? (r : Registry) (base : String) : Option StoredType :=
  if base = "char" then some ⟨"std::vector<std::string>", .stringArray, base⟩
  else if base = "void" then some ⟨"void**", .untypedDoublePointer, base⟩
  else match r.classify? base with
    | none => none
    | some .nestedFactory =>
      (r.struct? base).map fun s =>
        ⟨"std::vector<std::vector<" ++ Code.factoryName s.name ++ ">>", .nestedVector true, s.name⟩
    | some .platformType => some ⟨base ++ "**", .untypedDoublePointer, base⟩
    | some _ => some ⟨"std::vector<std::vector<" ++ base ++ ">>", .nestedVector false, base⟩

def storedShape? (r : Registry) (shape : TypeShape) : Option StoredType :=
  match shape.pointers with
  | 0 => r.storedValue? shape.base
  | 1 => r.storedPointer? shape.base
  | 2 => r.storedDoublePointer? shape.base
  | _ => none

end Registry

/-- The stored type of an array of fixed size, or of a single element if there
are no dimensions. -/
def StoredType.withSizes? (t : StoredType) (sizes : List ArraySize) : Option StoredType :=
  if sizes.isEmpty then some t
  else t.storage.asElement?.map fun factories =>
    ⟨arrayExpr t.expr sizes, .staticArray factories, t.base⟩

/-- How the extension chain pointer is stored. -/
def StoredType.chain : StoredType := ⟨"std::shared_ptr<ChainLink>", .chainLink, "ChainLink"⟩

namespace Registry

/-- How a member of the name, type and dimensions is stored, if it can be. -/
def storedType? (r : Registry) (type name : String) (sizes : List ArraySize) :
    Option StoredType :=
  if name = chainLinkMember then some .chain
  else
    ((TypeShape.ofAtoms? (TypeText.atoms type.toList)).bind r.storedShape?).bind
      (·.withSizes? sizes)

def storeAs (r : Registry) (title type name : String) (sizes : List ArraySize) :
    Except GenerationError StoredType :=
  match r.storedType? type name sizes with
  | some t => .ok t
  | none => .error (.unmappableType title type)

def storeMember (r : Registry) (owner : String) (m : Member) : Except GenerationError StoredType :=
  r.storeAs (owner ++ "::" ++ m.name) m.type m.name m.arraySizes

end Registry
end VulkanFoundry
