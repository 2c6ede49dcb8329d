/-
# Why a document is refused

Every way in which a registry document can fail to give a registry, and the
sentence that reports it. Texts taken from the document are shown as they are,
or quoted where they are a value that could not be interpreted.
-/
import VulkanFoundry.Text.Quoted

namespace VulkanFoundry

/-- What is wrong with the content of an element that is there. -/
inductive ElementFault where
  /-- A handle defined by something else than the two handle macros. -/
  | unknownDefiner
  /-- An enum field with more than one of value, bit position and alias. -/
  | severalValues
  | repeatedConst
  | repeatedPointer
  | constPointer
  /-- A SPIR-V enabling condition that names nothing. -/
  | emptyEnable
  /-- A SPIR-V extension enabled by a feature or property. -/
  | foreignEnable
  deriving DecidableEq, Repr

def ElementFault.reason : ElementFault → String
  | .unknownDefiner => "unknown handle definer"
  | .severalValues => "enum field declares more than one of value, bitpos and alias"
  | .repeatedConst => "more than one const on a function pointer argument"
  | .repeatedPointer => "more than one pointer level on a function pointer argument"
  | .constPointer => "const pointer function pointer arguments are not supported"
  | .emptyEnable => "enable names none of version, extension, struct or property"
  | .foreignEnable => "spirvextension may only be enabled by a version or extension"

/-- Why a document gives no registry. -/
inductive LoadError where
  /-- The text is not well-formed markup or lacks the shape of a registry. -/
  | malformed
  | missingElement (element context : String)
  | missingAttribute (attr context : String)
  | invalidAttribute (attr value : String)
  | unknownCategory (name category : String)
  | unknownEnumKind (name kind : String)
  | unsupportedBitWidth (name bitWidth : String)
  | invalidElement (element : String) (fault : ElementFault)
  /-- A name declared twice among declarations of one kind. -/
  | duplicateName (kind name : String)
  /-- An alias of an alias. -/
  | aliasChain (name target : String)
  | unresolvedReference (name referencedBy : String)
  | conflictingEnumValue (enumName field : String) (existing new : Int64)
  /-- One name as a field and as a field alias of one enum. -/
  | enumAliasCollision (enumName name : String)
  deriving DecidableEq, Repr

namespace LoadError

def message : LoadError → String
  | malformed => "XML parsing error"
  | missingElement element context =>
    "Missing required XML element <" ++ element ++ "> in " ++ context
  | missingAttribute attr context =>
    "Missing required attribute @" ++ attr ++ " in " ++ context
  | invalidAttribute attr value =>
    "Invalid format for attribute @" ++ attr ++ ": " ++ Text.quoted value
  | unknownCategory name category =>
    "Unknown type category " ++ Text.quoted category ++ " on type " ++ name
  | unknownEnumKind name kind =>
    "Unknown enums type " ++ Text.quoted kind ++ " on enums " ++ name
  | unsupportedBitWidth name bitWidth =>
    "Unsupported bitwidth " ++ Text.quoted bitWidth ++ " on enums " ++ name
  | invalidElement element fault => "Invalid element " ++ element ++ ": " ++ fault.reason
  | duplicateName kind name => "Duplicate " ++ kind ++ " name: " ++ name
  | aliasChain name target =>
    "Alias " ++ name ++ " points at " ++ target ++ ", which is itself an alias"
  | unresolvedReference name referencedBy =>
    "Unresolved reference to " ++ name ++ " from " ++ referencedBy
  | conflictingEnumValue enumName field existing new =>
    "Enum field " ++ enumName ++ "::" ++ field ++ " declared with value " ++
      Text.decimalInt existing.toInt ++ " and " ++ Text.decimalInt new.toInt
  | enumAliasCollision enumName name =>
    "Enum " ++ enumName ++ " declares " ++ name ++ " both as a field and as an alias"

end LoadError
end VulkanFoundry
