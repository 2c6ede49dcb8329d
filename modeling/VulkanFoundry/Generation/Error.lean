/-
# Why a generation run fails

A run fails because the document is refused, a file cannot be read or written,
the configuration is refused or names what does not exist, or because a
selected struct cannot be expressed in C++.
-/
import VulkanFoundry.Registry.LoadError

namespace VulkanFoundry

/-- Why a member cannot hold an expected value. -/
inductive DefaultFault where
  /-- A union has no value but all zeros. -/
  | union
  /-- The member is not stored as a plain value. -/
  | notAValue
  deriving DecidableEq, Repr

def DefaultFault.reason : DefaultFault → String
  | .union => "a union can only be zero-filled"
  | .notAValue => "only value members can hold an expected value"

/-- Why a generation run fails. -/
inductive GenerationError where
  | load (e : LoadError)
  /-- A file or directory that cannot be read, made or written. -/
  | inaccessible (path : String)
  | malformedConfiguration
  | unknownTarget (name : String)
  | unknownVersion (name : String)
  | unknownExtension (name : String)
  | unmappableType (member type : String)
  | unsupportedDefault (member : String) (fault : DefaultFault)
  /-- A struct that needs one which is never generated. -/
  | excludedDependency (name dependency : String)
  deriving DecidableEq, Repr

def GenerationError.message : GenerationError → String
  | load e => "Registry error: " ++ e.message
  | inaccessible path => "I/O error on " ++ path
  | malformedConfiguration => "Invalid generator configuration"
  | unknownTarget name => "Unknown generation target: " ++ name
  | unknownVersion name => "Unknown core version: " ++ name
  | unknownExtension name => "Unknown or unsupported extension: " ++ name
  | unmappableType member type =>
    "Cannot map type " ++ Text.quoted type ++ " of member " ++ member
  | unsupportedDefault member fault =>
    "Unsupported default value for " ++ member ++ ": " ++ fault.reason
  | excludedDependency name dependency =>
    "Struct " ++ name ++ " depends on excluded struct " ++ dependency

end VulkanFoundry
