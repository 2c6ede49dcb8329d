/-
# Reading a configuration

A configuration is a JSON object of settings by name, or an array of settings in
their fixed order. A setting may be missing and then keeps its default, in an
array only from some point on. Other names, repeated names and values of
another kind are refused.
-/
import VulkanFoundry.Configuration.Basic
import VulkanFoundry.Json

namespace VulkanFoundry

namespace JsonValue

def string? : JsonValue → Option String
  | string s => some s
  | _ => none

def bool? : JsonValue → Option Bool
  | bool b => some b
  | _ => none

/-- The texts of an array that holds strings alone. -/
def strings? : JsonValue → Option (List String)
  | array items => items.mapM string?
  | _ => none

/-- The settings of a record by name: an object's entries, if no name repeats, or
an array's items under the names in their order, if there are not too many. -/
def settings? (names : List String) : JsonValue → Option (List (String × JsonValue))
  | object entries => if (entries.map (·.1)).Nodup then some entries else none
  | array items => if items.length ≤ names.length then some (names.zip items) else none
  | _ => none

end JsonValue

def ExtensionPolicy.set? (p : ExtensionPolicy) (setting : String × JsonValue) :
    Option ExtensionPolicy :=
  match setting with
  | ("include", v) => v.strings?.map fun x => { p with included := x }
  | ("exclude", v) => v.strings?.map fun x => { p with excluded := x }
  | ("exclude_platform_extensions", v) => v.bool?.map fun x => { p with withoutPlatforms := x }
  | _ => none

def ExtensionPolicy.ofJson? (v : JsonValue) : Option ExtensionPolicy := do
  let settings ← v.settings? ["include", "exclude", "exclude_platform_extensions"]
  settings.foldlM ExtensionPolicy.set? {}

namespace Configuration

def set? (c : Configuration) (setting : String × JsonValue) : Option Configuration :=
  match setting with
  | ("target", v) => v.string?.map fun x => { c with target := x }
  | ("output_dir", v) => v.string?.map fun x => { c with outputDirectory := x }
  | ("namespace", v) => v.string?.map fun x => { c with codeNamespace := x }
  | ("api_versions", v) => v.strings?.map fun x => { c with versions := x }
  | ("extensions", v) => (ExtensionPolicy.ofJson? v).map fun x => { c with extensions := x }
  | ("excluded_structs", v) => v.strings?.map fun x => { c with excludedStructs := x }
  | _ => none

def settingNames : List String :=
  ["target", "output_dir", "namespace", "api_versions", "extensions", "excluded_structs"]

def ofJson? (v : JsonValue) : Option Configuration := do
  (← v.settings? settingNames).foldlM set? {}

def read? (text : String) : Option Configuration := (JsonValue.read? text).bind ofJson?

end Configuration
end VulkanFoundry
