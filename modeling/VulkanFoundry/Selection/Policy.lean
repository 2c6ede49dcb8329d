/-
# Which structs a configuration selects

The roots are the structs that the configured versions and the included
extensions require. A root is open if a version requires it, or an extension
that no macro protects; otherwise it carries the macros of the platforms whose
extensions require it. Excluded structs are no roots. The selection is closed
over the open roots first, so that what open code needs always exists, and then
over every other root under each of its macros.
-/
import VulkanFoundry.Configuration.Basic
import VulkanFoundry.Selection.Closure

namespace VulkanFoundry

/-- How a root is required: without a condition, or under macros. -/
inductive Root where
  | always
  | guarded (macros : NameSet)
  deriving DecidableEq

/-- The roots with a name required under a macro, or without one. -/
def requireRoot (guard : Option String) (roots : NameMap Root) (name : String) : NameMap Root :=
  match guard, roots.get? name with
  | none, _ => roots.insert name .always
  | some _, some .always => roots
  | some condition, some (.guarded macros) => roots.insert name (.guarded (macros.add condition))
  | some condition, none => roots.insert name (.guarded (NameSet.add ∅ condition))

namespace Registry

def knownExtension (r : Registry) (name : String) : Except GenerationError Extension :=
  match r.extensions.get? name with
  | some x => .ok x
  | none => .error (.unknownExtension name)

/-- The extensions that a policy names for inclusion. -/
def namedExtensions (r : Registry) (p : ExtensionPolicy) :
    Except GenerationError (NameMap Extension) :=
  if p.included.contains allExtensions then .ok r.extensions
  else do
    let named ← p.included.mapM r.knownExtension
    return NameMap.ofList (named.map fun x => (x.name, x))

/-- Whether a policy leaves an included extension out. -/
def leavesOut (p : ExtensionPolicy) (name : String) (x : Extension) : Bool :=
  p.excluded.contains name || (p.withoutPlatforms && x.platform.isSome)

def includedExtensions (r : Registry) (p : ExtensionPolicy) :
    Except GenerationError (List Extension) := do
  p.excluded.forM fun name => (r.knownExtension name).map fun _ => ()
  let named ← r.namedExtensions p
  return (named.entries.filter fun e => !leavesOut p e.1 e.2).map (·.2)

/-- The canonical names of the structs that features require. -/
def requiredStructs (r : Registry) (features : List Feature) : List String :=
  features.filterMap fun f =>
    if f.kind = .type then (r.struct? f.name).map (·.name) else none

/-- The macro that protects an extension, if its platform is declared. -/
def guardOf (r : Registry) (x : Extension) : Option String :=
  (x.platform.bind r.platforms.get?).map (·.protect)

def configuredVersions (r : Registry) (names : List String) :
    Except GenerationError (List CoreVersion) :=
  names.mapM fun name =>
    match r.coreVersions.get? name with
    | some v => .ok v
    | none => .error (.unknownVersion name)

/-- The roots that versions and extensions require. -/
def rootsOf (r : Registry) (versions : List CoreVersion) (extensions : List Extension) :
    NameMap Root :=
  let required := versions.foldl (fun roots v =>
    (r.requiredStructs v.features.values).foldl (requireRoot none) roots) NameMap.empty
  extensions.foldl (fun roots x =>
    (r.requiredStructs x.features).foldl (requireRoot (r.guardOf x)) roots) required

/-- The canonical names of the excluded structs; names that denote no struct stay
as they are. -/
def excludedNames (r : Registry) (c : Configuration) : NameSet :=
  NameSet.ofNames (c.excludedStructs.map r.structName)

def roots (r : Registry) (c : Configuration) : Except GenerationError (List (String × Root)) := do
  let versions ← r.configuredVersions c.versions
  let extensions ← r.includedExtensions c.extensions
  let excluded := r.excludedNames c
  return (r.rootsOf versions extensions).entries.filter fun e => !excluded.contains e.1

def alwaysRoots (roots : List (String × Root)) : List String :=
  roots.filterMap fun e =>
    match e.2 with
    | .always => some e.1
    | .guarded _ => none

/-- The roots with each macro that they are required under. -/
def guardedRoots (roots : List (String × Root)) : List (String × String) :=
  roots.flatMap fun e =>
    match e.2 with
    | .always => []
    | .guarded macros => macros.names.map fun condition => (e.1, condition)

def select (r : Registry) (c : Configuration) : Except GenerationError Selection := do
  let roots ← r.roots c
  let excluded := r.excludedNames c
  let always ← r.closeOver excluded none [] (alwaysRoots roots).reverse {}
  (guardedRoots roots).foldlM
    (fun s e => r.closeOver excluded (some e.2) [] [e.1] s) always

end Registry
end VulkanFoundry
