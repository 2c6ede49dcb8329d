/-
# Generation targets

What can be generated: the struct factories, or the handle remapper. A target
is made for a registry and a configuration and renders a header, a source file
and a test file.
-/
import VulkanFoundry.Factory.Files
import VulkanFoundry.Remapper.Files

namespace VulkanFoundry

/-- A target that is ready to be rendered. -/
inductive Target where
  | factories (f : FactorySet)
  | remapper (m : HandleRemapper)

def targetNames : List String := [HandleRemapper.targetName, FactorySet.targetName]

namespace Target

def create (name : String) (r : Registry) (c : Configuration) : Except GenerationError Target :=
  if name = HandleRemapper.targetName then
    .ok (.remapper { handles := r.handles, codeNamespace := c.codeNamespace })
  else if name = FactorySet.targetName then (FactorySet.ofConfiguration r c).map .factories
  else .error (.unknownTarget name)

/-- The name of a target, which is also the stem of its file names. -/
def name : Target → String
  | factories _ => FactorySet.targetName
  | remapper _ => HandleRemapper.targetName

def header : Target → Except GenerationError String
  | factories f => f.header
  | remapper m => .ok m.header

def source : Target → Except GenerationError String
  | factories f => f.source
  | remapper m => .ok m.source

def tests : Target → Except GenerationError String
  | factories f => .ok f.tests
  | remapper m => .ok m.tests

end Target

structure GeneratedFiles where
  target : String
  header : String
  source : String
  tests : String
  deriving DecidableEq

namespace GeneratedFiles

/-- The files of a target; the first of them that fails decides the error. -/
def ofTarget (t : Target) : Except GenerationError GeneratedFiles := do
  let header ← t.header
  let source ← t.source
  let tests ← t.tests
  return { target := t.name, header, source, tests }

/-- The names of the files with their contents, in the order of writing. -/
def files (g : GeneratedFiles) : List (String × String) :=
  [(g.target ++ ".h", g.header), (g.target ++ ".cc", g.source),
    (g.target ++ "_tests.cc", g.tests)]

end GeneratedFiles

def generate (r : Registry) (c : Configuration) : Except GenerationError GeneratedFiles := do
  GeneratedFiles.ofTarget (← Target.create c.target r c)

end VulkanFoundry
