/-
# Generation runs

A run reads a registry document, generates the configured files in memory and
writes them into the output directory, one after another. It stops at the first
failure; no file is written before everything has been generated.
-/
import VulkanFoundry.Configuration.Reader
import VulkanFoundry.Generation.FileStore
import VulkanFoundry.Generation.Target
import VulkanFoundry.Registry.OfDocument

namespace VulkanFoundry

/-- Writes files into a directory in turn; gives the paths written, or the path at
which writing stopped, and the store in either case. -/
def writeInto (directory : String) :
    List (String × String) → FileStore → Except GenerationError (List String) × FileStore
  | [], s => (.ok [], s)
  | (name, contents) :: rest, s =>
    let path := FileStore.inside directory name
    match s.write path contents with
    | .error refused => (.error (.inaccessible refused), s)
    | .ok s' =>
      let (written, after) := writeInto directory rest s'
      (written.map (path :: ·), after)

/-- Writes the generated files into a directory, which is made if need be. -/
def GeneratedFiles.writeTo (g : GeneratedFiles) (directory : String) (s : FileStore) :
    Except GenerationError (List String) × FileStore :=
  match s.createDirectory directory with
  | (false, s') => (.error (.inaccessible directory), s')
  | (true, s') => writeInto directory g.files s'

def generateFrom (text : String) (c : Configuration) : Except GenerationError GeneratedFiles :=
  match Registry.load text with
  | .error e => .error (.load e)
  | .ok r => generate r c

def run (text : String) (c : Configuration) (s : FileStore) :
    Except GenerationError (List String) × FileStore :=
  match generateFrom text c with
  | .error e => (.error e, s)
  | .ok g => g.writeTo c.outputDirectory s

def runFromFile (path : String) (c : Configuration) (s : FileStore) :
    Except GenerationError (List String) × FileStore :=
  match s.read? path with
  | none => (.error (.inaccessible path), s)
  | some text => run text c s

def Configuration.ofText (text : String) : Except GenerationError Configuration :=
  match Configuration.read? text with
  | some c => .ok c
  | none => .error .malformedConfiguration

def Configuration.fromFile (path : String) (s : FileStore) :
    Except GenerationError Configuration :=
  match s.read? path with
  | none => .error (.inaccessible path)
  | some text => Configuration.ofText text

end VulkanFoundry
