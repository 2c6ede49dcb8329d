/-
# A store of files

Files and directories by the places that paths lead to, on a device that may
refuse to make a directory or to write a file. Making a directory makes all
directories above it and fails where one of these is a file; what was made
before the failure stays. A write needs the directory around the file, and a
write that fails leaves the store as it was.

Paths are relative; their parts are separated by slashes, and empty parts do not
count. A dot stays where it is and two dots go one directory up. A path that
ends in a dot names a directory that is there already: making it makes the
directories above, but not the directory itself. A path that is too long or
holds a NUL leads nowhere, and a part that is too long is no name.
-/
import VulkanFoundry.NameMap
import VulkanFoundry.Text.Blank

namespace VulkanFoundry

/-- What is found at a place. -/
inductive StoreEntry where
  | directory
  | file (contents : String)
  deriving DecidableEq

/-- Files and directories by place, and what the device allows. -/
structure FileStore where
  entries : NameMap StoreEntry := ∅
  allowsDirectory : String → Bool := fun _ => true
  allowsWrite : String → Bool := fun _ => true

namespace FileStore

/-- The parts of a path between its slashes, the empty ones included. -/
def parts (path : String) : List String := (Text.splitAtChar '/' path.toList).map String.ofList

/-- The parts of a path that lead somewhere. -/
def steps (path : String) : List String := (parts path).filter fun p => p ≠ "" && p ≠ "."

def endsInDot (path : String) : Bool :=
  ((parts path).filter (· ≠ "")).getLast? = some "."

/-- Whether a path can only lead to a directory. -/
def namesDirectory (path : String) : Bool :=
  (parts path).getLast? = some "" || endsInDot path

/-- The most bytes that a path may have. -/
def longestPath : Nat := 4095

/-- The most bytes that a name may have. -/
def longestName : Nat := 255

/-- Whether a path can be followed at all. -/
def isUsable (path : String) : Bool :=
  !path.toList.contains '\x00' && path.utf8ByteSize ≤ longestPath

def inside (directory name : String) : String :=
  if directory.isEmpty || directory.toList.getLast? = some '/' then directory ++ name
  else directory ++ "/" ++ name

/-- The name of the place that plain steps lead to. -/
def placeName (place : List String) : String := Text.joined "/" place

def advance (place : List String) (step : String) : List String :=
  if step = ".." then place.dropLast else place ++ [step]

/-- Whether there is a directory at a place; at the topmost one there always is. -/
def isDirectory (s : FileStore) (place : List String) : Bool :=
  place.isEmpty || s.entries.get? (placeName place) = some .directory

/-- The place that steps lead to, if all places on the way are directories. -/
def walk? (s : FileStore) (place : List String) : List String → Option (List String)
  | [] => some place
  | step :: rest => if s.isDirectory place then s.walk? (advance place step) rest else none

def place? (s : FileStore) (path : String) : Option (List String) :=
  if isUsable path then s.walk? [] (steps path) else none

def hasDirectory (s : FileStore) (path : String) : Bool :=
  match s.place? path with
  | some place => s.isDirectory place
  | none => false

/-- Makes one directory if it is not there, with the directory around it being
there. -/
def createOne (s : FileStore) (place : List String) : Option FileStore :=
  if s.isDirectory place then some s
  else if s.entries.contains (placeName place) || !s.allowsDirectory (placeName place) ||
      (place.any fun name => longestName < name.utf8ByteSize) then none
  else some { s with entries := s.entries.insert (placeName place) .directory }

/-- Makes the directories that steps lead through from a directory, and stops at
the first that cannot be made. -/
def createAlong (s : FileStore) (place : List String) : List String → Bool × FileStore
  | [] => (true, s)
  | step :: rest =>
    match s.createOne (advance place step) with
    | none => (false, s)
    | some s' => createAlong s' (advance place step) rest

/-- Makes a directory with all above it, and says whether it is there now. -/
def createDirectory (s : FileStore) (path : String) : Bool × FileStore :=
  if !isUsable path then (false, s)
  else if endsInDot path then
    let (made, s') := s.createAlong [] (steps path).dropLast
    (made && s'.hasDirectory path, s')
  else s.createAlong [] (steps path)

def write (s : FileStore) (path contents : String) : Except String FileStore :=
  match s.place? path with
  | none => .error path
  | some place =>
    if namesDirectory path || s.isDirectory place || !s.allowsWrite (placeName place) ||
        (place.any fun name => longestName < name.utf8ByteSize) then .error path
    else .ok { s with entries := s.entries.insert (placeName place) (.file contents) }

def read? (s : FileStore) (path : String) : Option String :=
  match (s.place? path).bind fun place => s.entries.get? (placeName place) with
  | some (.file contents) => if namesDirectory path then none else some contents
  | _ => none

end FileStore
end VulkanFoundry
