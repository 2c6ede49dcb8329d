/-
# Values written in attributes

Attributes hold comma separated lists, 32-bit numbers in decimal or
hexadecimal, array dimensions and enum values. Blanks around a list entry, a
number or a dimension do not count, and empty list entries are dropped.
-/
import VulkanFoundry.Registry.LoadError
import VulkanFoundry.TypeText

namespace VulkanFoundry

namespace Attribute

/-- The entries of a comma separated list, trimmed, without the empty ones. -/
def splitChars (cs : List Char) : List (List Char) :=
  ((Text.splitAtChar ',' cs).map Text.trim).filter (· ≠ [])

def splitList (value : String) : List String := (splitChars value.toList).map String.ofList

def list (value : Option String) : List String :=
  match value with
  | some v => splitList v
  | none => []

/-- Whether an element applies to Vulkan: it has no list of APIs or Vulkan is in
the list. -/
def supportsVulkan (api : Option String) : Bool :=
  match api with
  | none => true
  | some v => (splitList v).contains "vulkan"

def isTrue (value : Option String) : Bool := value = some "true"

def firstIsTrue (value : Option String) : Bool := (list value).head? = some "true"

def nonBlank (value : Option String) : Option String :=
  value.filter fun v => !(Text.trim v.toList).isEmpty

def required (attr context : String) (value : Option String) : Except LoadError String :=
  match value with
  | some v => .ok v
  | none => .error (.missingAttribute attr context)

theorem required_eq_ok_iff {attr context : String} {value : Option String} {v : String} :
    required attr context value = .ok v ↔ value = some v := by
  cases value <;> simp [required]

/-- An unsigned 32-bit number, decimal or with `0x` in front hexadecimal. -/
def readNumber (attr value : String) : Except LoadError UInt32 :=
  let cs := Text.trim value.toList
  let number := match Text.dropLeading? ['0', 'x'] cs with
    | some hex => Text.readUInt32? 16 hex
    | none => Text.readUInt32? 10 cs
  match number with
  | some n => .ok n
  | none => .error (.invalidAttribute attr value)

def readNumber? (attr : String) (value : Option String) :
    Except LoadError (Option UInt32) :=
  match value with
  | some v => (readNumber attr v).map some
  | none => .ok none

def requiredNumber (attr context : String) (value : Option String) :
    Except LoadError UInt32 := do
  readNumber attr (← required attr context value)

end Attribute

/-- A dimension of a static array: a number, or the name of a constant. -/
inductive ArraySize where
  | literal (n : UInt32)
  | constant (name : String)
  deriving DecidableEq, Repr

namespace ArraySize

/-- The dimension that the trimmed text between two brackets writes: one word,
read as a number if it is one. -/
def ofWord? (cs : List Char) : Option ArraySize :=
  if cs.isEmpty || !cs.all TypeText.isWordChar then none
  else match Text.readUInt32? 10 cs with
    | some n => some (.literal n)
    | none => some (.constant (String.ofList cs))

/-- The bracket groups that a text opens with, in order, or nothing if a group
is not closed or holds no dimension. What follows the last group is not
looked at. -/
def readGroups? : List Char → Option (List ArraySize)
  | '[' :: cs =>
    match h : Text.splitAtFirst? [']'] cs with
    | none => none
    | some (inner, rest) =>
      have : (Text.trimStart rest).length < cs.length + 1 := by
        have hcs := Text.eq_append_of_splitAtFirst? h
        have hle := (List.dropWhile_suffix Text.isBlank (l := rest)).length_le
        simp only [hcs, List.length_append, Text.trimStart]
        omega
      match ofWord? (Text.trim inner) with
      | none => none
      | some size => (readGroups? (Text.trimStart rest)).map (size :: ·)
  | _ => some []
termination_by cs => cs.length

/-- The dimensions after a declared name, outermost first. -/
def readAll (text : String) : Except LoadError (List ArraySize) :=
  match readGroups? (Text.trim text.toList) with
  | some sizes => .ok sizes
  | none => .error (.invalidAttribute "array size" text)

end ArraySize
end VulkanFoundry
