/-
# Members of structs and unions

A member is a declaration whose name may be followed by array brackets or, after
a colon, by the width of a bit field. Of the lengths given for a pointer
member the first one counts that is not the mark of a null-terminated text.
-/
import VulkanFoundry.Declaration.Basic
import VulkanFoundry.Registry.Basic

namespace VulkanFoundry

/-- The list entry that marks a text ended by a null character. -/
def nullTerminatedMark : String := "null-terminated"

/-- The array dimensions and the bit field width that follow a member's name. -/
def readLayout (suffix : String) : Except LoadError (List ArraySize × Option UInt32) :=
  match suffix.toList with
  | ':' :: width => do
    let n ← Attribute.readNumber "bitfield width" (String.ofList width)
    return ([], some n)
  | _ => do
    let sizes ← ArraySize.readAll suffix
    return (sizes, none)

def Member.ofElement (owner : String) (e : MemberElement) : Except LoadError Member := do
  let d := Declaration.ofFragments e.content
  let name ← d.requireName owner
  let type ← d.requireType (owner ++ "::" ++ name)
  let (arraySizes, bitFieldWidth) ← readLayout (Text.trimmed d.suffix)
  let lens := Attribute.list e.len
  return {
    type, name, arraySizes, bitFieldWidth
    expectedValue := e.values
    len := lens.find? (· ≠ nullTerminatedMark)
    nullTerminated := lens.contains nullTerminatedMark
    noAutoValidity := Attribute.isTrue e.noAutoValidity
    optional := Attribute.firstIsTrue e.optional
    selection := e.selection }

def TypeElement.memberElements (e : TypeElement) : List MemberElement :=
  e.content.filterMap fun
    | .member m => if Attribute.supportsVulkan m.api then some m else none
    | _ => none

def TypeElement.members (e : TypeElement) (owner : String) : Except LoadError (List Member) :=
  e.memberElements.mapM (Member.ofElement owner)

end VulkanFoundry
