/-
# Commands

A command has a prototype, which declares its name and return type, and
parameters. All lengths given for a parameter count but the mark of a
null-terminated text.
-/
import VulkanFoundry.Declaration.Member

namespace VulkanFoundry

/-- What must be synchronized outside for a parameter. -/
def ExternSync.ofText (text : String) : ExternSync :=
  if text = "true" then .whole else .members text

/-- The lengths in a list without the mark of a null-terminated text, separated
by commas, if there are any. -/
def lengthsWithoutMark (len : Option String) : Option String :=
  match (Attribute.list len).filter (· ≠ nullTerminatedMark) with
  | [] => none
  | lens => some (Text.joined "," lens)

def CommandParam.ofElement (command : String) (e : ParamElement) :
    Except LoadError CommandParam := do
  let d := Declaration.ofFragments e.content
  let name ← d.requireName command
  let type ← d.requireType (command ++ "(" ++ name ++ ")")
  return {
    type, name
    optional := Attribute.firstIsTrue e.optional
    externSync := e.externSync.map ExternSync.ofText
    len := lengthsWithoutMark e.len }

def CommandElement.vulkanParams (e : CommandElement) : List ParamElement :=
  e.params.filter fun p => Attribute.supportsVulkan p.api

def Command.ofElement (e : CommandElement) : Except LoadError Command := do
  match e.proto with
  | none => .error (.missingElement "proto" (e.name.getD "command"))
  | some proto =>
    let d := Declaration.ofFragments proto
    let name ← d.requireName "command proto"
    let returnType ← d.requireType name
    let params ← e.vulkanParams.mapM (CommandParam.ofElement name)
    return {
      name, returnType, params
      successCodes := Attribute.list e.successCodes
      errorCodes := Attribute.list e.errorCodes
      queues := Attribute.list e.queues
      bufferLevels := Attribute.list e.bufferLevels
      renderPass := e.renderPass }

end VulkanFoundry
