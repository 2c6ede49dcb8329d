/-
# Image formats

A format has components and planes and a number of attributes. The bits of a
component are a number, or the word `compressed` for a component that has no
bits of its own.
-/
import VulkanFoundry.Attribute
import VulkanFoundry.Document.Basic
import VulkanFoundry.Registry.Basic

namespace VulkanFoundry

open Attribute

/-- The bits of a component. -/
def readBits (bits : String) : Except LoadError (Option UInt32) :=
  if bits = "compressed" then .ok none else (readNumber "bits" bits).map some

def FormatComponent.ofElement (format : String) (e : ComponentElement) :
    Except LoadError FormatComponent := do
  let bits ← readBits (← required "bits" format e.bits)
  let name ← required "name" format e.name
  let numericFormat ← required "numericFormat" format e.numericFormat
  let planeIndex ← readNumber? "planeIndex" e.planeIndex
  return { name, bits, numericFormat, planeIndex }

def FormatPlane.ofElement (format : String) (e : PlaneElement) :
    Except LoadError FormatPlane := do
  let index ← requiredNumber "index" format e.index
  let widthDivisor ← requiredNumber "widthDivisor" format e.widthDivisor
  let heightDivisor ← requiredNumber "heightDivisor" format e.heightDivisor
  let compatible ← required "compatible" format e.compatible
  return { index, widthDivisor, heightDivisor, compatible }

def ImageFormat.ofElement (e : FormatElement) : Except LoadError ImageFormat := do
  let name ← required "name" "format" e.name
  let components ← e.components.mapM (FormatComponent.ofElement name)
  let planes ← e.planes.mapM (FormatPlane.ofElement name)
  let formatClass ← required "class" name e.formatClass
  let blockSize ← requiredNumber "blockSize" name e.blockSize
  let texelsPerBlock ← requiredNumber "texelsPerBlock" name e.texelsPerBlock
  let packed ← readNumber? "packed" e.packed
  return {
    name, formatClass, blockSize, texelsPerBlock, packed, components, planes
    chroma := e.chroma
    spirvFormat := e.spirvFormat }

end VulkanFoundry
