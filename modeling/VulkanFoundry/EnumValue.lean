/-
# Values of enum fields

A field's value is a 64-bit integer together with the text to write for it.
It is declared as a C literal, as the position of a bit in a word of 32 or 64
bits, or as an offset in the block of values of a numbered extension.

A literal is a magnitude of at most 64 bits, and one that needs the highest
bit is a bit pattern whose value is negative. With a minus sign the magnitude
has to fit a signed word.
-/
import VulkanFoundry.Attribute

namespace VulkanFoundry

/-- A field's value and the text to write for it. -/
structure EnumValue where
  value : Int64
  representation : String
  deriving DecidableEq, Repr

namespace EnumValue

/-- The letters of C's suffixes for unsigned and long literals. -/
def isSuffixLetter (c : Char) : Bool := c = 'u' || c = 'U' || c = 'l' || c = 'L'

/-- The magnitude of a literal without sign and suffix: hexadecimal after `0x` or
`0X`, decimal otherwise. -/
def magnitude? (digits : List Char) : Option UInt64 :=
  match digits with
  | '0' :: 'x' :: hex => Text.readUInt64? 16 hex
  | '0' :: 'X' :: hex => Text.readUInt64? 16 hex
  | _ => Text.readUInt64? 10 digits

/-- The least magnitude that does not fit a signed 64-bit word. -/
def signedBound : Nat := 1 <<< 63

def literalValue? (cs : List Char) : Option Int64 :=
  match Text.dropEndWhile isSuffixLetter cs with
  | '-' :: digits =>
    match magnitude? digits with
    | some m => if m.toNat < signedBound then some (Int64.ofInt (-m.toNat)) else none
    | none => none
  | digits => (magnitude? digits).map fun m => Int64.ofInt m.toNat

/-- The value written as a C literal; the text to write is the literal itself. -/
def ofLiteral (literal : String) : Except LoadError EnumValue :=
  match literalValue? (Text.trim literal.toList) with
  | some value => .ok ⟨value, Text.trimmed literal⟩
  | none => .error (.invalidAttribute "value" literal)

def ofBitPosition (position : UInt32) (bit64 : Bool) : Except LoadError EnumValue :=
  let width := if bit64 then 64 else 32
  if width ≤ position.toNat then
    .error (.invalidAttribute "bitpos"
      (Text.decimal position.toNat ++ " (enum is " ++ Text.decimal width ++ "-bit)"))
  else
    let bit := 1 <<< position.toNat
    let written := "0x" ++ Text.paddedHex 8 bit
    .ok ⟨Int64.ofNat bit, if bit64 then written ++ "ULL" else written⟩

/-- The value at an offset in an extension's block of a thousand values. -/
def ofOffset (extensionNumber offset : UInt32) (negative : Bool) : Except LoadError EnumValue :=
  if extensionNumber = 0 then .error (.invalidAttribute "extnumber" "0")
  else
    let magnitude : Int := 1000000000 + (extensionNumber.toNat - 1) * 1000 + offset.toNat
    let value := if negative then -magnitude else magnitude
    .ok ⟨Int64.ofInt value, Text.decimalInt value⟩

end EnumValue
end VulkanFoundry
