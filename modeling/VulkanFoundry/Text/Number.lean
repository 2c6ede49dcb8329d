/-
# Numbers in text

Unsigned numbers of a fixed width are read from digits in a base, with one
plus sign allowed before them; leading zeros are allowed, an empty digit
string and a value that does not fit are refused. Numbers are written in
decimal or in lower-case hexadecimal of a least width.
-/
import VulkanFoundry.Text.Blank

namespace VulkanFoundry
namespace Text

/-- The value of a digit in a base of at most sixteen. -/
def digit? (base : Nat) (c : Char) : Option Nat :=
  let value :=
    if '0' ≤ c ∧ c ≤ '9' then some (c.toNat - '0'.toNat)
    else if 'a' ≤ c ∧ c ≤ 'f' then some (c.toNat - 'a'.toNat + 10)
    else if 'A' ≤ c ∧ c ≤ 'F' then some (c.toNat - 'A'.toNat + 10)
    else none
  value.filter (· < base)

/-- The number that the digits write after the value read so far. -/
def readDigits? (base : Nat) : Nat → List Char → Option Nat
  | value, [] => some value
  | value, c :: cs =>
    match digit? base c with
    | some d => readDigits? base (value * base + d) cs
    | none => none

def readNat? (base : Nat) : List Char → Option Nat
  | [] => none
  | cs => readDigits? base 0 cs

/-- A number below the limit, written with an optional plus sign. -/
def readBelow? (base limit : Nat) (cs : List Char) : Option Nat :=
  let digits := match cs with
    | '+' :: rest => rest
    | _ => cs
  (readNat? base digits).filter (· < limit)

def readUInt32? (base : Nat) (cs : List Char) : Option UInt32 :=
  (readBelow? base UInt32.size cs).map UInt32.ofNat

def readUInt64? (base : Nat) (cs : List Char) : Option UInt64 :=
  (readBelow? base UInt64.size cs).map UInt64.ofNat

def digitChar (d : Nat) : Char :=
  if d < 10 then Char.ofNat ('0'.toNat + d) else Char.ofNat ('a'.toNat + (d - 10))

/-- The digits of a number in a base of at least two, without leading zeros. -/
def digits (base : Nat) (n : Nat) : List Char :=
  if h : n < base ∨ base < 2 then [digitChar (n % base)]
  else
    have : n / base < n := Nat.div_lt_self (by omega) (by omega)
    digits base (n / base) ++ [digitChar (n % base)]
termination_by n

def decimal (n : Nat) : String := String.ofList (digits 10 n)

def decimalInt (n : Int) : String :=
  if n < 0 then "-" ++ decimal n.natAbs else decimal n.natAbs

/-- The hexadecimal text of a number, filled with zeros up to a width. -/
def paddedHex (width : Nat) (n : Nat) : String :=
  let written := digits 16 n
  String.ofList (List.replicate (width - written.length) '0' ++ written)

end Text
end VulkanFoundry
