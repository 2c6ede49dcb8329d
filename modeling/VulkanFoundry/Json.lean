/-
# JSON texts

A JSON value is read strictly: nothing but blanks around it, no comments, no
comma behind the last entry, control characters escaped in strings, and the
escapes of surrogates only in pairs. The entries of an object are kept in
order, a repeated name included.

A nested value takes at least one character, so the length of the text bounds
the depth of nesting.
-/
import VulkanFoundry.Text.Number

namespace VulkanFoundry

/-- A JSON value. Numbers are kept as they are written. -/
inductive JsonValue where
  | null
  | bool (b : Bool)
  | number (text : String)
  | string (s : String)
  | array (items : List JsonValue)
  | object (entries : List (String × JsonValue))

namespace JsonValue

/-- The blanks of JSON: space, tab, line feed and carriage return. -/
def isSpace (c : Char) : Bool := c = ' ' || c = '\t' || c = '\n' || c = '\r'

def skipSpace (cs : List Char) : List Char := cs.dropWhile isSpace

/-- The character that a short escape stands for. -/
def shortEscape? : Char → Option Char
  | '"' => some '"'
  | '\\' => some '\\'
  | '/' => some '/'
  | 'b' => some '\x08'
  | 'f' => some '\x0c'
  | 'n' => some '\n'
  | 'r' => some '\r'
  | 't' => some '\t'
  | _ => none

/-- The character of two surrogates. -/
def pairedChar (high low : Nat) : Char :=
  Char.ofNat (0x10000 + (high - 0xD800) * 0x400 + (low - 0xDC00))

/-- What a Unicode escape stands for, read from behind its `u`, and the text
behind it: four hexadecimal digits, or twice four for a pair of surrogates. -/
def unicodeEscape? (cs : List Char) : Option (Char × List Char) :=
  match Text.readNat? 16 (cs.take 4) with
  | none => none
  | some code =>
    if cs.length < 4 then none
    else if 0xD800 ≤ code ∧ code < 0xDC00 then
      match cs.drop 4 with
      | '\\' :: 'u' :: rest =>
        match Text.readNat? 16 (rest.take 4) with
        | some low =>
          if 4 ≤ rest.length ∧ 0xDC00 ≤ low ∧ low < 0xE000 then
            some (pairedChar code low, rest.drop 4)
          else none
        | none => none
      | _ => none
    else if 0xDC00 ≤ code ∧ code < 0xE000 then none
    else some (Char.ofNat code, cs.drop 4)

/-- The text of a string and what follows its closing quote, read from behind
the opening one. -/
def stringRest? : Nat → List Char → Option (List Char × List Char)
  | 0, _ => none
  | _, [] => none
  | fuel + 1, '\\' :: 'u' :: cs =>
    match unicodeEscape? cs with
    | some (c, rest) => (stringRest? fuel rest).map fun p => (c :: p.1, p.2)
    | none => none
  | fuel + 1, '\\' :: e :: cs =>
    match shortEscape? e with
    | some c => (stringRest? fuel cs).map fun p => (c :: p.1, p.2)
    | none => none
  | fuel + 1, c :: cs =>
    if c = '"' then some ([], cs)
    else if c.toNat < 0x20 then none
    else (stringRest? fuel cs).map fun p => (c :: p.1, p.2)

/-- The characters that a number may consist of. -/
def isNumberChar (c : Char) : Bool :=
  c.isDigit || c = '-' || c = '+' || c = '.' || c = 'e' || c = 'E'

/-- Whether the text is a whole number in JSON's form without a sign: no zero
before other digits. -/
def isWholePart (cs : List Char) : Bool :=
  cs = ['0'] || (!cs.isEmpty && cs.all Char.isDigit && cs.head? ≠ some '0')

/-- Whether the text is an exponent with its mark, or empty. -/
def isExponent (cs : List Char) : Bool :=
  match cs with
  | [] => true
  | _ :: '-' :: digits => !digits.isEmpty && digits.all Char.isDigit
  | _ :: '+' :: digits => !digits.isEmpty && digits.all Char.isDigit
  | _ :: digits => !digits.isEmpty && digits.all Char.isDigit

def isNumber (cs : List Char) : Bool :=
  let unsigned := match cs with
    | '-' :: rest => rest
    | _ => cs
  let mantissa := unsigned.takeWhile fun c => c ≠ 'e' && c ≠ 'E'
  let exponent := unsigned.dropWhile fun c => c ≠ 'e' && c ≠ 'E'
  let fractionOk := match mantissa.dropWhile (· ≠ '.') with
    | [] => true
    | _ :: digits => !digits.isEmpty && digits.all Char.isDigit
  isWholePart (mantissa.takeWhile (· ≠ '.')) && fractionOk && isExponent exponent

mutual

/-- The value that a text starts with, and what follows it. -/
def value? : Nat → List Char → Option (JsonValue × List Char)
  | 0, _ => none
  | fuel + 1, cs =>
    match skipSpace cs with
    | 'n' :: 'u' :: 'l' :: 'l' :: rest => some (.null, rest)
    | 't' :: 'r' :: 'u' :: 'e' :: rest => some (.bool true, rest)
    | 'f' :: 'a' :: 'l' :: 's' :: 'e' :: rest => some (.bool false, rest)
    | '"' :: rest =>
      (stringRest? (rest.length + 1) rest).map fun p => (.string (String.ofList p.1), p.2)
    | '[' :: rest =>
      match skipSpace rest with
      | ']' :: after => some (.array [], after)
      | _ => (items? fuel rest).map fun p => (.array p.1, p.2)
    | '\x7b' :: rest =>
      match skipSpace rest with
      | '\x7d' :: after => some (.object [], after)
      | _ => (entries? fuel rest).map fun p => (.object p.1, p.2)
    | other =>
      let number := other.takeWhile isNumberChar
      if isNumber number then
        some (.number (String.ofList number), other.dropWhile isNumberChar)
      else none

/-- The items of an array up to its closing bracket, and what follows that. -/
def items? : Nat → List Char → Option (List JsonValue × List Char)
  | 0, _ => none
  | fuel + 1, cs =>
    match value? fuel cs with
    | none => none
    | some (item, rest) =>
      match skipSpace rest with
      | ',' :: more => (items? fuel more).map fun p => (item :: p.1, p.2)
      | ']' :: after => some ([item], after)
      | _ => none

/-- The entries of an object up to its closing brace, and what follows that. -/
def entries? : Nat → List Char → Option (List (String × JsonValue) × List Char)
  | 0, _ => none
  | fuel + 1, cs =>
    match skipSpace cs with
    | '"' :: afterQuote =>
      match stringRest? (afterQuote.length + 1) afterQuote with
      | none => none
      | some (name, afterName) =>
        match skipSpace afterName with
        | ':' :: afterColon =>
          match value? fuel afterColon with
          | none => none
          | some (value, rest) =>
            match skipSpace rest with
            | ',' :: more =>
              (entries? fuel more).map fun p => ((String.ofList name, value) :: p.1, p.2)
            | '\x7d' :: after => some ([(String.ofList name, value)], after)
            | _ => none
        | _ => none
    | _ => none

end

def read? (text : String) : Option JsonValue :=
  let cs := text.toList
  match value? (2 * cs.length + 2) cs with
  | some (value, rest) => if (skipSpace rest).isEmpty then some value else none
  | none => none

end JsonValue
end VulkanFoundry
