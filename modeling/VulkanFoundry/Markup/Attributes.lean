/-
# Attributes of a tag

The text behind an element's name is a row of attributes, each a name, an
equals sign and a quoted value, with blanks around the sign and before the
name. A name may be given once. Values are kept as written until they are
asked for; then their references are replaced, and nothing else is changed.
Where a name has a prefix with a colon, the part behind the colon counts; but
the attributes with the reserved prefixes `xml` and `xmlns` keep their whole
names.

A text may hold something else than attributes. `Attributes.read?` refuses it
then; `Attributes.leading` stops there, and `Attributes.readable` passes over
what it cannot read and goes on.

Key definitions: `resolveReference?`, `unescape?`, `Attributes`, `Attributes.read?`,
`Attributes.leading`, `Attributes.readable`.
-/
import VulkanFoundry.Markup.Lexeme
import VulkanFoundry.Text.Number

namespace VulkanFoundry
namespace Markup

/-- The character of a numeric reference: any character but NUL. -/
def characterOf? (code : Nat) : Option Char :=
  if code ≠ 0 ∧ code.isValidChar then some (Char.ofNat code) else none

/-- The character that a reference stands for: one of the five named ones, or
one given by its number. -/
def resolveReference? : List Char → Option Char
  | ['l', 't'] => some '<'
  | ['g', 't'] => some '>'
  | ['a', 'm', 'p'] => some '&'
  | ['q', 'u', 'o', 't'] => some '"'
  | ['a', 'p', 'o', 's'] => some '\''
  | '#' :: 'x' :: digits => (Text.readNat? 16 digits).bind characterOf?
  | '#' :: digits => (Text.readNat? 10 digits).bind characterOf?
  | _ => none

/-- The text with its references replaced, where `inside` holds the name of the
reference being read, in reverse. -/
def unescapeFrom? : Option (List Char) → List Char → Option (List Char)
  | none, [] => some []
  | some _, [] => none
  | none, c :: cs =>
    if c = '&' then unescapeFrom? (some []) cs
    else (unescapeFrom? none cs).map (c :: ·)
  | some name, c :: cs =>
    if c = ';' then
      match resolveReference? name.reverse with
      | some r => (unescapeFrom? none cs).map (r :: ·)
      | none => none
    else if c = '&' then none
    else unescapeFrom? (some (c :: name)) cs

def unescape? (cs : List Char) : Option (List Char) := unescapeFrom? none cs

/-- The part of a name behind its first colon, or the whole name. -/
def localName (name : List Char) : String :=
  match Text.splitAtFirst? [':'] name with
  | some (_, rest) => String.ofList rest
  | none => String.ofList name

/-- The name under which an attribute is asked for. -/
def attributeName (name : List Char) : String :=
  match Text.splitAtFirst? [':'] name with
  | some (['x', 'm', 'l'], _) | some (['x', 'm', 'l', 'n', 's'], _) => String.ofList name
  | some (_, rest) => String.ofList rest
  | none => String.ofList name

/-- Attribute names with their values as written. -/
abbrev Attributes := List (List Char × List Char)

namespace Attributes

/-- Whether the character may stand in a name behind its first character. -/
def isNameChar (c : Char) : Bool := !isSpace c && c ≠ '='

/-- The name that starts with a character, and what follows it and the blanks
behind it. -/
def nameAt (c : Char) (cs : List Char) : List Char × List Char :=
  (c :: cs.takeWhile isNameChar, (cs.dropWhile isNameChar).dropWhile isSpace)

/-- What follows a word that is passed over: the text from its first blank on. -/
def behindWord (cs : List Char) : List Char := cs.dropWhile fun c => !isSpace c

/-- The value behind an equals sign and what follows it or, if there is none
that can be read, the text from which reading may go on. -/
def valueAt (cs : List Char) : Except (List Char) (List Char × List Char) :=
  match cs.dropWhile isSpace with
  | [] => .error []
  | quote :: rest =>
    if quote = '"' || quote = '\'' then
      match Text.splitAtFirst? [quote] rest with
      | some found => .ok found
      | none => .error []
    else .error (behindWord (quote :: rest))

/-- The attribute that starts with a character, and what follows its value. -/
def readOne? (c : Char) (cs : List Char) : Option ((List Char × List Char) × List Char) :=
  match (nameAt c cs).2 with
  | '=' :: afterSign =>
    match valueAt afterSign with
    | .ok (value, rest) => some (((nameAt c cs).1, value), rest)
    | .error _ => none
  | _ => none

theorem nameAt_length (c : Char) (cs : List Char) : (nameAt c cs).2.length ≤ cs.length :=
  Nat.le_trans (List.dropWhile_suffix isSpace).length_le (List.dropWhile_suffix isNameChar).length_le

theorem behindWord_length (cs : List Char) : (behindWord cs).length ≤ cs.length :=
  (List.dropWhile_suffix _).length_le

theorem length_of_valueAt {cs : List Char} {found : List Char × List Char}
    (h : valueAt cs = .ok found) : found.2.length ≤ cs.length := by
  unfold valueAt at h
  have hblank := (List.dropWhile_suffix isSpace (l := cs)).length_le
  split at h
  · simp at h
  · rename_i quote rest hquote
    rw [hquote, List.length_cons] at hblank
    split at h
    · split at h
      · rename_i cut hcut
        simp only [Except.ok.injEq] at h
        have hlength := congrArg List.length (Text.eq_append_of_splitAtFirst? hcut)
        simp only [List.length_append, List.length_cons, List.length_nil] at hlength
        rw [← h]
        omega
      · simp at h
    · simp at h

theorem length_of_valueAt_error {cs rest : List Char} (h : valueAt cs = .error rest) :
    rest.length ≤ cs.length := by
  unfold valueAt at h
  have hblank := (List.dropWhile_suffix isSpace (l := cs)).length_le
  split at h
  · simp only [Except.error.injEq] at h
    simp [← h]
  · rename_i quote after hquote
    rw [hquote] at hblank
    split at h
    · split at h
      · simp at h
      · simp only [Except.error.injEq] at h
        simp [← h]
    · simp only [Except.error.injEq] at h
      rw [← h]
      exact Nat.le_trans (behindWord_length _) hblank

theorem readOne?_length {c : Char} {cs : List Char}
    {p : (List Char × List Char) × List Char} (h : readOne? c cs = some p) :
    p.2.length ≤ cs.length := by
  unfold readOne? at h
  have hname := nameAt_length c cs
  split at h
  · rename_i afterSign hsign
    rw [hsign, List.length_cons] at hname
    split at h
    · rename_i value rest hvalue
      simp only [Option.some.injEq] at h
      have := length_of_valueAt hvalue
      rw [← h]
      simp only at this ⊢
      omega
    · simp at h
  · simp at h

/-- The attributes that a text starts with, names repeated or not, and whether
the text holds nothing else. -/
def scan : List Char → Attributes × Bool
  | [] => ([], true)
  | c :: cs =>
    if isSpace c then scan cs
    else
      match h : readOne? c cs with
      | none => ([], false)
      | some (entry, rest) =>
        have : rest.length ≤ cs.length := readOne?_length h
        let (entries, complete) := scan rest
        (entry :: entries, complete)
termination_by cs => cs.length
decreasing_by
  all_goals simp only [List.length_cons]
  all_goals omega

/-- The attributes that a text starts with, names repeated or not. -/
def leading (cs : List Char) : Attributes := (scan cs).1

/-- The attributes of a text that holds nothing else and repeats no name. -/
def read? (cs : List Char) : Option Attributes :=
  match scan cs with
  | (entries, true) => if (entries.map (·.1)).Nodup then some entries else none
  | (_, false) => none

/-- The attributes in a text that have a value and a name not known before. A
word without a value is passed over, and so is what stands for the value of a
known name, up to the next blank. -/
def readableFrom (known : List (List Char)) : List Char → Attributes
  | [] => []
  | c :: cs =>
    if isSpace c then readableFrom known cs
    else
      have := nameAt_length c cs
      match _hrest : (nameAt c cs).2 with
      | '=' :: afterSign =>
        let name := (nameAt c cs).1
        if known.contains name then
          have := behindWord_length afterSign
          readableFrom known (behindWord afterSign)
        else
          match hvalue : valueAt afterSign with
          | .ok (value, rest) =>
            have := length_of_valueAt hvalue
            (name, value) :: readableFrom (name :: known) rest
          | .error rest =>
            have := length_of_valueAt_error hvalue
            readableFrom (name :: known) rest
      | rest => readableFrom known rest
termination_by cs => cs.length
decreasing_by
  all_goals simp_all only [List.length_cons]
  all_goals omega

/-- The attributes in a text that can be read, each name once. -/
def readable (cs : List Char) : Attributes := readableFrom [] cs

end Attributes
end Markup
end VulkanFoundry
