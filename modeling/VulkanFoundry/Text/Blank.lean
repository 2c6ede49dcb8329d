/-
# Blank characters, trimming and lines

The registry's attribute lists, array brackets and tag texts are trimmed of
blank characters before they are read. Blank means the Unicode property
`White_Space`, all 25 characters of it, and not the ASCII blanks alone.
Text is worked on as a list of characters.
-/
namespace VulkanFoundry
namespace Text

/-- The characters with the Unicode property `White_Space`. -/
def isBlank (c : Char) : Bool :=
  (0x09 ≤ c.val && c.val ≤ 0x0D) || c.val == 0x20 || c.val == 0x85 || c.val == 0xA0 ||
    c.val == 0x1680 || (0x2000 ≤ c.val && c.val ≤ 0x200A) || c.val == 0x2028 ||
    c.val == 0x2029 || c.val == 0x202F || c.val == 0x205F || c.val == 0x3000

def trimStart (cs : List Char) : List Char := cs.dropWhile isBlank

/-- The text without its trailing characters of a class. -/
def dropEndWhile (p : Char → Bool) (cs : List Char) : List Char :=
  (cs.reverse.dropWhile p).reverse

def trimEnd (cs : List Char) : List Char := dropEndWhile isBlank cs

def trim (cs : List Char) : List Char := trimEnd (trimStart cs)

def trimmed (s : String) : String := String.ofList (trim s.toList)

/-- Splits at every occurrence of a character; the pieces may be empty, and
there is one more than there are occurrences. -/
def splitAtChar (separator : Char) : List Char → List (List Char)
  | [] => [[]]
  | c :: cs =>
    if c = separator then [] :: splitAtChar separator cs
    else match splitAtChar separator cs with
      | [] => [[c]]
      | piece :: pieces => (c :: piece) :: pieces

/-- The pieces with the separator between each two. -/
def join (separator : List Char) : List (List Char) → List Char
  | [] => []
  | [piece] => piece
  | piece :: pieces => piece ++ separator ++ join separator pieces

def joined (separator : String) (pieces : List String) : String :=
  String.ofList (join separator.toList (pieces.map String.toList))

/-- What follows the given characters, if the text opens with them. -/
def dropLeading? : List Char → List Char → Option (List Char)
  | [], cs => some cs
  | _ :: _, [] => none
  | p :: ps, c :: cs => if p = c then dropLeading? ps cs else none

theorem eq_append_of_dropLeading? :
    ∀ {ps cs rest : List Char}, dropLeading? ps cs = some rest → cs = ps ++ rest
  | [], cs, rest, h => by simpa [dropLeading?] using h
  | p :: ps, [], rest, h => by simp [dropLeading?] at h
  | p :: ps, c :: cs, rest, h => by
    simp only [dropLeading?] at h
    split at h
    · rename_i hpc
      simp [hpc, eq_append_of_dropLeading? h]
    · simp at h

/-- The text before the first occurrence of the given characters and the text
after it. -/
def splitAtFirst? (marker : List Char) : List Char → Option (List Char × List Char)
  | [] => (dropLeading? marker []).map fun rest => ([], rest)
  | c :: cs =>
    match dropLeading? marker (c :: cs) with
    | some rest => some ([], rest)
    | none => (splitAtFirst? marker cs).map fun parts => (c :: parts.1, parts.2)

/-- Cutting at a marker loses nothing but the marker. -/
theorem eq_append_of_splitAtFirst? {marker : List Char} :
    ∀ {cs : List Char} {parts : List Char × List Char},
      splitAtFirst? marker cs = some parts → cs = parts.1 ++ (marker ++ parts.2)
  | [], parts, h => by
    simp only [splitAtFirst?, Option.map_eq_some_iff] at h
    obtain ⟨rest, hrest, rfl⟩ := h
    simpa using eq_append_of_dropLeading? hrest
  | c :: cs, parts, h => by
    unfold splitAtFirst? at h
    split at h
    · rename_i rest hrest
      simp only [Option.some.injEq] at h
      subst h
      simpa using eq_append_of_dropLeading? hrest
    · obtain ⟨inner, hinner, rfl⟩ := Option.map_eq_some_iff.1 h
      simp [eq_append_of_splitAtFirst? hinner]

/-- Replaces a non-empty word, read from left to right, wherever it occurs; the
count is the number of characters of the word just found still to skip. -/
def replaceFrom (word replacement : List Char) : Nat → List Char → List Char
  | _, [] => []
  | skip + 1, _ :: cs => replaceFrom word replacement skip cs
  | 0, c :: cs =>
    match dropLeading? word (c :: cs) with
    | some _ => replacement ++ replaceFrom word replacement (word.length - 1) cs
    | none => c :: replaceFrom word replacement 0 cs

def replaceAll (word replacement cs : List Char) : List Char :=
  replaceFrom word replacement 0 cs

/-- The lines of a text: a line feed ends a line and one carriage return right
before it goes with it; a last line without line feed counts unless it is
empty, and keeps its carriage return. -/
def lines (cs : List Char) : List (List Char) :=
  let pieces := splitAtChar '\n' cs
  let ended := pieces.dropLast.map fun line =>
    if line.getLast? = some '\r' then line.dropLast else line
  match pieces.getLast? with
  | none | some [] => ended
  | some last => ended ++ [last]

end Text
end VulkanFoundry
