/-
# C type text

The registry writes C types as running text: words, pointer stars and stray
punctuation, with any blanks between them. `tokens` cuts such a text up. The
atoms of a type are its words and stars, and `canonical` writes them in the
one form that is stored: words separated by one space, each star glued to
what stands before it, punctuation dropped.

A word is a run of ASCII letters, digits and underscores. `tokens` walks the
text once and keeps the word being read, so a word ends only where a
character follows that cannot belong to it.
-/
import VulkanFoundry.Text.Blank

namespace VulkanFoundry

/-- What a type consists of: words and pointer levels. -/
inductive Atom where
  | word (text : String)
  | star
  deriving DecidableEq, Repr

/-- A lexical unit of declaration text: an atom, or any other character that is
not blank. -/
inductive Token where
  | atom (a : Atom)
  | punct (c : Char)
  deriving DecidableEq, Repr

def Atom.text : Atom → String
  | .word text => text
  | .star => "*"

def Token.atom? : Token → Option Atom
  | .atom a => some a
  | .punct _ => none

namespace TypeText

/-- Whether a character can stand in a word. -/
def isWordChar (c : Char) : Bool := c.isAlphanum || c == '_'

/-- The word read so far, which is kept in reverse, as a token. -/
def closeWord : List Char → List Token
  | [] => []
  | c :: cs => [.atom (.word (String.ofList (c :: cs).reverse))]

/-- The token of a character outside words; a blank gives none. -/
def single (c : Char) : List Token :=
  if c = '*' then [.atom .star]
  else if Text.isBlank c then []
  else [.punct c]

/-- The tokens of a text that follows the word read so far. -/
def tokensFrom : List Char → List Char → List Token
  | pending, [] => closeWord pending
  | pending, c :: cs =>
    if isWordChar c then tokensFrom (c :: pending) cs
    else closeWord pending ++ single c ++ tokensFrom [] cs

def tokens (cs : List Char) : List Token := tokensFrom [] cs

def atoms (cs : List Char) : List Atom := (tokens cs).filterMap Token.atom?

/-- Atoms after something was written: a space before each word. -/
def renderRest : List Atom → List Char
  | [] => []
  | .word w :: rest => ' ' :: w.toList ++ renderRest rest
  | .star :: rest => '*' :: renderRest rest

/-- Atoms as text, each word separated from what stands before it. -/
def render : List Atom → List Char
  | [] => []
  | .word w :: rest => w.toList ++ renderRest rest
  | .star :: rest => '*' :: renderRest rest

/-- The form in which a type is stored. -/
def canonical (cs : List Char) : String := String.ofList (render (atoms cs))

/-- The canonical text of a type that is written in three pieces, none of which
runs into the next. -/
def assemble (before base after : String) : String :=
  canonical (before.toList ++ ' ' :: base.toList ++ ' ' :: after.toList)

/-- The words of a type but `const` and `struct`: the name it refers to. -/
def nameWords (cs : List Char) : List String :=
  (atoms cs).filterMap fun
    | .word w => if w = "const" ∨ w = "struct" then none else some w
    | .star => none

/-- The name that a type refers to. -/
def plainName (type : String) : String := Text.joined " " (nameWords type.toList)

end TypeText
end VulkanFoundry
