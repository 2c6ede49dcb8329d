/-
# Lexemes of markup text

A document is a row of tags, character data, references and things that are
passed over (comments, processing instructions). `lexemes` cuts the text up
without looking into the tags; where the text breaks off inside a lexeme, or
opens one that does not exist, the row ends with `Lexeme.broken`.

Line ends in character data are normalized: a carriage return, a next line or a
line separator counts as a line feed, and so does a carriage return together
with a line feed or next line behind it. A document may open with a byte order
mark, which is no part of its text.

Key definitions: `Tag`, `Lexeme`, `lexemes`.
-/
import VulkanFoundry.Text.Blank

namespace VulkanFoundry
namespace Markup

/-- A start tag: the element's name and the text behind it. -/
structure Tag where
  name : List Char
  attributeText : List Char
  deriving DecidableEq

inductive Lexeme where
  | text (cs : List Char)
  /-- What stands between the ampersand and the semicolon. -/
  | reference (name : List Char)
  | opening (tag : Tag)
  | selfClosing (tag : Tag)
  | closing (name : List Char)
  | doctype
  | passedOver
  | broken
  deriving DecidableEq

/-- The blanks of markup: space, tab, carriage return and line feed. -/
def isSpace (c : Char) : Bool := c = ' ' || c = '\t' || c = '\r' || c = '\n'

/-- The characters other than the line feed that end a line. -/
def isLineEnd (c : Char) : Bool := c = '\r' || c = '\u0085' || c = '\u2028'

/-- Character data with its line ends as line feeds. -/
def normalizeLines : List Char → List Char
  | [] => []
  | '\r' :: '\n' :: cs => '\n' :: normalizeLines cs
  | '\r' :: '\u0085' :: cs => '\n' :: normalizeLines cs
  | c :: cs => (if isLineEnd c then '\n' else c) :: normalizeLines cs

/-- The rest of a lexeme that runs up to a marker. -/
def upTo (marker : List Char) (make : List Char → Lexeme) (cs : List Char) :
    Lexeme × List Char :=
  match Text.splitAtFirst? marker cs with
  | some (inner, rest) => (make inner, rest)
  | none => (.broken, [])

/-- The text of a tag and what follows it: a tag ends at the first `>` outside
quotes. -/
def splitTag? : Option Char → List Char → Option (List Char × List Char)
  | _, [] => none
  | some quote, c :: cs =>
    (splitTag? (if c = quote then none else some quote) cs).map fun p => (c :: p.1, p.2)
  | none, c :: cs =>
    if c = '>' then some ([], cs)
    else
      (splitTag? (if c = '"' || c = '\'' then some c else none) cs).map
        fun p => (c :: p.1, p.2)

/-- What follows a document type declaration, inside which angle brackets are
balanced. -/
def afterDoctype? : Nat → List Char → Option (List Char)
  | _, [] => none
  | depth, '<' :: cs => afterDoctype? (depth + 1) cs
  | 0, '>' :: cs => some cs
  | depth + 1, '>' :: cs => afterDoctype? depth cs
  | depth, _ :: cs => afterDoctype? depth cs

/-- The document type declaration of a text from behind its keyword; one that
names no type is broken. -/
def doctype (cs : List Char) : Lexeme × List Char :=
  match afterDoctype? 0 cs with
  | some after =>
    (if (cs.dropWhile isSpace).head? = some '>' then .broken else .doctype, after)
  | none => (.broken, [])

def tagOf (cs : List Char) : Tag :=
  ⟨cs.takeWhile fun c => !isSpace c, cs.dropWhile fun c => !isSpace c⟩

/-- The name in an end tag with the given text, behind which blanks may stand; a
text of blanks alone is the name. -/
def closingName (cs : List Char) : List Char :=
  if cs.all isSpace then cs else Text.dropEndWhile isSpace cs

/-- The lexeme that starts with `<`, read from behind it. -/
def afterBracket (cs : List Char) : Lexeme × List Char :=
  match cs with
  | '!' :: '-' :: '-' :: rest => upTo ['-', '-', '>'] (fun _ => .passedOver) rest
  | '!' :: rest =>
    match Text.dropLeading? ['[', 'C', 'D', 'A', 'T', 'A', '['] rest with
    | some data => upTo [']', ']', '>'] (fun inner => .text (normalizeLines inner)) data
    | none =>
      if (rest.take 7).map Char.toUpper = ['D', 'O', 'C', 'T', 'Y', 'P', 'E'] then
        doctype (rest.drop 7)
      else (.broken, [])
  | '?' :: '>' :: _ => (.broken, [])
  | '?' :: rest => upTo ['?', '>'] (fun _ => .passedOver) rest
  | '/' :: rest =>
    match splitTag? none rest with
    | some (inner, after) => (.closing (closingName inner), after)
    | none => (.broken, [])
  | _ =>
    match splitTag? none cs with
    | some (inner, rest) =>
      if inner.getLast? = some '/' then (.selfClosing (tagOf inner.dropLast), rest)
      else (.opening (tagOf inner), rest)
    | none => (.broken, [])

/-- The reference that starts with `&`, read from behind it: it ends at a
semicolon before any other `&` and any `<`. -/
def afterAmpersand (cs : List Char) : Lexeme × List Char :=
  let inside := fun c : Char => c ≠ ';' && c ≠ '&' && c ≠ '<'
  match cs.dropWhile inside with
  | ';' :: rest => (.reference (cs.takeWhile inside), rest)
  | _ => (.broken, [])

def next (c : Char) (cs : List Char) : Lexeme × List Char :=
  if c = '<' then afterBracket cs
  else if c = '&' then afterAmpersand cs
  else
    let inside := fun c : Char => c ≠ '<' && c ≠ '&'
    (.text (normalizeLines (c :: cs.takeWhile inside)), cs.dropWhile inside)

theorem upTo_length (marker : List Char) (make : List Char → Lexeme) (cs : List Char) :
    (upTo marker make cs).2.length ≤ cs.length := by
  unfold upTo
  split
  · rename_i inner rest h
    have := Text.eq_append_of_splitAtFirst? h
    simp only [this, List.length_append]
    omega
  · simp

theorem splitTag?_length :
    ∀ {quote : Option Char} {cs : List Char} {p : List Char × List Char},
      splitTag? quote cs = some p → p.2.length ≤ cs.length
  | _, [], p, h => by simp [splitTag?] at h
  | some quote, c :: cs, p, h => by
    simp only [splitTag?, Option.map_eq_some_iff] at h
    obtain ⟨q, hq, rfl⟩ := h
    exact Nat.le_succ_of_le (splitTag?_length hq : q.2.length ≤ cs.length)
  | none, c :: cs, p, h => by
    simp only [splitTag?] at h
    split at h
    · simp only [Option.some.injEq] at h
      subst h
      simp
    · simp only [Option.map_eq_some_iff] at h
      obtain ⟨q, hq, rfl⟩ := h
      exact Nat.le_succ_of_le (splitTag?_length hq : q.2.length ≤ cs.length)

theorem afterDoctype?_length {depth : Nat} {cs rest : List Char}
    (h : afterDoctype? depth cs = some rest) : rest.length ≤ cs.length := by
  fun_induction afterDoctype? depth cs with
  | case1 => simp at h
  | case3 => simp_all
  | case2 _ _ ih => exact Nat.le_succ_of_le (ih h)
  | case4 _ _ ih => exact Nat.le_succ_of_le (ih h)
  | case5 _ _ _ _ _ _ ih => exact Nat.le_succ_of_le (ih h)

theorem doctype_length (cs : List Char) : (doctype cs).2.length ≤ cs.length := by
  unfold doctype
  split
  · rename_i h
    exact afterDoctype?_length h
  · simp

theorem afterBracket_length (cs : List Char) : (afterBracket cs).2.length ≤ cs.length := by
  unfold afterBracket
  split
  · exact Nat.le_trans (upTo_length _ _ _) (by simp; omega)
  · split
    · rename_i h
      refine Nat.le_trans (upTo_length _ _ _) ?_
      have := Text.eq_append_of_dropLeading? h
      simp only [this, List.length_append, List.length_cons]
      omega
    · split
      · refine Nat.le_trans (doctype_length _) ?_
        simp only [List.length_drop, List.length_cons]
        omega
      · simp
  · simp
  · exact Nat.le_trans (upTo_length _ _ _) (by simp)
  · split
    · rename_i h
      exact Nat.le_succ_of_le (splitTag?_length h)
    · simp
  · split
    · rename_i h
      have := splitTag?_length h
      split <;> simpa using this
    · simp

/-- Every lexeme takes at least its first character. -/
theorem next_length (c : Char) (cs : List Char) : (next c cs).2.length ≤ cs.length := by
  unfold next
  split
  · exact afterBracket_length cs
  · split
    · unfold afterAmpersand
      simp only
      split
      · rename_i rest h
        have := (List.dropWhile_suffix (fun c : Char => c ≠ ';' && c ≠ '&' && c ≠ '<')
          (l := cs)).length_le
        rw [h] at this
        exact Nat.le_of_succ_le this
      · simp
    · exact (List.dropWhile_suffix _).length_le

/-- A text without the byte order mark that it may open with. -/
def withoutByteOrderMark : List Char → List Char
  | '\ufeff' :: cs => cs
  | cs => cs

def lexemes : List Char → List Lexeme
  | [] => []
  | c :: cs =>
    have := next_length c cs
    (next c cs).1 :: lexemes (next c cs).2
termination_by cs => cs.length
decreasing_by simp only [List.length_cons]; omega

end Markup
end VulkanFoundry
