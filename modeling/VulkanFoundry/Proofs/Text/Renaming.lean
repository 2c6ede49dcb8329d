/-
# Replacing a word of a type

A name in a type's text is replaced where it stands as a word of its own. Around a word
are the ends of the text and characters that no word has, so the tokens of the new text
are those of the old one with the word replaced among them.

A type whose name is a single word has that word once, besides qualifiers and stars.

Key theorems: `TypeText.tokens_replaceFrom`, `TypeText.atoms_replaceWord`,
`TypeText.plainName_replaceWord`.
-/
import VulkanFoundry.Proofs.Factory.Members
import VulkanFoundry.Proofs.Text.Tokens

namespace VulkanFoundry

def Atom.replaceWord (old new : String) : Atom → Atom
  | .word w => .word (if w = old then new else w)
  | .star => .star

def Token.replaceWord (old new : String) : Token → Token
  | .atom a => .atom (a.replaceWord old new)
  | .punct c => .punct c

namespace TypeText

/-- The word read so far, which is kept in reverse, as the new text has it. -/
def replaceClosed (old new : String) (pending : List Char) : List Char :=
  if pending.reverse = old.toList then new.toList else pending.reverse

/-- The new text of a text that follows the word read so far. -/
def replaceFrom (old new : String) : List Char → List Char → List Char
  | pending, [] => replaceClosed old new pending
  | pending, c :: cs =>
    if isWordChar c then replaceFrom old new (c :: pending) cs
    else replaceClosed old new pending ++ c :: replaceFrom old new [] cs

/-- The text with the one word for the other, wherever it stands as a whole word. -/
def replaceWord (old new type : String) : String :=
  String.ofList (replaceFrom old new [] type.toList)

variable {old new : String}

theorem wordChars_replaceClosed (old : String) (hnew : OfWordChars new) {pending : List Char}
    (hp : ∀ c ∈ pending, isWordChar c = true) :
    ∀ c ∈ replaceClosed old new pending, isWordChar c = true := by
  unfold replaceClosed
  split
  · exact hnew
  · intro c hc
    exact hp c (List.mem_reverse.1 hc)

theorem closeWord_replaceClosed (hold : IsWord old) (hnew : IsWord new) (pending : List Char) :
    closeWord (replaceClosed old new pending).reverse =
      (closeWord pending).map (Token.replaceWord old new) := by
  unfold replaceClosed
  cases pending with
  | nil =>
    have hne : ¬ ([] : List Char).reverse = old.toList := fun h => hold.toList_ne_nil h.symm
    rw [if_neg hne]
    rfl
  | cons c cs =>
    by_cases hw : (c :: cs).reverse = old.toList
    · have hword : String.ofList (c :: cs).reverse = old := by rw [hw, String.ofList_toList]
      rw [if_pos hw, closeWord_reverse hnew.1, closeWord, hword]
      simp [Token.replaceWord, Atom.replaceWord]
    · have hword : ¬ String.ofList (c :: cs).reverse = old := by
        rintro rfl
        exact hw String.toList_ofList.symm
      rw [if_neg hw, List.reverse_reverse, closeWord, List.map_singleton, Token.replaceWord,
        Atom.replaceWord, if_neg hword]

theorem map_replaceWord_single (c : Char) :
    (single c).map (Token.replaceWord old new) = single c := by
  unfold single
  split
  · rfl
  · split <;> rfl

theorem tokens_replaceFrom (hold : IsWord old) (hnew : IsWord new) :
    ∀ (pending cs : List Char), (∀ c ∈ pending, isWordChar c = true) →
      tokens (replaceFrom old new pending cs) =
        (tokensFrom pending cs).map (Token.replaceWord old new)
  | pending, [], hp => by
    have hword := wordChars_replaceClosed old hnew.2 hp
    rw [replaceFrom, tokensFrom, ← closeWord_replaceClosed hold hnew, tokens,
      ← List.append_nil (replaceClosed old new pending), tokensFrom_word_append hword,
      List.append_nil, List.append_nil]
    rfl
  | pending, c :: cs, hp => by
    rw [replaceFrom, tokensFrom]
    by_cases hc : isWordChar c = true
    · rw [if_pos hc, if_pos hc]
      exact tokens_replaceFrom hold hnew (c :: pending) cs (List.forall_mem_cons.2 ⟨hc, hp⟩)
    · have hrest := tokens_replaceFrom hold hnew [] cs fun d hd => absurd hd List.not_mem_nil
      have hword := wordChars_replaceClosed old hnew.2 hp
      rw [if_neg hc, if_neg hc, tokens, tokensFrom_word_append hword, List.append_nil,
        tokensFrom_cons_of_not_wordChar (by simpa using hc), hrest,
        closeWord_replaceClosed hold hnew, List.map_append, List.map_append,
        map_replaceWord_single]

theorem atoms_replaceWord (hold : IsWord old) (hnew : IsWord new) (type : String) :
    atoms (replaceWord old new type).toList =
      (atoms type.toList).map (Atom.replaceWord old new) := by
  have htokens := tokens_replaceFrom hold hnew [] type.toList
    fun c hc => absurd hc List.not_mem_nil
  rw [replaceWord, String.toList_ofList, atoms, htokens, List.filterMap_map, atoms, tokens,
    List.map_filterMap]
  congr 1
  funext t
  cases t <;> rfl

example : replaceWord "InfoKHR" "Info" "const InfoKHR*" = "const Info*" := by decide

/-! ### Names and shapes of types -/

def reservedWords : List String := ["char", "void", "const", "struct"]

/-- The string is an identifier that may name a struct. -/
def IsFreeName (name : String) : Prop := IsWord name ∧ name ∉ reservedWords

instance (name : String) : Decidable (IsFreeName name) :=
  inferInstanceAs (Decidable (IsWord name ∧ name ∉ reservedWords))

theorem IsFreeName.ne {name : String} (h : IsFreeName name) :
    name ≠ "char" ∧ name ≠ "void" ∧ name ≠ "const" ∧ name ≠ "struct" := by
  simpa [reservedWords] using h.2

theorem IsFreeName.isQualifier {name : String} (h : IsFreeName name) :
    (Atom.word name).isQualifier = false := by
  obtain ⟨-, -, hconst, hstruct⟩ := h.ne
  simp [Atom.isQualifier, hconst, hstruct]

theorem isQualifier_replaceWord (hold : IsFreeName old) (hnew : IsFreeName new) (a : Atom) :
    (a.replaceWord old new).isQualifier = a.isQualifier := by
  cases a with
  | star => rfl
  | word w =>
    by_cases hw : w = old
    · rw [Atom.replaceWord, if_pos hw, hw, hold.isQualifier, hnew.isQualifier]
    · rw [Atom.replaceWord, if_neg hw]

theorem filter_map_replaceWord (hold : IsFreeName old) (hnew : IsFreeName new)
    (l : List Atom) :
    (l.map (Atom.replaceWord old new)).filter (fun a => !a.isQualifier) =
      (l.filter fun a => !a.isQualifier).map (Atom.replaceWord old new) := by
  rw [List.filter_map]
  congr 2
  funext a
  exact congrArg not (isQualifier_replaceWord hold hnew a)

theorem nameWords_replaceWord (hold : IsFreeName old) (hnew : IsFreeName new) (type : String) :
    nameWords (replaceWord old new type).toList =
      (nameWords type.toList).map fun w => if w = old then new else w := by
  rw [nameWords_eq, nameWords_eq, atoms_replaceWord hold.1 hnew.1,
    filter_map_replaceWord hold hnew, List.filterMap_map, List.map_filterMap]
  congr 1
  funext a
  cases a <;> rfl

theorem plainName_of_nameWords {name type : String} (h : nameWords type.toList = [name]) :
    plainName type = name := by
  rw [plainName, h]
  exact String.ofList_toList

/-- A type whose name is a word has no other words. -/
theorem nameWords_of_plainName {name type : String} (hname : IsWord name)
    (h : plainName type = name) : nameWords type.toList = [name] := by
  rw [plainName, Text.joined] at h
  cases hwords : nameWords type.toList with
  | nil =>
    rw [hwords] at h
    exact absurd h.symm hname.1
  | cons w rest =>
    rw [hwords] at h
    cases rest with
    | nil =>
      rw [← h]
      exact congrArg (fun w => [w]) String.ofList_toList.symm
    | cons v rest =>
      -- between two words stands a blank
      have hblank : ' ' ∈ name.toList := by
        rw [← h, String.toList_ofList]
        simp [Text.join]
      exact absurd hblank (hname.2.not_mem (by decide))

theorem plainName_replaceWord (hold : IsFreeName old) (hnew : IsFreeName new) {type : String}
    (h : plainName type = old) : plainName (replaceWord old new type) = new := by
  refine plainName_of_nameWords ?_
  rw [nameWords_replaceWord hold hnew, nameWords_of_plainName hold.1 h, List.map_singleton,
    if_pos rfl]

end TypeText

/-- The shape of a type with a word replaced is the old one, up to its base. -/
theorem TypeShape.ofAtoms?_map_replaceWord {old new : String} (hold : TypeText.IsFreeName old)
    (hnew : TypeText.IsFreeName new) (l : List Atom) :
    ofAtoms? (l.map (Atom.replaceWord old new)) =
      (ofAtoms? l).map fun s => { s with base := if s.base = old then new else s.base } := by
  unfold ofAtoms?
  rw [TypeText.filter_map_replaceWord hold hnew]
  cases l.filter fun a => !a.isQualifier with
  | nil => rfl
  | cons base stars =>
    have hstars : (stars.map (Atom.replaceWord old new)).all (fun a => decide (a = .star)) =
        stars.all fun a => decide (a = .star) := by
      rw [List.all_map]
      congr 1
      funext a
      cases a <;> simp [Atom.replaceWord]
    have hbase : (base.replaceWord old new).text =
        if base.text = old then new else base.text := by
      cases base with
      | word w => rfl
      | star =>
        have hne : ¬ "*" = old := by
          rintro rfl
          exact absurd hold (by decide)
        rw [Atom.replaceWord, Atom.text, if_neg hne]
    simp only [List.map_cons, hstars, hbase, List.length_map]
    split <;> rfl

end VulkanFoundry
