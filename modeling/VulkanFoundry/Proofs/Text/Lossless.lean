/-
# Tokens and the characters of a text

What tokens are written by is told by their characters. The characters of the tokens of a
text, one token after the other, are the text without its blanks, so cutting a text into
tokens loses nothing but blanks and changes no order (`TypeText.flatMap_chars_of_writes`).
The other way round, tokens that a text can have are written by their characters with a
blank behind each (`TypeText.writes_spaced`).

A word is read from its start to its end: it is a token exactly where it stands in the text
between characters that no word has, and what stands before it and behind it is cut into
tokens as if it stood alone (`TypeText.tokens_around_word_iff`).

Key theorems: `TypeText.tokens_lossless`.
-/
import VulkanFoundry.Proofs.Text.Numerals
import VulkanFoundry.Proofs.Text.Writing

namespace VulkanFoundry

/-! ### Texts without their blanks -/

namespace Text

variable {cs : List Char}

def withoutBlanks (cs : List Char) : List Char := cs.filter fun c => !isBlank c

@[simp]
theorem withoutBlanks_append (cs cs' : List Char) :
    withoutBlanks (cs ++ cs') = withoutBlanks cs ++ withoutBlanks cs' :=
  List.filter_append cs cs'

theorem withoutBlanks_eq_self (h : ∀ c ∈ cs, isBlank c = false) : withoutBlanks cs = cs := by
  refine List.filter_eq_self.2 fun c hc => ?_
  simp [h c hc]

theorem withoutBlanks_eq_nil (h : ∀ c ∈ cs, isBlank c = true) : withoutBlanks cs = [] := by
  refine List.filter_eq_nil_iff.2 fun c hc => ?_
  simp [h c hc]

theorem withoutBlanks_trim (cs : List Char) : withoutBlanks (trim cs) = withoutBlanks cs := by
  obtain ⟨front, back, hsplit, hfront, hback⟩ := exists_eq_append_trim cs
  calc withoutBlanks (trim cs)
      = withoutBlanks front ++ (withoutBlanks (trim cs) ++ withoutBlanks back) := by
        rw [withoutBlanks_eq_nil hfront, withoutBlanks_eq_nil hback, List.nil_append,
          List.append_nil]
    _ = withoutBlanks (front ++ (trim cs ++ back)) := by
        rw [withoutBlanks_append, withoutBlanks_append]
    _ = withoutBlanks cs := by rw [← hsplit]

theorem withoutBlanks_trimmed (s : String) :
    withoutBlanks (trimmed s).toList = withoutBlanks s.toList := by
  rw [trimmed, String.toList_ofList, withoutBlanks_trim]

end Text

def Token.chars : Token → List Char
  | .atom a => a.text.toList
  | .punct c => [c]

namespace TypeText

variable {before after ts : List Token} {t : Token} {cs : List Char} {w : String}

/-! ### Tokens that are written -/

theorem writes_chars (h : t.Writable) : Writes [t] t.chars := by
  cases t with
  | atom a =>
    cases a with
    | word w => exact writes_word h
    | star => exact .star .nil
  | punct c => exact .punct h.1 h.2.1 h.2.2 .nil

/-- The tokens with a blank behind each. -/
def spaced (ts : List Token) : List Char := ts.flatMap fun t => t.chars ++ [' ']

/-- **Tokens are written** with blanks between them. -/
theorem writes_spaced : ∀ {ts : List Token}, (∀ t ∈ ts, t.Writable) → Writes ts (spaced ts)
  | [], _ => .nil
  | t :: ts, h => by
    have hrest := writes_spaced fun u hu => h u (List.mem_cons_of_mem t hu)
    have hfirst := writes_chars (h t List.mem_cons_self)
    rw [spaced, List.flatMap_cons, List.append_assoc]
    exact hfirst.append_blank (by decide) hrest

theorem IsWord.isBlank_eq_false (h : IsWord w) : ∀ c ∈ w.toList, Text.isBlank c = false := by
  intro c hc
  refine eq_false_of_ne_true fun hblank => ?_
  have hword : isWordChar c = true := h.2 c hc
  rw [isWordChar_of_isBlank hblank] at hword
  cases hword

theorem IsWord.trimmed_eq (h : IsWord w) : Text.trimmed w = w := by
  rw [Text.trimmed, Text.trim_eq_self h.isBlank_eq_false, String.ofList_toList]

theorem withoutBlanks_chars (h : t.Writable) : Text.withoutBlanks t.chars = t.chars := by
  refine Text.withoutBlanks_eq_self fun c hc => ?_
  cases t with
  | atom a =>
    cases a with
    | word w => exact IsWord.isBlank_eq_false h c hc
    | star =>
      obtain rfl := List.mem_singleton.1 hc
      decide
  | punct d =>
    obtain rfl := List.mem_singleton.1 hc
    exact h.1

theorem flatMap_chars_cons (ht : t.Writable)
    (h : ts.flatMap Token.chars = Text.withoutBlanks cs) :
    (t :: ts).flatMap Token.chars = Text.withoutBlanks (t.chars ++ cs) := by
  rw [List.flatMap_cons, h, Text.withoutBlanks_append, withoutBlanks_chars ht]

/-- **Nothing but blanks is lost** when a text is cut into tokens. -/
theorem flatMap_chars_of_writes (h : Writes ts cs) :
    ts.flatMap Token.chars = Text.withoutBlanks cs := by
  induction h with
  | nil => rfl
  | @blank ts c cs hc _ ih =>
    have hskip : Text.withoutBlanks [c] = [] :=
      Text.withoutBlanks_eq_nil fun d hd => List.mem_singleton.1 hd ▸ hc
    rw [ih, ← List.singleton_append, Text.withoutBlanks_append, hskip, List.nil_append]
  | star _ ih => exact flatMap_chars_cons (t := .atom .star) trivial ih
  | punct hblank hstar hword _ ih => exact flatMap_chars_cons ⟨hblank, hstar, hword⟩ ih
  | @word ts w cs hw _ _ ih => exact flatMap_chars_cons (t := .atom (.word w)) hw ih

/-! ### Words in their places -/

/-- A word among the tokens stands in the text between characters that no word has. -/
theorem Writes.exists_around_word (h : Writes ts cs)
    (hts : ts = before ++ .atom (.word w) :: after) :
    ∃ front back, cs = front ++ (w.toList ++ back) ∧ EndsOutsideWord front ∧
      StartsOutsideWord back ∧ Writes before front ∧ Writes after back := by
  induction h generalizing before with
  | nil => simp at hts
  | @blank ts c cs hc _ ih =>
    obtain ⟨front, back, rfl, hfront, hback, hbefore, hafter⟩ := ih hts
    have hfront' : EndsOutsideWord (c :: front) := hfront.cons (isWordChar_of_isBlank hc)
    exact ⟨c :: front, back, rfl, hfront', hback, .blank hc hbefore, hafter⟩
  | @star ts cs _ ih =>
    cases before with
    | nil => cases hts
    | cons t before =>
      obtain ⟨rfl, hrest⟩ := List.cons.inj hts
      obtain ⟨front, back, rfl, hfront, hback, hbefore, hafter⟩ := ih hrest
      have hfront' : EndsOutsideWord ('*' :: front) := hfront.cons (by decide)
      exact ⟨'*' :: front, back, rfl, hfront', hback, .star hbefore, hafter⟩
  | @punct ts c cs hblank hstar hword _ ih =>
    cases before with
    | nil => cases hts
    | cons t before =>
      obtain ⟨rfl, hrest⟩ := List.cons.inj hts
      obtain ⟨front, back, rfl, hfront, hback, hbefore, hafter⟩ := ih hrest
      have hfront' : EndsOutsideWord (c :: front) := hfront.cons hword
      exact ⟨c :: front, back, rfl, hfront', hback, .punct hblank hstar hword hbefore, hafter⟩
  | @word ts v cs hv hend h ih =>
    cases before with
    | nil =>
      obtain ⟨hsame, rfl⟩ := List.cons.inj hts
      obtain rfl := Atom.word.inj (Token.atom.inj hsame)
      exact ⟨[], cs, rfl, endsOutsideWord_nil, hend, .nil, h⟩
    | cons t before =>
      obtain ⟨rfl, hrest⟩ := List.cons.inj hts
      have hw : IsWord w := h.isWord (hrest ▸ List.mem_append_right before List.mem_cons_self)
      obtain ⟨front, back, rfl, hfront, hback, hbefore, hafter⟩ := ih hrest
      -- the two words do not touch, or the first would go on
      have hne : front ≠ [] := by
        rintro rfl
        exact hw.not_startsOutsideWord hend
      have hfront' : EndsOutsideWord (v.toList ++ front) := (endsOutsideWord_append hne).2 hfront
      exact ⟨v.toList ++ front, back, (List.append_assoc ..).symm, hfront', hback,
        .word hv hend.of_append hbefore, hafter⟩

/-- **A word is a token** exactly where it stands between characters that no word has. The
tokens around it are those of the text before it and of the text behind it. -/
theorem tokens_around_word_iff : tokens cs = before ++ .atom (.word w) :: after ↔
    IsWord w ∧ ∃ front back, cs = front ++ (w.toList ++ back) ∧ EndsOutsideWord front ∧
      StartsOutsideWord back ∧ tokens front = before ∧ tokens back = after := by
  constructor
  · intro h
    have hcs : Writes (tokens cs) cs := writes_iff.2 rfl
    have hw : IsWord w := hcs.isWord (h ▸ List.mem_append_right before List.mem_cons_self)
    obtain ⟨front, back, hsplit, hfront, hback, hbefore, hafter⟩ := hcs.exists_around_word h
    exact ⟨hw, front, back, hsplit, hfront, hback, tokens_of_writes hbefore,
      tokens_of_writes hafter⟩
  · rintro ⟨hw, front, back, rfl, hfront, hback, rfl, rfl⟩
    have hbefore : Writes (tokens front) front := writes_iff.2 rfl
    have hafter : Writes (tokens back) back := writes_iff.2 rfl
    exact tokens_of_writes (hbefore.append (.word hw hback hafter) (.inl hfront))

/-- **Cutting a text into tokens is lossless, with longest words.** The characters of the
tokens are the text without its blanks. A word is a token in a place of the text exactly if
it is not empty, has word characters only, and stands there between characters that no word
has, or at an end of the text; the tokens before it and behind it are those of what stands
before it and behind it. A token that is neither a word nor a star is one character, which
no word has and which is not blank. -/
theorem tokens_lossless (cs : List Char) :
    (tokens cs).flatMap Token.chars = Text.withoutBlanks cs ∧
    (∀ before w after, tokens cs = before ++ .atom (.word w) :: after ↔
      IsWord w ∧ ∃ front back, cs = front ++ (w.toList ++ back) ∧ EndsOutsideWord front ∧
        StartsOutsideWord back ∧ tokens front = before ∧ tokens back = after) ∧
    ∀ c, .punct c ∈ tokens cs → c ≠ '*' ∧ isWordChar c = false ∧ Text.isBlank c = false := by
  have hcs : Writes (tokens cs) cs := writes_iff.2 rfl
  refine ⟨flatMap_chars_of_writes hcs, fun _ _ _ => tokens_around_word_iff, fun c hc => ?_⟩
  obtain ⟨hblank, hstar, hword⟩ := hcs.writable _ hc
  exact ⟨hstar, hword, hblank⟩

example : tokens "struct Bär2*\u00a0x".toList = [.atom (.word "struct"), .atom (.word "B"),
    .punct 'ä', .atom (.word "r2"), .atom .star, .atom (.word "x")] := by decide

end TypeText
end VulkanFoundry
