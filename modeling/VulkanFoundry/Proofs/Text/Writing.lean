/-
# What tokens a text writes

A text writes tokens one after the other: words, stars and other characters, with blanks
wherever it likes but inside of a word. Where a word ends the text ends, or a character
follows that no word has. Every text writes its own tokens and no others
(`TypeText.writes_iff`), so a text can be described by what it writes.

Two texts that are put together write the tokens of both, unless a word that ends the one
would run into a word that starts the other; a blank between them is always enough. Words
and stars are written by their canonical text, which is therefore its own canonical form.
A text that is cut off at the first opening parenthesis, or in which a word is blanked out
wherever it is found, still writes what is left; but a word is also found in the middle of
a longer one.

Key theorems: `TypeText.Writes.append`, `TypeText.writes_render`,
`TypeText.isCanonical_canonical`, `TypeText.Writes.takeWhile`,
`TypeText.Writes.replaceAll`.
-/
import Mathlib.Data.List.Infix
import VulkanFoundry.Proofs.Text.Tokens

namespace VulkanFoundry

/-! ### Finding a word in a text -/

namespace Text

variable {word cs v : List Char}

theorem dropLeading?_append : ∀ (word cs : List Char), dropLeading? word (word ++ cs) = some cs
  | [], _ => rfl
  | c :: word, cs => by
    rw [List.cons_append, dropLeading?, if_pos rfl, dropLeading?_append word cs]

theorem replaceFrom_skip (word replacement : List Char) : ∀ v cs : List Char,
    replaceFrom word replacement v.length (v ++ cs) = replaceFrom word replacement 0 cs
  | [], _ => rfl
  | _ :: v, cs => replaceFrom_skip word replacement v cs

/-- Where the word stands it is replaced, and reading goes on behind it. -/
theorem replaceFrom_word_append {replacement : List Char} (hword : word ≠ []) (cs : List Char) :
    replaceFrom word replacement 0 (word ++ cs) =
      replacement ++ replaceFrom word replacement 0 cs := by
  obtain ⟨c, tail, rfl⟩ := List.exists_cons_of_ne_nil hword
  have hdrop : dropLeading? (c :: tail) (c :: (tail ++ cs)) = some cs :=
    dropLeading?_append (c :: tail) cs
  have hskip := replaceFrom_skip (c :: tail) replacement tail cs
  rw [List.cons_append, replaceFrom, hdrop]
  exact congrArg (replacement ++ ·) hskip

end Text

/-- The token is one that a text can have. -/
def Token.Writable : Token → Prop
  | .atom (.word w) => TypeText.IsWord w
  | .atom .star => True
  | .punct c => Text.isBlank c = false ∧ c ≠ '*' ∧ TypeText.isWordChar c = false

instance : (t : Token) → Decidable t.Writable
  | .atom (.word w) => inferInstanceAs (Decidable (TypeText.IsWord w))
  | .atom .star => inferInstanceAs (Decidable True)
  | .punct c => inferInstanceAs
    (Decidable (Text.isBlank c = false ∧ c ≠ '*' ∧ TypeText.isWordChar c = false))

namespace TypeText

variable {ts ts' rest : List Token} {cs cs' : List Char} {c : Char} {w : String}

/-- The text is empty or starts with a character that no word has. -/
def StartsOutsideWord (cs : List Char) : Prop := ∀ c ∈ cs.head?, isWordChar c = false

theorem startsOutsideWord_nil : StartsOutsideWord [] := fun _ h => nomatch h

theorem startsOutsideWord_cons : StartsOutsideWord (c :: cs) ↔ isWordChar c = false := by
  simp [StartsOutsideWord]

theorem isWordChar_of_isBlank (h : Text.isBlank c = true) : isWordChar c = false := by
  refine eq_false_of_ne_true fun hw => ?_
  -- both are told by the code points
  have hcode : (((decide (c.val ≥ 'A'.val ∧ c.val ≤ 'Z'.val) ||
      (c.val ≥ 'a'.val && c.val ≤ 'z'.val)) || (c.val ≥ '0'.val && c.val ≤ '9'.val)) ||
      c == '_') = true := hw
  simp only [Text.isBlank, Bool.or_eq_true, Bool.and_eq_true, decide_eq_true_eq, beq_iff_eq,
    UInt32.le_iff_toNat_le, ← UInt32.toNat_inj, UInt32.reduceToNat] at h
  simp only [Bool.or_eq_true, Bool.and_eq_true, decide_eq_true_eq, beq_iff_eq, ge_iff_le,
    UInt32.le_iff_toNat_le, Char.ext_iff, ← UInt32.toNat_inj, Char.reduceVal,
    UInt32.reduceToNat] at hcode
  omega

inductive Writes : List Token → List Char → Prop
  | nil : Writes [] []
  | blank {ts : List Token} {c : Char} {cs : List Char} (hc : Text.isBlank c = true)
      (h : Writes ts cs) : Writes ts (c :: cs)
  | star {ts : List Token} {cs : List Char} (h : Writes ts cs) :
      Writes (.atom .star :: ts) ('*' :: cs)
  | punct {ts : List Token} {c : Char} {cs : List Char} (hblank : Text.isBlank c = false)
      (hstar : c ≠ '*') (hword : isWordChar c = false) (h : Writes ts cs) :
      Writes (.punct c :: ts) (c :: cs)
  | word {ts : List Token} {w : String} {cs : List Char} (hw : IsWord w)
      (hend : StartsOutsideWord cs) (h : Writes ts cs) :
      Writes (.atom (.word w) :: ts) (w.toList ++ cs)

theorem Writes.writable (h : Writes ts cs) : ∀ t ∈ ts, t.Writable := by
  induction h with
  | nil => exact fun t ht => absurd ht List.not_mem_nil
  | blank _ _ ih => exact ih
  | star _ ih => exact List.forall_mem_cons.2 ⟨trivial, ih⟩
  | punct hblank hstar hword _ ih =>
    exact List.forall_mem_cons.2 ⟨⟨hblank, hstar, hword⟩, ih⟩
  | word hw _ _ ih => exact List.forall_mem_cons.2 ⟨hw, ih⟩

theorem tokens_of_writes (h : Writes ts cs) : tokens cs = ts := by
  induction h with
  | nil => rfl
  | @blank ts c cs hc h ih =>
    have hstar : c ≠ '*' := by rintro rfl; exact absurd hc (by decide)
    rw [tokens, tokensFrom_cons_of_not_wordChar (isWordChar_of_isBlank hc), ih, single,
      if_neg hstar, if_pos hc]
    rfl
  | star h ih =>
    rw [tokens, tokensFrom_cons_of_not_wordChar (by decide), ih]
    rfl
  | @punct ts c cs hblank hstar hword h ih =>
    rw [tokens, tokensFrom_cons_of_not_wordChar hword, ih, single, if_neg hstar,
      if_neg (by simp [hblank])]
    rfl
  | @word ts w cs hw hend h ih =>
    cases cs with
    | nil =>
      rw [← ih, List.append_nil, tokens_word hw]
      rfl
    | cons c cs =>
      have hc : isWordChar c = false := startsOutsideWord_cons.1 hend
      have hsingle : tokens (c :: cs) = single c ++ tokens cs :=
        tokensFrom_cons_of_not_wordChar hc [] cs
      rw [tokens_word_append hw hc, ← hsingle, ih]

/-- A character outside of words writes its token, or nothing if it is blank. -/
theorem Writes.single_append (hc : isWordChar c = false) (h : Writes ts cs) :
    Writes (single c ++ ts) (c :: cs) := by
  unfold single
  split
  · rename_i hstar
    exact hstar ▸ .star h
  · rename_i hstar
    split
    · rename_i hblank
      exact .blank hblank h
    · rename_i hblank
      exact .punct (by simpa using hblank) hstar hc h

/-- The word read so far is written in front of what follows it. -/
theorem Writes.closeWord_append {pending : List Char} (hp : ∀ c ∈ pending, isWordChar c = true)
    (hend : StartsOutsideWord cs) (h : Writes ts cs) :
    Writes (closeWord pending ++ ts) (pending.reverse ++ cs) := by
  cases pending with
  | nil => exact h
  | cons c pending =>
    have hne : (c :: pending).reverse ≠ [] := fun hnil =>
      List.cons_ne_nil c pending (List.reverse_eq_nil_iff.1 hnil)
    have hw : IsWord (String.ofList (c :: pending).reverse) :=
      isWord_ofList hne fun d hd => hp d (List.mem_reverse.1 hd)
    have hword := Writes.word hw hend h
    rwa [String.toList_ofList] at hword

theorem writes_tokensFrom : ∀ (pending cs : List Char), (∀ c ∈ pending, isWordChar c = true) →
    Writes (tokensFrom pending cs) (pending.reverse ++ cs)
  | pending, [], hp => by
    have hclosed := Writes.nil.closeWord_append hp startsOutsideWord_nil
    rwa [List.append_nil] at hclosed
  | pending, c :: cs, hp => by
    rw [tokensFrom]
    by_cases hc : isWordChar c = true
    · have hrest := writes_tokensFrom (c :: pending) cs (List.forall_mem_cons.2 ⟨hc, hp⟩)
      rw [if_pos hc]
      rwa [List.reverse_cons, List.append_assoc] at hrest
    · have hrest := writes_tokensFrom [] cs fun d hd => absurd hd List.not_mem_nil
      have hc' : isWordChar c = false := by simpa using hc
      rw [if_neg hc, List.append_assoc]
      exact (hrest.single_append hc').closeWord_append hp (startsOutsideWord_cons.2 hc')

/-- **A text writes its own tokens** and no others. -/
theorem writes_iff : Writes ts cs ↔ tokens cs = ts := by
  refine ⟨tokens_of_writes, ?_⟩
  rintro rfl
  exact writes_tokensFrom [] cs fun c hc => absurd hc List.not_mem_nil

/-! ### Texts put together -/

/-- The text is empty or ends with a character that no word has. -/
def EndsOutsideWord (cs : List Char) : Prop := ∀ c ∈ cs.getLast?, isWordChar c = false

theorem endsOutsideWord_nil : EndsOutsideWord [] := fun _ h => nomatch h

theorem endsOutsideWord_append (hne : cs' ≠ []) :
    EndsOutsideWord (cs ++ cs') ↔ EndsOutsideWord cs' := by
  rw [EndsOutsideWord, EndsOutsideWord, List.getLast?_append_of_ne_nil cs hne]

theorem StartsOutsideWord.of_append (h : StartsOutsideWord (cs ++ cs')) : StartsOutsideWord cs := by
  cases cs with
  | nil => exact startsOutsideWord_nil
  | cons c cs => exact h

theorem EndsOutsideWord.cons (hc : isWordChar c = false) (h : EndsOutsideWord cs) :
    EndsOutsideWord (c :: cs) := by
  by_cases hne : cs = []
  · simp [EndsOutsideWord, hne, hc]
  · rw [← List.singleton_append]
    exact (endsOutsideWord_append hne).2 h

theorem EndsOutsideWord.of_append (h : EndsOutsideWord (cs ++ cs')) : EndsOutsideWord cs' := by
  by_cases hne : cs' = []
  · rw [hne]
    exact endsOutsideWord_nil
  · exact (endsOutsideWord_append hne).1 h

theorem EndsOutsideWord.of_cons (h : EndsOutsideWord (c :: cs)) : EndsOutsideWord cs := by
  rw [← List.singleton_append] at h
  exact h.of_append

theorem IsWord.not_startsOutsideWord (hw : IsWord w) : ¬ StartsOutsideWord (w.toList ++ cs) := by
  obtain ⟨c, w', hcons⟩ := List.exists_cons_of_ne_nil hw.toList_ne_nil
  have hc : isWordChar c = true := hw.2 c (by simp [hcons])
  rw [hcons, List.cons_append, startsOutsideWord_cons, hc]
  exact Bool.noConfusion

theorem IsWord.not_endsOutsideWord (hw : IsWord w) : ¬ EndsOutsideWord w.toList := by
  intro h
  have hlast := List.getLast?_eq_some_getLast hw.toList_ne_nil
  have hword := hw.2 _ (List.getLast_mem hw.toList_ne_nil)
  rw [h _ hlast] at hword
  cases hword

/-- **Texts put together** write the tokens of both, unless a word of the one would run
into a word of the other. -/
theorem Writes.append (h : Writes ts cs) (h' : Writes ts' cs')
    (hseam : EndsOutsideWord cs ∨ StartsOutsideWord cs') : Writes (ts ++ ts') (cs ++ cs') := by
  induction h with
  | nil => exact h'
  | blank hc _ ih => exact .blank hc (ih (hseam.imp_left EndsOutsideWord.of_cons))
  | star _ ih => exact .star (ih (hseam.imp_left EndsOutsideWord.of_cons))
  | punct hblank hstar hword _ ih =>
    exact .punct hblank hstar hword (ih (hseam.imp_left EndsOutsideWord.of_cons))
  | @word ts w cs hw hend _ ih =>
    have hrest := ih (hseam.imp_left EndsOutsideWord.of_append)
    rw [List.append_assoc]
    refine .word hw ?_ hrest
    cases cs with
    | cons c cs => exact hend
    | nil =>
      -- the word ends the first text, so the second must not start with one
      rw [List.append_nil] at hseam
      exact hseam.resolve_left hw.not_endsOutsideWord

theorem Writes.append_blank (hc : Text.isBlank c = true) (h : Writes ts cs)
    (h' : Writes ts' cs') : Writes (ts ++ ts') (cs ++ c :: cs') :=
  h.append (.blank hc h') (.inr (startsOutsideWord_cons.2 (isWordChar_of_isBlank hc)))

theorem writes_word (hw : IsWord w) : Writes [.atom (.word w)] w.toList := by
  rw [writes_iff]
  exact tokens_word hw

theorem startsOutsideWord_renderRest : ∀ as : List Atom, StartsOutsideWord (renderRest as)
  | [] => startsOutsideWord_nil
  | .word _ :: _ => startsOutsideWord_cons.2 (by decide)
  | .star :: _ => startsOutsideWord_cons.2 (by decide)

theorem writes_renderRest : ∀ {as : List Atom}, (∀ w, .word w ∈ as → IsWord w) →
    Writes (as.map .atom) (renderRest as)
  | [], _ => .nil
  | .word w :: rest, h => by
    have hrest := writes_renderRest fun v hv => h v (List.mem_cons_of_mem _ hv)
    exact .blank (by decide)
      (.word (h w List.mem_cons_self) (startsOutsideWord_renderRest rest) hrest)
  | .star :: _, h => .star (writes_renderRest fun v hv => h v (List.mem_cons_of_mem _ hv))

/-- **The canonical text of words and stars** writes them. -/
theorem writes_render : ∀ {as : List Atom}, (∀ w, .word w ∈ as → IsWord w) →
    Writes (as.map .atom) (render as)
  | [], _ => .nil
  | .word w :: as, h => .word (h w List.mem_cons_self) (startsOutsideWord_renderRest as)
      (writes_renderRest fun v hv => h v (List.mem_cons_of_mem _ hv))
  | .star :: _, h => .star (writes_renderRest fun v hv => h v (List.mem_cons_of_mem _ hv))

theorem atoms_of_writes (h : Writes ts cs) : atoms cs = ts.filterMap Token.atom? := by
  rw [atoms, tokens_of_writes h]

/-- The atoms of a type that is put together are those of its pieces. -/
theorem assemble_of_writes {before base after : String} {before' base' after' : List Token}
    (hbefore : Writes before' before.toList) (hbase : Writes base' base.toList)
    (hafter : Writes after' after.toList) :
    assemble before base after =
      String.ofList (render ((before' ++ (base' ++ after')).filterMap Token.atom?)) := by
  have hblank : Text.isBlank ' ' = true := by decide
  have hall := hbefore.append_blank hblank (hbase.append_blank hblank hafter)
  rw [assemble, canonical, List.append_assoc, List.cons_append, atoms_of_writes hall]

/-! ### Canonical texts -/

/-- The text is its own canonical form. -/
def IsCanonical (type : String) : Prop := canonical type.toList = type

instance (type : String) : Decidable (IsCanonical type) :=
  inferInstanceAs (Decidable (canonical type.toList = type))

theorem Writes.isWord (h : Writes ts cs) (hw : .atom (.word w) ∈ ts) : IsWord w :=
  h.writable _ hw

theorem isWord_of_mem_atoms (hw : .word w ∈ atoms cs) : IsWord w := by
  obtain ⟨t, ht, hatom⟩ := List.mem_filterMap.1 hw
  cases t with
  | atom a =>
    obtain rfl := Option.some.inj hatom
    exact (writes_iff.2 rfl).isWord ht
  | punct c => cases hatom

theorem filterMap_atom?_map_atom (as : List Atom) :
    (as.map Token.atom).filterMap Token.atom? = as := by
  rw [List.filterMap_map]
  exact List.filterMap_some

theorem atoms_render {as : List Atom} (h : ∀ w, .word w ∈ as → IsWord w) :
    atoms (render as) = as := by
  rw [atoms_of_writes (writes_render h), filterMap_atom?_map_atom]

theorem isCanonical_render {as : List Atom} (h : ∀ w, .word w ∈ as → IsWord w) :
    IsCanonical (String.ofList (render as)) := by
  rw [IsCanonical, String.toList_ofList, canonical, atoms_render h]

/-- **A canonical text stays** as it is, whatever it was made from. -/
theorem isCanonical_canonical (cs : List Char) : IsCanonical (canonical cs) :=
  isCanonical_render fun _ => isWord_of_mem_atoms

/-! ### Texts that are cut -/

theorem closeWord_ne_punct (pending : List Char) : ∀ t ∈ closeWord pending, t ≠ .punct c := by
  cases pending with
  | nil => exact fun t ht => absurd ht List.not_mem_nil
  | cons d pending =>
    rintro t ht rfl
    cases List.mem_singleton.1 ht

theorem takeWhile_append_of_ne {as : List Token} {t : Token} (h : ∀ a ∈ as, a ≠ t)
    (bs : List Token) :
    (as ++ bs).takeWhile (· ≠ t) = as ++ bs.takeWhile (· ≠ t) :=
  List.takeWhile_append_of_pos fun a ha => decide_eq_true (h a ha)

theorem tokensFrom_takeWhile : ∀ pending cs : List Char,
    tokensFrom pending (cs.takeWhile (· ≠ '(')) =
      (tokensFrom pending cs).takeWhile (· ≠ .punct '(')
  | pending, [] => by
    have hkeep := takeWhile_append_of_ne (t := .punct '(') (closeWord_ne_punct pending) []
    rw [List.append_nil, List.takeWhile_nil, List.append_nil] at hkeep
    exact hkeep.symm
  | pending, c :: cs => by
    by_cases hparenthesis : c = '('
    · subst hparenthesis
      rw [List.takeWhile_cons_of_neg (by decide), tokensFrom, tokensFrom, if_neg (by decide),
        List.append_assoc, takeWhile_append_of_ne (closeWord_ne_punct pending)]
      exact (List.append_nil _).symm
    · rw [List.takeWhile_cons_of_pos (by simpa using hparenthesis), tokensFrom, tokensFrom]
      split
      · exact tokensFrom_takeWhile (c :: pending) cs
      · have hsingle : ∀ t ∈ single c, t ≠ .punct '(' := by
          rintro t ht rfl
          unfold single at ht
          split at ht
          · cases List.mem_singleton.1 ht
          · split at ht
            · exact List.not_mem_nil ht
            · exact hparenthesis (Token.punct.inj (List.mem_singleton.1 ht)).symm
        rw [List.append_assoc, List.append_assoc, tokensFrom_takeWhile [] cs,
          takeWhile_append_of_ne (closeWord_ne_punct pending), takeWhile_append_of_ne hsingle]

/-- What stands before the first opening parenthesis writes the tokens before it. -/
theorem Writes.takeWhile (h : Writes (ts ++ rest) cs) (hts : ∀ t ∈ ts, t ≠ .punct '(')
    (hrest : ∀ t ∈ rest.head?, t = .punct '(') : Writes ts (cs.takeWhile (· ≠ '(')) := by
  have hstop : rest.takeWhile (· ≠ .punct '(') = [] := by
    cases rest with
    | nil => rfl
    | cons t rest =>
      obtain rfl := hrest t rfl
      exact List.takeWhile_cons_of_neg (by decide)
  rw [writes_iff, tokens, tokensFrom_takeWhile]
  show (tokens cs).takeWhile _ = ts
  rw [tokens_of_writes h, takeWhile_append_of_ne hts, hstop, List.append_nil]

end TypeText

/-! ### Blanking out a word -/

namespace Text

open TypeText

variable {word v cs : List Char}

/-- A word that does not stand in front of `v` is not found there either with a text
behind `v` that starts outside of a word. -/
theorem dropLeading?_append_eq_none : ∀ {word v : List Char},
    (∀ c ∈ word, isWordChar c = true) → StartsOutsideWord cs → ¬ word <+: v →
      dropLeading? word (v ++ cs) = none
  | [], v, _, _, h => absurd (List.nil_prefix) h
  | p :: word, [], hword, hcs, _ => by
    cases cs with
    | nil => rfl
    | cons c cs =>
      have hne : p ≠ c := by
        rintro rfl
        have hp := hword p List.mem_cons_self
        rw [startsOutsideWord_cons.1 hcs] at hp
        cases hp
      rw [List.nil_append, dropLeading?, if_neg hne]
  | p :: word, c :: v, hword, hcs, h => by
    rw [List.cons_append, dropLeading?]
    split
    · rename_i hpc
      refine dropLeading?_append_eq_none (fun d hd => hword d (List.mem_cons_of_mem p hd)) hcs ?_
      exact fun hv => h (List.cons_prefix_cons.2 ⟨hpc, hv⟩)
    · rfl

theorem replaceFrom_append_of_not_found {replacement : List Char}
    (hword : ∀ c ∈ word, isWordChar c = true) (hcs : StartsOutsideWord cs) :
    ∀ {v : List Char}, ¬ word <:+: v →
      replaceFrom word replacement 0 (v ++ cs) = v ++ replaceFrom word replacement 0 cs
  | [], _ => rfl
  | c :: v, h => by
    have hnone : dropLeading? word (c :: v ++ cs) = none :=
      dropLeading?_append_eq_none hword hcs fun hv => h hv.isInfix
    rw [List.cons_append] at hnone ⊢
    rw [replaceFrom, hnone]
    refine congrArg (c :: ·) (replaceFrom_append_of_not_found hword hcs ?_)
    exact fun hv => h (List.infix_cons hv)

/-- A character that no word has stays. -/
theorem replaceFrom_cons_of_not_wordChar {replacement : List Char} (hword : word ≠ [])
    (hall : ∀ c ∈ word, isWordChar c = true) {c : Char} (hc : isWordChar c = false) :
    replaceFrom word replacement 0 (c :: cs) = c :: replaceFrom word replacement 0 cs := by
  have hnone : dropLeading? word ([] ++ c :: cs) = none :=
    dropLeading?_append_eq_none hall (startsOutsideWord_cons.2 hc)
      fun h => hword (List.prefix_nil.1 h)
  rw [List.nil_append] at hnone
  rw [replaceFrom, hnone]

end Text

namespace TypeText

variable {ts : List Token} {cs : List Char} {word : String}

/-- **Blanking out a word** takes it from the tokens, if no other word has it inside. -/
theorem Writes.replaceAll (hword : IsWord word) (h : Writes ts cs)
    (hfree : ∀ w, .atom (.word w) ∈ ts → w = word ∨ ¬ word.toList <:+: w.toList) :
    Writes (ts.filter (· ≠ .atom (.word word))) (Text.replaceAll word.toList [' '] cs) := by
  have hne : word.toList ≠ [] := hword.toList_ne_nil
  unfold Text.replaceAll
  induction h with
  | nil => exact .nil
  | blank hc _ ih =>
    rw [Text.replaceFrom_cons_of_not_wordChar hne hword.2 (isWordChar_of_isBlank hc)]
    exact .blank hc (ih hfree)
  | star _ ih =>
    rw [Text.replaceFrom_cons_of_not_wordChar hne hword.2 (by decide),
      List.filter_cons_of_pos (by simp)]
    exact .star (ih fun w hw => hfree w (List.mem_cons_of_mem _ hw))
  | punct hblank hstar hc _ ih =>
    rw [Text.replaceFrom_cons_of_not_wordChar hne hword.2 hc, List.filter_cons_of_pos (by simp)]
    exact .punct hblank hstar hc (ih fun w hw => hfree w (List.mem_cons_of_mem _ hw))
  | @word ts w cs hw hend _ ih =>
    have hrest := ih fun v hv => hfree v (List.mem_cons_of_mem _ hv)
    by_cases hsame : w = word
    · subst hsame
      rw [Text.replaceFrom_word_append hne, List.filter_cons_of_neg (by simp)]
      exact .blank (by decide) hrest
    · have hfound := (hfree w List.mem_cons_self).resolve_left hsame
      have hend' : StartsOutsideWord (Text.replaceFrom word.toList [' '] 0 cs) := by
        cases cs with
        | nil => exact startsOutsideWord_nil
        | cons c cs =>
          have hc := startsOutsideWord_cons.1 hend
          rw [Text.replaceFrom_cons_of_not_wordChar hne hword.2 hc]
          exact startsOutsideWord_cons.2 hc
      rw [Text.replaceFrom_append_of_not_found hword.2 hend hfound,
        List.filter_cons_of_pos (by simpa using hsame)]
      exact .word hw hend' hrest

end TypeText
end VulkanFoundry
