/-
# Tokens of words

A word is read to its end: the characters that can stand in it are kept until one
comes that cannot, which then stands by itself.
-/
import VulkanFoundry.TypeText

namespace VulkanFoundry
namespace TypeText

def OfWordChars (name : String) : Prop := ∀ c ∈ name.toList, isWordChar c = true

-- the characters of the name are tried, not all characters there are
instance (name : String) : Decidable (OfWordChars name) :=
  List.decidableBAll (fun c => isWordChar c = true) name.toList

/-- The string is a word, as an identifier is. -/
def IsWord (name : String) : Prop := name ≠ "" ∧ OfWordChars name

instance (name : String) : Decidable (IsWord name) :=
  inferInstanceAs (Decidable (name ≠ "" ∧ OfWordChars name))

theorem IsWord.toList_ne_nil {name : String} (h : IsWord name) : name.toList ≠ [] := fun hnil =>
  h.1 (String.toList_eq_nil_iff.1 hnil)

theorem isWord_ofList {cs : List Char} (hne : cs ≠ []) (hall : ∀ c ∈ cs, isWordChar c = true) :
    IsWord (String.ofList cs) := by
  refine ⟨fun hempty => hne ?_, fun c hc => ?_⟩
  · have hnil := String.toList_eq_nil_iff.2 hempty
    rwa [String.toList_ofList] at hnil
  · rw [String.toList_ofList] at hc
    exact hall c hc

theorem OfWordChars.not_mem {name : String} (h : OfWordChars name) {c : Char}
    (hc : isWordChar c = false) : c ∉ name.toList := fun hm => by
  rw [h c hm] at hc
  cases hc

theorem tokensFrom_word_append :
    ∀ {w pending cs : List Char}, (∀ c ∈ w, isWordChar c = true) →
      tokensFrom pending (w ++ cs) = tokensFrom (w.reverse ++ pending) cs
  | [], pending, cs, _ => rfl
  | c :: w, pending, cs, h => by
    have hw : ∀ d ∈ w, isWordChar d = true := fun d hd => h d (List.mem_cons_of_mem c hd)
    rw [List.cons_append, tokensFrom, if_pos (h c List.mem_cons_self),
      tokensFrom_word_append hw, List.reverse_cons, List.append_assoc]
    rfl

theorem tokensFrom_cons_of_not_wordChar {c : Char} (hc : isWordChar c = false)
    (pending cs : List Char) :
    tokensFrom pending (c :: cs) = closeWord pending ++ single c ++ tokens cs := by
  rw [tokensFrom, if_neg (by rw [hc]; exact Bool.false_ne_true)]
  rfl

theorem closeWord_reverse {name : String} (h : name ≠ "") :
    closeWord name.toList.reverse = [.atom (.word name)] := by
  cases hr : name.toList.reverse with
  | nil =>
    have hnil : name.toList = [] := List.reverse_eq_nil_iff.1 hr
    exact absurd (String.toList_eq_nil_iff.1 hnil) h
  | cons c cs => rw [closeWord, ← hr, List.reverse_reverse, String.ofList_toList]

theorem tokens_word_append {name : String} (h : IsWord name) {c : Char}
    (hc : isWordChar c = false) (cs : List Char) :
    tokens (name.toList ++ c :: cs) = .atom (.word name) :: (single c ++ tokens cs) := by
  rw [tokens, tokensFrom_word_append h.2, List.append_nil, tokensFrom_cons_of_not_wordChar hc,
    closeWord_reverse h.1]
  rfl

theorem tokens_word {name : String} (h : IsWord name) :
    tokens name.toList = [.atom (.word name)] := by
  have hall : tokensFrom [] (name.toList ++ []) = tokensFrom (name.toList.reverse ++ []) [] :=
    tokensFrom_word_append h.2
  rw [List.append_nil, List.append_nil] at hall
  rw [tokens, hall, tokensFrom, closeWord_reverse h.1]

/-- A text that starts with a letter starts with a word. -/
theorem exists_tokensFrom_eq_word :
    ∀ {pending : List Char} (cs : List Char), pending ≠ [] →
      ∃ w rest, tokensFrom pending cs = .atom (.word w) :: rest
  | p :: pending, [], _ => ⟨_, [], rfl⟩
  | p :: pending, c :: cs, _ => by
    rw [tokensFrom]
    by_cases hc : isWordChar c = true
    · rw [if_pos hc]
      exact exists_tokensFrom_eq_word cs (List.cons_ne_nil c _)
    · rw [if_neg hc]
      exact ⟨_, _, rfl⟩

end TypeText
end VulkanFoundry
