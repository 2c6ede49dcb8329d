/-
# Texts in pieces

A text that is split at a character has one piece more than the character has
occurrences, and splitting goes through the text from left to right, so that two texts
with the character between them are split each by itself. So pieces without the character
are found again when they are put together with it. Pieces that are put together hold no
character that neither they nor the separator hold, and how they end is told by the last
piece alone. A text is cut in two at the first occurrence of a character, if
there is one.
-/
import Mathlib.Data.List.Basic
import VulkanFoundry.Text.Blank

namespace VulkanFoundry
namespace Text

theorem splitAtChar_ne_nil (separator : Char) :
    ∀ cs : List Char, splitAtChar separator cs ≠ []
  | [] => List.cons_ne_nil _ _
  | c :: cs => by
    rw [splitAtChar]
    split
    · exact List.cons_ne_nil _ _
    · split
      · exact List.cons_ne_nil _ _
      · exact List.cons_ne_nil _ _

theorem splitAtChar_append (separator : Char) (rest : List Char) :
    ∀ cs : List Char, splitAtChar separator (cs ++ separator :: rest) =
      splitAtChar separator cs ++ splitAtChar separator rest
  | [] => by
    show splitAtChar separator (separator :: rest) = [[]] ++ splitAtChar separator rest
    rw [splitAtChar, if_pos rfl]
    rfl
  | c :: cs => by
    rw [List.cons_append, splitAtChar, splitAtChar, splitAtChar_append separator rest cs]
    split
    · rfl
    · cases hs : splitAtChar separator cs with
      | nil => exact absurd hs (splitAtChar_ne_nil separator cs)
      | cons piece pieces => rfl

theorem splitAtChar_of_not_mem {separator : Char} :
    ∀ {cs : List Char}, separator ∉ cs → splitAtChar separator cs = [cs]
  | [], _ => rfl
  | c :: cs, h => by
    have hc : c ≠ separator := fun he => h (he ▸ List.mem_cons_self)
    have hcs : separator ∉ cs := fun hm => h (List.mem_cons_of_mem c hm)
    rw [splitAtChar, if_neg hc, splitAtChar_of_not_mem hcs]

theorem not_mem_of_mem_splitAtChar {separator : Char} {piece : List Char} :
    ∀ {cs : List Char}, piece ∈ splitAtChar separator cs → separator ∉ piece
  | [], h => by
    rw [List.mem_singleton.1 h]
    exact List.not_mem_nil
  | c :: cs, h => by
    rw [splitAtChar] at h
    split at h
    · rcases List.mem_cons.1 h with rfl | h
      · exact List.not_mem_nil
      · exact not_mem_of_mem_splitAtChar h
    · rename_i hc
      cases hs : splitAtChar separator cs with
      | nil => exact absurd hs (splitAtChar_ne_nil separator cs)
      | cons first pieces =>
        rw [hs] at h
        rcases List.mem_cons.1 h with rfl | h
        · have hfirst : first ∈ splitAtChar separator cs := hs ▸ List.mem_cons_self
          exact fun hm => (List.mem_cons.1 hm).elim (Ne.symm hc)
            (not_mem_of_mem_splitAtChar hfirst)
        · exact not_mem_of_mem_splitAtChar (hs ▸ List.mem_cons_of_mem first h)

theorem splitAtChar_join {separator : Char} : ∀ {pieces : List (List Char)}, pieces ≠ [] →
    (∀ piece ∈ pieces, separator ∉ piece) →
      splitAtChar separator (join [separator] pieces) = pieces
  | [piece], _, h => splitAtChar_of_not_mem (h piece List.mem_cons_self)
  | piece :: piece' :: pieces, _, h => by
    have hrest := splitAtChar_join (List.cons_ne_nil piece' pieces) fun p hp =>
      h p (List.mem_cons_of_mem piece hp)
    show splitAtChar separator (piece ++ [separator] ++ join [separator] (piece' :: pieces)) = _
    rw [List.append_assoc, List.singleton_append, splitAtChar_append, hrest,
      splitAtChar_of_not_mem (h piece List.mem_cons_self)]
    rfl

theorem not_mem_join {c : Char} {separator : List Char} (hs : c ∉ separator) :
    ∀ {pieces : List (List Char)}, (∀ piece ∈ pieces, c ∉ piece) →
      c ∉ join separator pieces
  | [], _ => List.not_mem_nil
  | [piece], h => h piece List.mem_cons_self
  | piece :: piece' :: pieces, h => by
    have hrest := not_mem_join hs fun p hp => h p (List.mem_cons_of_mem piece hp)
    show c ∉ piece ++ separator ++ join separator (piece' :: pieces)
    rw [List.mem_append, List.mem_append]
    rintro ((hm | hm) | hm)
    · exact h piece List.mem_cons_self hm
    · exact hs hm
    · exact hrest hm

/-- What stands in front of the last piece depends on the other pieces alone. -/
theorem exists_join_concat (separator : List Char) : ∀ pieces : List (List Char),
    ∃ lead, ∀ piece, join separator (pieces ++ [piece]) = lead ++ piece
  | [] => ⟨[], fun _ => rfl⟩
  | first :: pieces => by
    obtain ⟨lead, hlead⟩ := exists_join_concat separator pieces
    refine ⟨first ++ separator ++ lead, fun piece => ?_⟩
    have hne : pieces ++ [piece] ≠ [] := by simp
    obtain ⟨second, rest, hcons⟩ := List.exists_cons_of_ne_nil hne
    have hjoin : join separator (first :: second :: rest) =
        first ++ separator ++ join separator (second :: rest) := rfl
    rw [List.cons_append, hcons, hjoin, ← hcons, hlead, List.append_assoc _ lead]

theorem splitAtFirst?_append {c : Char} (rest : List Char) : ∀ {front : List Char}, c ∉ front →
    splitAtFirst? [c] (front ++ c :: rest) = some (front, rest)
  | [], _ => by simp [splitAtFirst?, dropLeading?]
  | d :: front, h => by
    have hd : c ≠ d := fun he => h (he ▸ List.mem_cons_self)
    have hfront : c ∉ front := fun hm => h (List.mem_cons_of_mem d hm)
    rw [List.cons_append, splitAtFirst?, dropLeading?, if_neg hd]
    simp [splitAtFirst?_append rest hfront]

theorem splitAtFirst?_of_not_mem {c : Char} : ∀ {cs : List Char}, c ∉ cs →
    splitAtFirst? [c] cs = none
  | [], _ => rfl
  | d :: cs, h => by
    have hd : c ≠ d := fun he => h (he ▸ List.mem_cons_self)
    have hcs : c ∉ cs := fun hm => h (List.mem_cons_of_mem d hm)
    rw [splitAtFirst?, dropLeading?, if_neg hd]
    simp [splitAtFirst?_of_not_mem hcs]

end Text
end VulkanFoundry
