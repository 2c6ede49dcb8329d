/-
# The parts of a declaration hold all its text

Fragments can come in any order, with any number of tags. At any point the declaration has
reached one of its parts, and the parts behind that one are still empty
(`Declaration.InOrder`). A fragment is added at the end of the part that has been reached,
or starts the next part, so it always comes behind all text that there is, and a tag that
starts no part is text like any other. A tag that starts a part loses the blanks around it
and nothing else. So the parts of a declaration, one after the other, are the text of all
its fragments but for blanks (`Declaration.withoutBlanks_text_ofFragments`).

Comments are passed over, and text is added to the same part whether it comes in one piece
or in several, so neither has any influence (`Declaration.foldl_add_text`).

Key theorems: `Declaration.InOrder.text_addText`, `Declaration.InOrder.add`,
`Declaration.ofFragments_keeps_text`.
-/
import VulkanFoundry.Proofs.Declaration.Fragments
import VulkanFoundry.Proofs.Text.Lossless

namespace VulkanFoundry
namespace Declaration

open Text (withoutBlanks)

variable {d : Declaration}

/-- The text of all parts, from the first to the last. -/
def text (d : Declaration) : String :=
  d.lead ++ d.base.getD "" ++ d.tail ++ d.name.getD "" ++ d.suffix

/-- What stands behind a missing type or a missing name is still empty. -/
structure InOrder (d : Declaration) : Prop where
  tail_eq : d.base = none → d.tail = ""
  suffix_eq : d.name = none → d.suffix = ""

theorem inOrder_empty : ({} : Declaration).InOrder := ⟨fun _ => rfl, fun _ => rfl⟩

/-! ### One more fragment -/

theorem InOrder.addText (h : d.InOrder) (s : String) : (d.addText s).InOrder := by
  unfold Declaration.addText
  split
  · rename_i hname
    have hsome : d.name ≠ none := Option.isSome_iff_ne_none.1 hname
    exact ⟨h.tail_eq, fun hnone => absurd hnone hsome⟩
  · split
    · rename_i hbase
      have hsome : d.base ≠ none := Option.isSome_iff_ne_none.1 hbase
      exact ⟨fun hnone => absurd hnone hsome, h.suffix_eq⟩
    · exact ⟨h.tail_eq, h.suffix_eq⟩

theorem InOrder.text_addText (h : d.InOrder) (s : String) : (d.addText s).text = d.text ++ s := by
  unfold Declaration.addText
  split
  · simp only [text, String.append_assoc]
  · rename_i hname
    have hname : d.name = none := by simpa using hname
    have hsuffix : d.suffix = "" := h.suffix_eq hname
    split
    · simp only [text, hname, hsuffix, Option.getD_none, String.append_empty, String.append_assoc]
    · rename_i hbase
      have hbase : d.base = none := by simpa using hbase
      have htail : d.tail = "" := h.tail_eq hbase
      simp only [text, hname, hsuffix, hbase, htail, Option.getD_none, String.append_empty]

theorem InOrder.withoutBlanks_text_base (h : d.InOrder) (hbase : d.base = none)
    (hname : d.name = none) (s : String) :
    withoutBlanks { d with base := some (Text.trimmed s) }.text.toList =
      withoutBlanks d.text.toList ++ withoutBlanks s.toList := by
  have htail : d.tail = "" := h.tail_eq hbase
  have hsuffix : d.suffix = "" := h.suffix_eq hname
  simp only [text, hbase, hname, htail, hsuffix, Option.getD_some, Option.getD_none,
    String.append_empty, String.toList_append, Text.withoutBlanks_append,
    Text.withoutBlanks_trimmed]

theorem InOrder.withoutBlanks_text_name (h : d.InOrder) (hname : d.name = none) (s : String) :
    withoutBlanks { d with name := some (Text.trimmed s) }.text.toList =
      withoutBlanks d.text.toList ++ withoutBlanks s.toList := by
  have hsuffix : d.suffix = "" := h.suffix_eq hname
  simp only [text, hname, hsuffix, Option.getD_some, Option.getD_none, String.append_empty,
    String.toList_append, Text.withoutBlanks_append, Text.withoutBlanks_trimmed]

theorem InOrder.withoutBlanks_text_addText (h : d.InOrder) (s : String) :
    withoutBlanks (d.addText s).text.toList =
      withoutBlanks d.text.toList ++ withoutBlanks s.toList := by
  rw [h.text_addText, String.toList_append, Text.withoutBlanks_append]

/-- **A fragment comes behind all text that there is**, and the parts stay in order. -/
theorem InOrder.add (h : d.InOrder) (f : Fragment) :
    (d.add f).InOrder ∧ withoutBlanks (d.add f).text.toList =
      withoutBlanks d.text.toList ++ withoutBlanks (f.text?.getD "").toList := by
  cases f with
  | comment s => exact ⟨h, (List.append_nil _).symm⟩
  | text s => exact ⟨h.addText s, h.withoutBlanks_text_addText s⟩
  | enum s => exact ⟨h.addText s, h.withoutBlanks_text_addText s⟩
  | type s =>
    rw [Declaration.add]
    split
    · rename_i hfirst
      obtain ⟨hbase, hname⟩ : d.base = none ∧ d.name = none := by simpa using hfirst
      exact ⟨⟨fun hnone => absurd hnone (Option.some_ne_none _), h.suffix_eq⟩,
        h.withoutBlanks_text_base hbase hname s⟩
    · exact ⟨h.addText s, h.withoutBlanks_text_addText s⟩
  | name s =>
    rw [Declaration.add]
    split
    · rename_i hfirst
      have hname : d.name = none := by simpa using hfirst
      exact ⟨⟨h.tail_eq, fun hnone => absurd hnone (Option.some_ne_none _)⟩,
        h.withoutBlanks_text_name hname s⟩
    · exact ⟨h.addText s, h.withoutBlanks_text_addText s⟩

/-! ### All fragments -/

theorem withoutBlanks_text_foldl_add : ∀ {d : Declaration} (fragments : List Fragment),
    d.InOrder → withoutBlanks (fragments.foldl add d).text.toList =
      withoutBlanks d.text.toList ++ withoutBlanks (allText fragments).toList
  | d, [], _ => (List.append_nil _).symm
  | d, f :: fragments, h => by
    obtain ⟨horder, hfirst⟩ := h.add f
    have hrest := withoutBlanks_text_foldl_add fragments horder
    calc withoutBlanks ((f :: fragments).foldl add d).text.toList
        = withoutBlanks (d.add f).text.toList ++ withoutBlanks (allText fragments).toList := hrest
      _ = withoutBlanks d.text.toList ++ (withoutBlanks (f.text?.getD "").toList ++
            withoutBlanks (allText fragments).toList) := by rw [hfirst, List.append_assoc]
      _ = withoutBlanks d.text.toList ++ withoutBlanks (allText (f :: fragments)).toList := by
        rw [allText_cons, String.toList_append, Text.withoutBlanks_append]

/-- **No text is lost or moved**, whatever the order of the tags. -/
theorem withoutBlanks_text_ofFragments (fragments : List Fragment) :
    withoutBlanks (ofFragments fragments).text.toList =
      withoutBlanks (allText fragments).toList :=
  withoutBlanks_text_foldl_add fragments inOrder_empty

theorem foldl_add_comment : ∀ (d : Declaration) (comments : List String),
    (comments.map Fragment.comment).foldl add d = d
  | _, [] => rfl
  | d, _ :: comments => foldl_add_comment d comments

theorem addText_empty (d : Declaration) : d.addText "" = d := by
  simp [addText]

theorem addText_append (d : Declaration) (s s' : String) :
    d.addText (s ++ s') = (d.addText s).addText s' := by
  unfold addText
  split
  · simp [*, String.append_assoc]
  · split <;> simp [*, String.append_assoc]

/-- Text in pieces goes where it goes in one piece. -/
theorem foldl_add_text : ∀ (d : Declaration) (pieces : List String),
    (pieces.map Fragment.text).foldl add d = d.addText (String.join pieces)
  | d, [] => (addText_empty d).symm
  | d, s :: pieces => by
    have hrest := foldl_add_text (d.addText s) pieces
    have hjoin : String.join (s :: pieces) = s ++ String.join pieces := by simp
    rw [hjoin, addText_append]
    exact hrest

/-- **A declaration keeps all its text in order.** The texts of its parts, one after the
other, are the text of its fragments but for blanks, whatever fragments there are and in
whatever order. Comments among the fragments make no difference, and neither does it
make a difference in how many pieces a text comes. -/
theorem ofFragments_keeps_text :
    (∀ fragments, withoutBlanks (ofFragments fragments).text.toList =
      withoutBlanks (allText fragments).toList) ∧
    (∀ (before after : List Fragment) (comments : List String),
      ofFragments (before ++ (comments.map .comment ++ after)) = ofFragments (before ++ after)) ∧
    ∀ (before after : List Fragment) (pieces : List String),
      ofFragments (before ++ (pieces.map .text ++ after)) =
        ofFragments (before ++ .text (String.join pieces) :: after) := by
  refine ⟨withoutBlanks_text_ofFragments, fun before after comments => ?_,
    fun before after pieces => ?_⟩
  · rw [ofFragments, ofFragments, List.foldl_append, List.foldl_append, foldl_add_comment,
      List.foldl_append]
  · rw [ofFragments, ofFragments, List.foldl_append, List.foldl_append, foldl_add_text,
      List.foldl_append]
    rfl

end Declaration
end VulkanFoundry
