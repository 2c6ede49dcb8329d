/-
# Members are read as they are written

A member is written with words before its type, with stars and `const` between the type
and the name, and behind the name with its dimensions or with the width of a bit field.
Type and name are tagged; a dimension may be. Blanks and comments may stand anywhere
between the tokens.

However a member is written, it is read with the canonical text of its type, its name, its
dimensions in order and its width (`WrittenMember.ofElement_of_writtenAs`). Texts
are compared by the tokens they write, so it does not matter how they are cut into
fragments. Every member can be written (`WrittenMember.writtenAs_fragments`).

Key theorems: `ArraySize.opensWith_of_writes`, `MemberLayout.readLayout_of_writes`.
-/
import VulkanFoundry.Proofs.Declaration.Dimensions
import VulkanFoundry.Proofs.Declaration.Spelling

namespace VulkanFoundry

open TypeText

/-! ### What a text starts with -/

namespace TypeText

variable {t : Token} {ts : List Token} {cs blanks : List Char} {w : String}

theorem Writes.isBlank (h : Writes [] cs) : ∀ c ∈ cs, Text.isBlank c = true := by
  generalize hts : ([] : List Token) = ts at h
  induction h with
  | nil => exact fun c hc => absurd hc List.not_mem_nil
  | blank hc _ ih => exact List.forall_mem_cons.2 ⟨hc, ih hts⟩
  | star => cases hts
  | punct => cases hts
  | word => cases hts

/-- A text starts with blanks and its first token. -/
theorem Writes.exists_eq_append (h : Writes (t :: ts) cs) :
    ∃ blanks cs', cs = blanks ++ (t.chars ++ cs') ∧ (∀ c ∈ blanks, Text.isBlank c = true) ∧
      Writes ts cs' := by
  have hnone : ∀ c ∈ ([] : List Char), Text.isBlank c = true :=
    fun c hc => absurd hc List.not_mem_nil
  generalize hts : t :: ts = us at h
  induction h with
  | nil => cases hts
  | @blank us c cs hc _ ih =>
    obtain ⟨blanks, cs', rfl, hblanks, hrest⟩ := ih hts
    exact ⟨c :: blanks, cs', rfl, List.forall_mem_cons.2 ⟨hc, hblanks⟩, hrest⟩
  | @star us cs h =>
    obtain ⟨rfl, rfl⟩ := List.cons.inj hts
    exact ⟨[], cs, rfl, hnone, h⟩
  | @punct us c cs _ _ _ h =>
    obtain ⟨rfl, rfl⟩ := List.cons.inj hts
    exact ⟨[], cs, rfl, hnone, h⟩
  | @word us w cs _ _ h =>
    obtain ⟨rfl, rfl⟩ := List.cons.inj hts
    exact ⟨[], cs, rfl, hnone, h⟩

theorem Writes.blanks_append (h : Writes ts cs) :
    ∀ {blanks : List Char}, (∀ c ∈ blanks, Text.isBlank c = true) → Writes ts (blanks ++ cs)
  | [], _ => h
  | c :: _, hblanks => .blank (hblanks c List.mem_cons_self)
      (h.blanks_append fun d hd => hblanks d (List.mem_cons_of_mem c hd))

theorem Writes.append_blanks (h : Writes ts cs) (hblanks : ∀ c ∈ blanks, Text.isBlank c = true) :
    Writes ts (cs ++ blanks) := by
  cases blanks with
  | nil =>
    rw [List.append_nil]
    exact h
  | cons c blanks =>
    have hrest : Writes [] ([] : List Char) := .nil
    have hblanks' := hrest.blanks_append fun d hd => hblanks d (List.mem_cons_of_mem c hd)
    rw [List.append_nil] at hblanks'
    have hall := h.append_blank (hblanks c List.mem_cons_self) hblanks'
    rwa [List.append_nil] at hall

/-- **Blanks around a text** make no difference to what it writes. -/
theorem writes_trim_iff : Writes ts (Text.trim cs) ↔ Writes ts cs := by
  have hall : ∀ us, Writes us (Text.trim cs) → Writes us cs := by
    intro us h
    obtain ⟨front, back, hsplit, hfront, hback⟩ := Text.exists_eq_append_trim cs
    rw [hsplit]
    exact (h.append_blanks hback).blanks_append hfront
  refine ⟨hall ts, fun h => ?_⟩
  have hown : Writes (tokens (Text.trim cs)) (Text.trim cs) := writes_iff.2 rfl
  rwa [← tokens_of_writes (hall _ hown), tokens_of_writes h] at hown

/-- A trimmed text starts with its first token. -/
theorem Writes.exists_trim_eq_append (h : Writes (t :: ts) cs) :
    ∃ cs', Text.trim cs = t.chars ++ cs' ∧ Writes ts cs' := by
  obtain ⟨blanks, cs', hsplit, hblanks, hrest⟩ := (writes_trim_iff.2 h).exists_eq_append
  cases blanks with
  | nil => exact ⟨cs', hsplit, hrest⟩
  | cons c blanks =>
    have hhead : c ∈ (Text.trim cs).head? := by
      rw [hsplit]
      rfl
    have hnot : Text.isBlank c = false := Text.isBlank_of_mem_head?_trim hhead
    rw [hblanks c List.mem_cons_self] at hnot
    cases hnot

/-- A single word is what is left of a text when blanks are cut off. -/
theorem Writes.trim_eq (hw : IsWord w) (h : Writes [.atom (.word w)] cs) :
    Text.trim cs = w.toList := by
  obtain ⟨front, back, rfl, hfront, hback⟩ := h.exists_eq_append
  exact Text.trim_append_append hfront hw.isBlank_eq_false hback.isBlank

theorem isWord_decimal (n : Nat) : IsWord (Text.decimal n) := by
  have hdigits : ∀ c ∈ Text.digits 10 n, isWordChar c = true :=
    Text.forall_mem_digits (by decide) (by decide) (by decide)
  exact isWord_ofList (Text.digits_ne_nil 10 n) hdigits

end TypeText

/-! ### Dimensions -/

namespace ArraySize

variable {size : ArraySize} {sizes : List ArraySize} {cs : List Char}

def word : ArraySize → String
  | literal n => Text.decimal n.toNat
  | constant name => name

def tokens (size : ArraySize) : List Token :=
  [.punct '[', .atom (.word size.word), .punct ']']

def fragments : ArraySize → List Fragment
  | literal n => [.text "[", .text (Text.decimal n.toNat), .text "]"]
  | constant name => [.text "[", .enum name, .text "]"]

/-- A constant is named by a word that is no number. -/
def Sound : ArraySize → Prop
  | literal _ => True
  | constant name => IsWord name ∧ Text.readUInt32? 10 name.toList = none

instance : (size : ArraySize) → Decidable size.Sound
  | literal _ => inferInstanceAs (Decidable True)
  | constant name =>
    inferInstanceAs (Decidable (IsWord name ∧ Text.readUInt32? 10 name.toList = none))

theorem Sound.isWord_word (h : size.Sound) : IsWord size.word := by
  cases size with
  | literal n => exact isWord_decimal n.toNat
  | constant name => exact h.1

/-- **The word of a dimension is read as the dimension.** -/
theorem Sound.ofWord?_word (h : size.Sound) : ofWord? size.word.toList = some size := by
  have hword := h.isWord_word
  have hne : size.word.toList ≠ [] := hword.toList_ne_nil
  have hcheck : (size.word.toList.isEmpty || !size.word.toList.all isWordChar) = false := by
    rw [Bool.or_eq_false_iff, Bool.not_eq_false', List.isEmpty_eq_false_iff, List.all_eq_true]
    exact ⟨hne, hword.2⟩
  rw [ofWord?, if_neg (by rw [hcheck]; exact Bool.false_ne_true)]
  cases size with
  | literal n =>
    have hread : Text.readUInt32? 10 (literal n).word.toList = some n := by
      rw [word, Text.decimal, String.toList_ofList]
      exact Text.readUInt32?_digits n
    rw [hread]
  | constant name =>
    have hread : Text.readUInt32? 10 (constant name).word.toList = none := h.2
    rw [hread, word, String.ofList_toList]

/-- **A text that writes dimensions** and nothing else is a list of bracket groups. -/
theorem opensWith_of_writes : ∀ {sizes : List ArraySize} {cs : List Char},
    (∀ size ∈ sizes, size.Sound) → Writes (sizes.flatMap tokens) cs → OpensWith sizes [] cs
  | [], cs, _, h => by
    have hstop : OpensWith [] [] [] := .stop fun c hc => nomatch hc
    have hblanks := hstop.blanks_append h.isBlank
    rwa [List.append_nil] at hblanks
  | size :: sizes, cs, hsound, h => by
    have hsize : size.Sound := hsound size List.mem_cons_self
    have hword := hsize.isWord_word
    have hshape : Writes (.punct '[' :: .atom (.word size.word) :: .punct ']' ::
      sizes.flatMap tokens) cs := h
    obtain ⟨before, afterOpen, rfl, hbefore, hopen⟩ := hshape.exists_eq_append
    obtain ⟨front, afterWord, rfl, hfront, hinner⟩ := hopen.exists_eq_append
    obtain ⟨back, afterClose, rfl, hback, hclose⟩ := hinner.exists_eq_append
    have hrest : OpensWith sizes [] afterClose :=
      opensWith_of_writes (fun s hs => hsound s (List.mem_cons_of_mem size hs)) hclose
    have htrim : Text.trim (front ++ (size.word.toList ++ back)) = size.word.toList :=
      Text.trim_append_append hfront hword.isBlank_eq_false hback
    have hcontent : ']' ∉ front ++ (size.word.toList ++ back) := by
      intro hmem
      rcases List.mem_append.1 hmem with hmem | hmem
      · exact absurd (hfront _ hmem) (by decide)
      · rcases List.mem_append.1 hmem with hmem | hmem
        · exact absurd (hword.2 _ hmem) (by decide)
        · exact absurd (hback _ hmem) (by decide)
    have hgroup := OpensWith.group hcontent (by rw [htrim]; exact hsize.ofWord?_word) hrest
    have hall := hgroup.blanks_append hbefore
    simpa only [Token.chars, Atom.text, List.nil_append, List.append_assoc,
      List.cons_append] using hall

theorem toList_allText_fragments (size : ArraySize) :
    (allText size.fragments).toList = '[' :: (size.word.toList ++ [']']) := by
  cases size <;> simp [fragments, word, Fragment.text?, allText]

theorem writes_allText_flatMap_fragments : ∀ {sizes : List ArraySize},
    (∀ size ∈ sizes, size.Sound) →
      Writes (sizes.flatMap tokens) (allText (sizes.flatMap fragments)).toList
  | [], _ => .nil
  | size :: sizes, hsound => by
    have hsize : size.Sound := hsound size List.mem_cons_self
    have hrest := writes_allText_flatMap_fragments fun s hs =>
      hsound s (List.mem_cons_of_mem size hs)
    rw [List.flatMap_cons, List.flatMap_cons, allText_append, String.toList_append,
      toList_allText_fragments, List.cons_append, List.append_assoc]
    refine .punct (by decide) (by decide) (by decide) (.word hsize.isWord_word ?_ ?_)
    · exact startsOutsideWord_cons.2 (by decide)
    · exact .punct (by decide) (by decide) (by decide) hrest

end ArraySize

/-! ### What stands behind a name -/

/-- What is written behind the name of a member: its dimensions, or the width of a bit
field. -/
inductive MemberLayout where
  | array (sizes : List ArraySize)
  | bitField (width : UInt32)
  deriving DecidableEq

namespace MemberLayout

variable {layout : MemberLayout} {cs : List Char}

def sizes : MemberLayout → List ArraySize
  | array sizes => sizes
  | bitField _ => []

def width? : MemberLayout → Option UInt32
  | array _ => none
  | bitField width => some width

/-- What is written behind the name: each dimension in brackets, or a colon and the
width. -/
def tokens : MemberLayout → List Token
  | array sizes => sizes.flatMap ArraySize.tokens
  | bitField width => [.punct ':', .atom (.word (Text.decimal width.toNat))]

/-- The fragments that usually write it, where the names of constants are tagged. -/
def fragments : MemberLayout → List Fragment
  | array sizes => sizes.flatMap ArraySize.fragments
  | bitField width => [.text ":", .text (Text.decimal width.toNat)]

/-- All constants are named by words that are no numbers. -/
def Sound (layout : MemberLayout) : Prop := ∀ size ∈ layout.sizes, size.Sound

instance (layout : MemberLayout) : Decidable layout.Sound :=
  inferInstanceAs (Decidable (∀ size ∈ layout.sizes, size.Sound))

end MemberLayout

theorem Attribute.readNumber_of_writes {attr : String} {n : UInt32} {cs : List Char}
    (h : Writes [.atom (.word (Text.decimal n.toNat))] cs) :
    readNumber attr (String.ofList cs) = .ok n := by
  have htrim : Text.trim cs = Text.digits 10 n.toNat := by
    rw [h.trim_eq (isWord_decimal n.toNat), Text.decimal, String.toList_ofList]
  have hdecimal : Text.dropLeading? ['0', 'x'] (Text.digits 10 n.toNat) = none := by
    refine Option.eq_none_iff_forall_ne_some.2 fun hex hdrop => ?_
    have hmem : 'x' ∈ Text.digits 10 n.toNat := by
      rw [Text.eq_append_of_dropLeading? hdrop]
      simp
    have hdigit : ∀ c ∈ Text.digits 10 n.toNat, c ≠ 'x' :=
      Text.forall_mem_digits (by decide) (by decide) (by decide)
    exact hdigit 'x' hmem rfl
  have hread := Text.readUInt32?_digits n
  simp only [readNumber, String.toList_ofList, htrim, hdecimal, hread]

namespace MemberLayout

variable {layout : MemberLayout} {suffix : String}

/-- **What stands behind a name is read** as the dimensions or the width that it writes. -/
theorem readLayout_of_writes (hsound : layout.Sound) (h : Writes layout.tokens suffix.toList) :
    readLayout (Text.trimmed suffix) = .ok (layout.sizes, layout.width?) := by
  cases layout with
  | array sizes =>
    have hread : ArraySize.readAll (Text.trimmed suffix) = .ok sizes :=
      ArraySize.readAll_trimmed_eq_ok_iff.2
        (ArraySize.readAll_eq_ok_iff.2 ⟨[], ArraySize.opensWith_of_writes hsound h⟩)
    have hcolon : ∀ width, (Text.trimmed suffix).toList ≠ ':' :: width := by
      intro width heq
      rw [Text.trimmed, String.toList_ofList] at heq
      cases sizes with
      | nil =>
        rw [Text.trim_eq_nil h.isBlank] at heq
        cases heq
      | cons size sizes =>
        obtain ⟨cs, htrim, -⟩ := Writes.exists_trim_eq_append (t := .punct '[') h
        rw [htrim] at heq
        cases heq
    unfold readLayout
    split
    · rename_i width heq
      exact absurd heq (hcolon width)
    · rw [hread]
      rfl
  | bitField width =>
    obtain ⟨cs, htrim, hwidth⟩ := Writes.exists_trim_eq_append h
    have hread : Attribute.readNumber "bitfield width" (String.ofList cs) = .ok width :=
      Attribute.readNumber_of_writes hwidth
    have hcolon : (Text.trimmed suffix).toList = ':' :: cs := by
      rw [Text.trimmed, String.toList_ofList, htrim]
      rfl
    unfold readLayout
    split
    · rename_i width' heq
      obtain rfl : cs = width' := (List.cons.inj (hcolon.symm.trans heq)).2
      rw [hread]
      rfl
    · rename_i hnot
      exact absurd hcolon (hnot cs)

theorem isPlain_of_mem_fragments (layout : MemberLayout) :
    ∀ f ∈ layout.fragments, f.isPlain = true := by
  intro f hf
  cases layout with
  | array sizes =>
    obtain ⟨size, -, hf⟩ := List.mem_flatMap.1 hf
    cases size <;> simp only [ArraySize.fragments, List.mem_cons, List.not_mem_nil, or_false] at hf
      <;> rcases hf with rfl | rfl | rfl <;> rfl
  | bitField width =>
    simp only [fragments, List.mem_cons, List.not_mem_nil, or_false] at hf
    rcases hf with rfl | rfl <;> rfl

theorem writes_allText_fragments (hsound : layout.Sound) :
    Writes layout.tokens (allText layout.fragments).toList := by
  cases layout with
  | array sizes => exact ArraySize.writes_allText_flatMap_fragments hsound
  | bitField width =>
    have hwidth := writes_word (isWord_decimal width.toNat)
    have hcolon : (allText (bitField width).fragments).toList =
        ':' :: (Text.decimal width.toNat).toList := by
      simp [fragments, Fragment.text?, allText]
    rw [hcolon]
    exact .punct (by decide) (by decide) (by decide) hwidth

end MemberLayout

/-! ### Members -/

/-- A member as it is written. -/
structure WrittenMember where
  /-- The words before the type. -/
  lead : List String
  type : String
  /-- What stands between the type and the name. -/
  tail : List Qualifier
  name : String
  layout : MemberLayout
  deriving DecidableEq

namespace WrittenMember

variable {m : WrittenMember}

/-- What is written as a word is one, and constants are named by words that are no
numbers. -/
structure Sound (m : WrittenMember) : Prop where
  isWord_lead : ∀ w ∈ m.lead, IsWord w
  isWord_type : IsWord m.type
  isWord_name : IsWord m.name
  layout : m.layout.Sound

instance (m : WrittenMember) : Decidable m.Sound :=
  decidable_of_iff ((∀ w ∈ m.lead, IsWord w) ∧ IsWord m.type ∧ IsWord m.name ∧ m.layout.Sound)
    ⟨fun ⟨hlead, htype, hname, hlayout⟩ => ⟨hlead, htype, hname, hlayout⟩,
      fun ⟨hlead, htype, hname, hlayout⟩ => ⟨hlead, htype, hname, hlayout⟩⟩

def typeAtoms (m : WrittenMember) : List Atom :=
  m.lead.map Atom.word ++ .word m.type :: m.tail.map Qualifier.atom

def typeText (m : WrittenMember) : String := String.ofList (render m.typeAtoms)

def leadTokens (m : WrittenMember) : List Token := m.lead.map fun w => .atom (.word w)

def tailTokens (m : WrittenMember) : List Token := m.tail.map Qualifier.token

/-- The fragments write the member: its type and its name are tagged, and the text before,
between and behind them writes the tokens that belong there, whatever pieces it is in and
wherever comments stand. -/
inductive WrittenAs (m : WrittenMember) : List Fragment → Prop
  | intro {before between after : List Fragment} {type name : String}
      (hbefore : ∀ f ∈ before, f.isPlain = true)
      (hlead : Writes m.leadTokens (allText before).toList)
      (htype : Text.trimmed type = m.type)
      (hbetween : ∀ f ∈ between, f.isPlain = true)
      (htail : Writes m.tailTokens (allText between).toList)
      (hname : Text.trimmed name = m.name)
      (hafter : ∀ f ∈ after, f.isPlain = true)
      (hlayout : Writes m.layout.tokens (allText after).toList) :
      WrittenAs m (before ++ .type type :: (between ++ .name name :: after))

/-! ### The type of a member -/

theorem filterMap_atom?_tokens (m : WrittenMember) :
    (m.leadTokens ++ ([Token.atom (.word m.type)] ++ m.tailTokens)).filterMap Token.atom? =
      m.typeAtoms := by
  have hatoms : m.leadTokens ++ ([Token.atom (.word m.type)] ++ m.tailTokens) =
      m.typeAtoms.map Token.atom := by
    rw [typeAtoms, List.map_append, List.map_cons, List.map_map, List.map_map]
    rfl
  rw [hatoms, filterMap_atom?_map_atom]

theorem isCanonical_typeText (hm : m.Sound) : IsCanonical m.typeText := by
  refine isCanonical_render fun w hw => ?_
  rcases List.mem_append.1 hw with hw | hw
  · obtain ⟨v, hv, heq⟩ := List.mem_map.1 hw
    exact Atom.word.inj heq ▸ hm.isWord_lead v hv
  · rcases List.mem_cons.1 hw with heq | hw
    · exact Atom.word.inj heq ▸ hm.isWord_type
    · exact Qualifier.isWord_of_mem_map_atom hw

/-- The type is put together from the texts around its tag. -/
theorem typeText?_of_writes {d : Declaration} (hm : m.Sound)
    (hlead : Writes m.leadTokens d.lead.toList) (hbase : d.base = some m.type)
    (htail : Writes m.tailTokens d.tail.toList) : d.typeText? = some m.typeText := by
  have hassembled := assemble_of_writes hlead (writes_word hm.isWord_type) htail
  rw [Declaration.typeText?, hbase, Option.map_some, hassembled, filterMap_atom?_tokens, typeText]

/-! ### Writing and reading members -/

/-- The member as it is usually written. -/
def fragments (m : WrittenMember) : List Fragment :=
  Declaration.fragments m.leadTokens m.type m.tailTokens m.name ++ m.layout.fragments

/-- A member is written by its fragments. -/
theorem writtenAs_fragments (hm : m.Sound) : m.WrittenAs m.fragments := by
  have hlead : ∀ t ∈ m.leadTokens, t.Writable := by
    intro t ht
    obtain ⟨w, hw, rfl⟩ := List.mem_map.1 ht
    exact hm.isWord_lead w hw
  have htail : ∀ t ∈ m.tailTokens, t.Writable := Prototype.writable_of_mem_map_token
  exact .intro (by simp [Fragment.isPlain]) (Declaration.writes_allText_spaced hlead)
    hm.isWord_type.trimmed_eq (by simp [Fragment.isPlain])
    (Declaration.writes_allText_spaced htail) hm.isWord_name.trimmed_eq
    m.layout.isPlain_of_mem_fragments (MemberLayout.writes_allText_fragments hm.layout)

theorem WrittenAs.ofFragments {content : List Fragment} (h : m.WrittenAs content) :
    Writes m.leadTokens (Declaration.ofFragments content).lead.toList ∧
      (Declaration.ofFragments content).base = some m.type ∧
      Writes m.tailTokens (Declaration.ofFragments content).tail.toList ∧
      (Declaration.ofFragments content).name = some m.name ∧
      Writes m.layout.tokens (Declaration.ofFragments content).suffix.toList := by
  obtain ⟨hbefore, hlead, htype, hbetween, htail, hname, -, hlayout⟩ := h
  rw [Declaration.ofFragments_eq hbefore fun f hf => Fragment.name?_of_isPlain (hbetween f hf)]
  exact ⟨hlead, congrArg some htype, htail, congrArg some hname, hlayout⟩

/-- **Members are read as they are written.** However a member is written, with any blanks
between its tokens and any comments, it is read with its canonical type, its name, its
dimensions in order and the width of its bit field. Every member can be written. -/
theorem ofElement_of_writtenAs (hm : m.Sound) : m.WrittenAs m.fragments ∧
    ∀ owner e, m.WrittenAs e.content → ∃ member, Member.ofElement owner e = .ok member ∧
      member.type = m.typeText ∧ IsCanonical member.type ∧ member.name = m.name ∧
      member.arraySizes = m.layout.sizes ∧ member.bitFieldWidth = m.layout.width? := by
  refine ⟨writtenAs_fragments hm, fun owner e h => ?_⟩
  obtain ⟨hlead, hbase, htail, hname, hlayout⟩ := h.ofFragments
  have hnamed : (Declaration.ofFragments e.content).requireName owner = .ok m.name := by
    rw [Declaration.requireName, hname]
  have htyped : (Declaration.ofFragments e.content).requireType (owner ++ "::" ++ m.name) =
      .ok m.typeText := by
    rw [Declaration.requireType, typeText?_of_writes hm hlead hbase htail]
  have hread : readLayout (Text.trimmed (Declaration.ofFragments e.content).suffix) =
      .ok (m.layout.sizes, m.layout.width?) := MemberLayout.readLayout_of_writes hm.layout hlayout
  refine ⟨_, bind_eq_ok_iff.2 ⟨_, hnamed, bind_eq_ok_iff.2 ⟨_, htyped, bind_eq_ok_iff.2
    ⟨_, hread, rfl⟩⟩⟩, rfl, isCanonical_typeText hm, rfl, rfl, rfl⟩

def handles : WrittenMember where
  lead := ["const", "struct"]
  type := "VkHandle"
  tail := [.star, .const, .star]
  name := "ppHandles"
  layout := .array [.literal 4, .constant "VK_MAX"]

def commentedHandles : MemberElement where
  content := [.text "\n const", .comment "all", .text " struct"] ++ .type " VkHandle" ::
    ([.text "* ", .comment "of", .text "const*"] ++ .name "ppHandles " ::
      [.text " [4 ]", .comment "them", .text "\t[ ", .enum "VK_MAX", .text "]"])

def mask : WrittenMember where
  lead := []
  type := "uint32_t"
  tail := []
  name := "mask"
  layout := .bitField 24

/-- A member with comments is read, and so is a bit field. -/
theorem ofElement_commentedHandles :
    handles.Sound ∧ handles.WrittenAs commentedHandles.content ∧
      (∃ member, Member.ofElement "S" commentedHandles = .ok member ∧
        member.type = "const struct VkHandle* const*" ∧ IsCanonical member.type ∧
        member.name = "ppHandles" ∧ member.arraySizes = [.literal 4, .constant "VK_MAX"] ∧
        member.bitFieldWidth = none) ∧
    mask.Sound ∧ ∃ member, Member.ofElement "S" { content := mask.fragments } = .ok member ∧
      member.type = "uint32_t" ∧ IsCanonical member.type ∧ member.name = "mask" ∧
      member.arraySizes = [] ∧ member.bitFieldWidth = some 24 := by
  have hhandles : handles.Sound := by decide
  have hmask : mask.Sound := by decide
  have hwritten : handles.WrittenAs commentedHandles.content :=
    .intro (by decide) (writes_iff.2 (by decide)) (by decide) (by decide)
      (writes_iff.2 (by decide)) (by decide) (by decide) (writes_iff.2 (by decide +kernel))
  obtain ⟨-, hread⟩ := ofElement_of_writtenAs hhandles
  obtain ⟨hmasked, hread'⟩ := ofElement_of_writtenAs hmask
  exact ⟨hhandles, hwritten, hread "S" commentedHandles hwritten, hmask,
    hread' "S" { content := mask.fragments } hmasked⟩

end WrittenMember
end VulkanFoundry
