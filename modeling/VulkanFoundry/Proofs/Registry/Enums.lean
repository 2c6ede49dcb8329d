/-
# The names of an enum

In an enum each name stands for one thing: the names of the fields differ, none of
them is the name of an alias, and the aliases stand under their own names. A block of
fields gives such an enum, since a field or an alias is only added where it fits, and
contributions keep it so. The fields of a block are the enum's own and contributions
add theirs at the end, so in a loaded registry the enum's own fields come first.

Key theorems: `EnumType.Sound.withEntries`, `Document.DeclaresType.sound`,
`Registry.sound_of_ofDocument`.
-/
import VulkanFoundry.Proofs.Contribution.Merging
import VulkanFoundry.Proofs.Registry.Sections

namespace VulkanFoundry

/-- Each name of the enum stands for one thing. -/
structure EnumType.Sound (e : EnumType) : Prop where
  nodup : (e.fields.map EnumField.name).Nodup
  disjoint : ∀ f ∈ e.fields, e.aliases.get? f.name = none
  keyed : e.aliases.Each fun name a => a.name = name

/-- The enum's own fields come before those that were added. -/
def EnumType.OwnFirst (e : EnumType) : Prop :=
  ∃ own added, e.fields = own ++ added ∧ (∀ f ∈ own, f.added = false) ∧
    ∀ f ∈ added, f.added = true

variable {r : Registry} {e e' : EnumType} {x : Entry} {xs : List Entry} {key : String}

namespace EnumType

/-! ### Names -/

theorem Sound.withField {f : EnumField} (h : e.Sound) (hf : e.AcceptsField f) :
    (e.withField f).Sound := by
  have hfields := fields_withField e f
  refine ⟨?_, ?_, ?_⟩
  · rw [hfields]
    split
    · exact h.nodup
    · rename_i hnew
      rw [List.map_append, List.nodup_append]
      refine ⟨h.nodup, List.pairwise_singleton _ _, fun a ha b hb => ?_⟩
      obtain rfl := List.mem_singleton.1 hb
      exact fun heq => hnew (heq ▸ ha)
  · intro g hg
    rw [aliases_withField]
    rw [hfields] at hg
    split at hg
    · exact h.disjoint g hg
    · rcases List.mem_append.1 hg with hg | hg
      · exact h.disjoint g hg
      · obtain rfl := List.mem_singleton.1 hg
        exact hf.1
  · rw [aliases_withField]
    exact h.keyed

theorem Sound.withAlias {a : EnumFieldAlias} (h : e.Sound) (ha : e.AcceptsAlias a) :
    (e.withAlias a).Sound := by
  have hfields : (e.withAlias a).fields = e.fields := fields_withAlias e a
  refine ⟨?_, ?_, ?_⟩
  · rw [hfields]
    exact h.nodup
  · intro f hf
    rw [hfields] at hf
    have hname : a.name ≠ f.name := by
      intro heq
      have hnone : f.name ∉ e.fields.map EnumField.name := by
        rw [← isSome_field?_iff, ← heq, ha.1]
        simp
      exact hnone (List.mem_map_of_mem hf)
    rw [get?_aliases_withAlias, h.disjoint f hf]
    simp [hname]
  · intro name b hb
    rw [get?_aliases_withAlias, Option.or_eq_some_iff] at hb
    rcases hb with hb | ⟨-, hb⟩
    · exact h.keyed name b hb
    · obtain ⟨rfl, rfl⟩ := Option.ite_some_none_eq_some.1 hb
      rfl

theorem Sound.field?_eq_none {name : String} {a : EnumFieldAlias} (h : e.Sound)
    (ha : e.aliases.get? name = some a) : e.field? name = none := by
  cases hf : e.field? name with
  | none => rfl
  | some f =>
    have hname : f.name = name := by simpa using List.find?_some hf
    have hnone := h.disjoint f (List.mem_of_find?_eq_some hf)
    rw [hname, ha] at hnone
    cases hnone

theorem Sound.withEntry (h : e.Sound) (hx : x.FitsIn r)
    (he : r.types.get? key = some (.enum e)) : (e.withEntry key x).Sound := by
  cases x with
  | constant name value => exact h
  | field k f =>
    simp only [EnumType.withEntry]
    split
    · rename_i hk
      subst hk
      exact h.withField (hx.acceptsField he)
    · exact h
  | fieldAlias k a =>
    simp only [EnumType.withEntry]
    split
    · rename_i hk
      subst hk
      exact h.withAlias (hx.acceptsAlias he)
    · exact h

/-- **Entries that are taken keep the names of an enum apart.** -/
theorem Sound.withEntries : ∀ {xs : List Entry} {r : Registry} {e : EnumType}, e.Sound →
    r.Takes xs → r.types.get? key = some (.enum e) → (e.withEntries key xs).Sound
  | [], _, _, h, _, _ => h
  | x :: xs, r, e, h, htakes, he => by
    obtain ⟨hx, hrest⟩ := Registry.takes_cons_iff.1 htakes
    exact (h.withEntry hx he).withEntries hrest (Registry.get?_withEntry_of_enum he x)

/-! ### Blocks of fields -/

theorem sound_of_no_fields {name : String} {bitmask bit64 : Bool} :
    Sound { name, fields := [], aliases := ∅, bitmask, bit64 } :=
  ⟨List.nodup_nil, fun _ h => absurd h List.not_mem_nil, NameMap.Each.empty⟩

theorem addElement_eq_ok {el : EnumElement} (h : e.addElement el = .ok e') :
    (∃ f : EnumField, f.added = false ∧ e.AcceptsField f ∧ e' = e.withField f) ∨
      ∃ a, e.AcceptsAlias a ∧ e' = e.withAlias a := by
  obtain ⟨name, -, h⟩ := bind_eq_ok_iff.1 h
  split at h
  · cases h
  · split at h
    · exact .inr ⟨_, addAlias_eq_ok_iff.1 h⟩
    · obtain ⟨v, -, h⟩ := bind_eq_ok_iff.1 h
      exact .inl ⟨_, rfl, addField_eq_ok_iff.1 h⟩

/-- A block gives an enum whose fields are all its own. -/
theorem sound_of_ofBlock {name : String} {b : EnumBlock} (h : ofBlock name b = .ok e) :
    e.Sound ∧ ∀ f ∈ e.fields, f.added = false := by
  obtain ⟨bitmask, -, h⟩ := bind_eq_ok_iff.1 h
  obtain ⟨bit64, -, h⟩ := bind_eq_ok_iff.1 h
  refine foldlM_preserves (motive := fun e => e.Sound ∧ ∀ f ∈ e.fields, f.added = false)
    (fun e el e' _ hinv hstep => ?_)
    ⟨sound_of_no_fields, fun _ h => absurd h List.not_mem_nil⟩ h
  obtain ⟨hsound, hown⟩ := hinv
  rcases addElement_eq_ok hstep with ⟨f, hf, haccepts, rfl⟩ | ⟨a, haccepts, rfl⟩
  · refine ⟨hsound.withField haccepts, fun g hg => ?_⟩
    rw [fields_withField] at hg
    split at hg
    · exact hown g hg
    · rcases List.mem_append.1 hg with hg | hg
      · exact hown g hg
      · rw [List.mem_singleton.1 hg]
        exact hf
  · refine ⟨hsound.withAlias haccepts, fun g hg => ?_⟩
    rw [fields_withAlias] at hg
    exact hown g hg

end EnumType

/-! ### The enums of a document -/

/-- An element of the types section declares no enum, but at most the name of one. -/
theorem Declared.ne_enum_of_ofElement {el : TypeElement} {t : RegistryType}
    (h : Declared.ofElement el = .ok (.type t)) : t ≠ .enum e := by
  rintro rfl
  cases Declared.gives_of_ofElement h with
  | aliased halias => cases halias

theorem Document.DeclaresType.sound {doc : Document} (h : doc.DeclaresType (.enum e)) :
    e.Sound ∧ ∀ f ∈ e.fields, f.added = false := by
  generalize ht : RegistryType.enum e = t at h
  cases h with
  | element he hvulkan hel => exact absurd ht.symm (Declared.ne_enum_of_ofElement hel)
  | constant hb he hd => cases ht
  | block hb hname he =>
    obtain rfl := RegistryType.enum.inj ht
    exact EnumType.sound_of_ofBlock he
  | named name =>
    obtain rfl := RegistryType.enum.inj ht
    exact ⟨EnumType.sound_of_no_fields, fun _ h => absurd h List.not_mem_nil⟩

namespace Registry

/-- **The names of every enum of a loaded registry are apart**, and its own fields come
first. -/
theorem sound_of_ofDocument {doc : Document} (h : ofDocument doc = .ok r)
    (he : r.types.get? key = some (.enum e)) : e.Sound ∧ e.OwnFirst := by
  obtain ⟨s, hs, hwith, -⟩ := ofDocument_eq_ok_iff.1 h
  obtain ⟨xs, hxs, htakes, rfl⟩ := foldlM_apply_eq_ok_iff.1 hwith
  obtain ⟨own, hown, rfl⟩ := get?_foldl_withEntry_eq_enum_iff.1 he
  obtain ⟨-, hdeclares⟩ := (declaredBy_of_ofSections hs).types _ _ hown
  obtain ⟨hsound, hfields⟩ := hdeclares.sound
  refine ⟨hsound.withEntries htakes hown, own.fields, _, EnumType.fields_withEntries xs own,
    hfields, fun f hf => ?_⟩
  obtain ⟨hf, -⟩ := newFields_subset hf
  obtain ⟨x, hx, hxf⟩ := List.mem_filterMap.1 hf
  obtain ⟨c, -, hc⟩ := (mem_iff_of_mapM_eq_ok hxs).1 hx
  rw [Entry.field?_eq_some_iff.1 hxf] at hc
  exact Contribution.added_of_field hc

end Registry
end VulkanFoundry
