/-
# Types stand under their own names

The types of a registry are filed under names by many hands: the types section,
the enum blocks, the enums that are only named, and the contributions of
versions and extensions. Each of them files a type under the name that the type
carries, so in every registry that a document gives the two agree. This is what
makes the name of a struct enough to find it again.
-/
import VulkanFoundry.Proofs.Contribution.Merging
import VulkanFoundry.Proofs.Registry.Sections

namespace VulkanFoundry

/-- Every type stands under its own name. -/
def KeyedByName (types : NameMap RegistryType) : Prop :=
  ∀ name t, types.get? name = some t → t.name = name

theorem KeyedByName.of_gains {r r' : Registry} {xs : List Entry} (h : KeyedByName r.types)
    (hg : r.Gains xs r') : KeyedByName r'.types := by
  intro name t' ht'
  cases ht : r.types.get? name with
  | none =>
    rw [hg.constants name ht] at ht'
    obtain ⟨d, hd, rfl⟩ := Option.map_eq_some_iff.1 ht'
    obtain ⟨x, -, hx⟩ := List.exists_of_findSome?_eq_some hd
    rw [(Entry.define?_eq_some_iff.1 hx).2]
    rfl
  | some t =>
    by_cases hne : ∀ e, t ≠ .enum e
    · rw [hg.others name t ht hne] at ht'
      rw [← Option.some.inj ht']
      exact h name t ht
    · obtain ⟨e, rfl⟩ := not_forall_not.1 hne
      obtain ⟨e', he', hgains⟩ := hg.enums name e ht
      rw [he'] at ht'
      have hname : e.name = name := h name _ ht
      rw [← Option.some.inj ht', hgains.rest]
      exact hname

namespace Registry

theorem keyedByName_of_ofDocument {doc : Document} {r : Registry} (h : ofDocument doc = .ok r) :
    KeyedByName r.types := by
  obtain ⟨s, hs, hwith, -⟩ := ofDocument_eq_ok_iff.1 h
  obtain ⟨xs, -, -, rfl⟩ := foldlM_apply_eq_ok_iff.1 hwith
  have hsections : KeyedByName s.types := fun name t ht =>
    ((declaredBy_of_ofSections hs).types name t ht).1
  exact hsections.of_gains (gains_foldl_withEntry xs s)

/-- In a registry that was read, every type stands under its own name. -/
theorem keyedByName_of_load {text : String} {r : Registry} (h : load text = .ok r) :
    KeyedByName r.types := by
  obtain ⟨doc, hdoc⟩ := exists_document_of_load h
  exact keyedByName_of_ofDocument hdoc

/-- A struct found under any name, an alias included, is found under its own. -/
theorem struct?_name {r : Registry} (hr : KeyedByName r.types) {name : String} {s : StructType}
    (h : r.struct? name = some s) : r.struct? s.name = some s := by
  obtain ⟨t, ht, hs⟩ := Option.bind_eq_some_iff.1 h
  cases t with
  | struct u =>
    obtain rfl : u = s := Option.some.inj hs
    have hget : ∃ key, r.types.get? key = some (.struct u) := by
      unfold resolve? at ht
      split at ht
      · cases ht
      · rename_i v hv
        split at ht
        · exact ⟨_, ht⟩
        · exact ⟨name, Option.some.inj ht ▸ hv⟩
    obtain ⟨key, hkey⟩ := hget
    have hname : u.name = key := hr key _ hkey
    rw [struct?, resolve?, hname, hkey]
    rfl
  | _ => cases hs

end Registry
end VulkanFoundry
