/-
# Dependencies between structs

A struct depends on the structs that its members refer to, by value or through
pointers, under their own names or under aliases. The extension chain pointer
and references of a struct to itself do not count.
-/
import VulkanFoundry.Registry.Basic

namespace VulkanFoundry

namespace Registry

/-- The canonical name of the struct that a member refers to, unless the member
is the extension chain pointer. -/
def referredStruct? (r : Registry) (m : Member) : Option String :=
  if m.name = chainLinkMember then none
  else (r.struct? (TypeText.plainName m.type)).map (·.name)

/-- The canonical names of the structs that a struct depends on, in the order of
its members and each once. -/
def dependencies (r : Registry) (s : StructType) : List String :=
  ((s.members.filterMap r.referredStruct?).filter (· ≠ s.name)).eraseDups

theorem mem_values_of_resolve? {r : Registry} {name : String} {t : RegistryType}
    (h : r.resolve? name = some t) : t ∈ r.types.values := by
  unfold resolve? at h
  split at h
  · simp at h
  · rename_i u hu
    split at h
    · exact List.mem_map_of_mem (NameMap.mem_entries_iff.2 h)
    · simp only [Option.some.injEq] at h
      exact List.mem_map_of_mem (NameMap.mem_entries_iff.2 (h ▸ hu))

theorem mem_structs_of_struct? {r : Registry} {name : String} {s : StructType}
    (h : r.struct? name = some s) : s ∈ r.structs := by
  obtain ⟨t, ht, hs⟩ := Option.bind_eq_some_iff.1 h
  exact List.mem_filterMap.2 ⟨t, mem_values_of_resolve? ht, hs⟩

/-- A name that denotes a struct is declared. -/
theorem mem_names_of_struct? {r : Registry} {name : String} {s : StructType}
    (h : r.struct? name = some s) : name ∈ r.types.names := by
  obtain ⟨t, ht, _⟩ := Option.bind_eq_some_iff.1 h
  unfold resolve? at ht
  split at ht
  · simp at ht
  · rename_i u hu
    exact List.mem_map_of_mem (NameMap.mem_entries_iff.2 hu)

end Registry
end VulkanFoundry
