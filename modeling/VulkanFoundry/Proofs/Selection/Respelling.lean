/-
# Selecting from a respelled registry

Selecting structs and putting them into order looks at structs by name and at their
dependencies. Respelling changes neither, so the same structs are selected under the
same macros, in the same order; and where selecting fails, it fails in the same way.

Both traversals end because names run out, which the registry is asked for. What they
do at a name does not depend on that, and is stated without it.

Key theorems: `Registry.Respelled.closeOver_eq`, `Registry.Respelled.select_eq`,
`Registry.Respelled.sequence_eq`.
-/
import VulkanFoundry.Proofs.Registry.Respelling
import VulkanFoundry.Selection.Order
import VulkanFoundry.Selection.Policy

namespace VulkanFoundry
namespace Registry

variable {r r' : Registry}

/-! ### One step of a traversal -/

section steps

variable {excluded : NameSet} {guard : Option String} {visited rest : List String}
  {name : String} {s s' : Selection} {t : StructType}

theorem closeOver_of_struct?_eq_none (hv : name ∉ visited) (hs : s.visit? guard name = some s')
    (ht : r.struct? name = none) :
    r.closeOver excluded guard visited (name :: rest) s =
      r.closeOver excluded guard visited rest s' := by
  rw [closeOver, dif_neg hv]
  simp only [hs]
  split
  · rfl
  · rename_i t h
    rw [ht] at h
    cases h

theorem closeOver_of_struct?_eq_some (hv : name ∉ visited) (hs : s.visit? guard name = some s')
    (ht : r.struct? name = some t) :
    r.closeOver excluded guard visited (name :: rest) s =
      match (r.dependencies t).find? excluded.contains with
      | some dependency => .error (.excludedDependency t.name dependency)
      | none =>
        r.closeOver excluded guard (name :: visited) ((r.dependencies t).reverse ++ rest) s' := by
  rw [closeOver, dif_neg hv]
  simp only [hs]
  split
  · rename_i h
    rw [ht] at h
    cases h
  · rename_i u h
    obtain rfl : t = u := Option.some.inj (ht.symm.trans h)
    rfl

variable {selected : NameSet} {e : Emission}

theorem emitAll_of_struct?_eq_none (ht : r.struct? name = none) :
    (r.emitAll selected (name :: rest) e).1 = (r.emitAll selected rest e).1 := by
  rw [emitAll]
  split
  · rfl
  · rename_i t h
    rw [ht] at h
    cases h

theorem emitAll_of_entered (ht : r.struct? name = some t) (hin : t.name ∈ e.entered) :
    (r.emitAll selected (name :: rest) e).1 = (r.emitAll selected rest e).1 := by
  rw [emitAll]
  split
  · rfl
  · rename_i u h
    obtain rfl : t = u := Option.some.inj (ht.symm.trans h)
    rw [dif_pos hin]

theorem emitAll_of_not_entered (ht : r.struct? name = some t) (hin : t.name ∉ e.entered) :
    (r.emitAll selected (name :: rest) e).1 =
      (r.emitAll selected rest
        ((r.emitAll selected ((r.dependencies t).filter selected.contains)
          (e.enter t.name)).1.emit t.name)).1 := by
  rw [emitAll]
  split
  · rename_i h
    rw [ht] at h
    cases h
  · rename_i u h
    obtain rfl : t = u := Option.some.inj (ht.symm.trans h)
    rw [dif_neg hin]

end steps

/-! ### The traversals -/

namespace Respelled

variable (h : r.Respelled r')

include h

theorem struct?_eq_none {name : String} (hs : r.struct? name = none) : r'.struct? name = none := by
  have hname := h.struct? name
  rw [hs] at hname
  generalize r'.struct? name = y at hname ⊢
  cases hname
  rfl

theorem exists_struct? {name : String} {s : StructType} (hs : r.struct? name = some s) :
    ∃ s', r'.struct? name = some s' ∧ s'.name = s.name ∧ r'.dependencies s' = r.dependencies s := by
  have hname := h.struct? name
  rw [hs] at hname
  generalize r'.struct? name = y at hname ⊢
  cases hname with
  | some hrel =>
    refine ⟨_, rfl, ?_, h.dependencies_eq hrel⟩
    obtain ⟨members, -, rfl⟩ := hrel
    rfl

/-- **Closing is the same.** -/
theorem closeOver_eq {excluded : NameSet} {guard : Option String} (visited pending : List String)
    (s : Selection) : r'.closeOver excluded guard visited pending s =
      r.closeOver excluded guard visited pending s := by
  fun_induction closeOver r excluded guard visited pending s with
  | case1 visited s => rw [closeOver]
  | case2 visited s name rest hin ih => rw [closeOver, dif_pos hin, ih]
  | case3 visited s name rest hin hnone ih =>
    rw [closeOver, dif_neg hin, hnone]
    exact ih
  | case4 visited s name rest hin s₁ hs₁ hstruct ih =>
    rw [closeOver_of_struct?_eq_none hin hs₁ (h.struct?_eq_none hstruct), ih]
  | case5 visited s name rest hin s₁ hs₁ t hstruct _ dependency hfind =>
    obtain ⟨t', ht', hn, hdeps⟩ := h.exists_struct? hstruct
    rw [closeOver_of_struct?_eq_some hin hs₁ ht', hdeps, hfind, hn]
  | case6 visited s name rest hin s₁ hs₁ t hstruct _ hnone ih =>
    obtain ⟨t', ht', hn, hdeps⟩ := h.exists_struct? hstruct
    rw [closeOver_of_struct?_eq_some hin hs₁ ht', hdeps, hnone]
    exact ih

theorem emitAll_eq (selected : NameSet) (names : List String) (e : Emission) :
    (r'.emitAll selected names e).1 = (r.emitAll selected names e).1 := by
  fun_induction emitAll r selected names e with
  | case1 e => rw [emitAll]
  | case2 e name rest hnone ih => rw [emitAll_of_struct?_eq_none (h.struct?_eq_none hnone), ih]
  | case3 e name rest s hs hin ih =>
    obtain ⟨s', hs', hn, -⟩ := h.exists_struct? hs
    rw [emitAll_of_entered hs' (hn ▸ hin), ih]
  | case4 e name rest s hs hin hlt inner hsub outer ih₁ _ ih₂ =>
    obtain ⟨s', hs', hn, hdeps⟩ := h.exists_struct? hs
    rw [emitAll_of_not_entered hs' (hn ▸ hin), hn, hdeps, ih₁, ih₂]

/-- **The order is the same.** -/
theorem sequence_eq (selected : NameSet) : r'.sequence selected = r.sequence selected := by
  rw [sequence, h.emitAll_eq]
  rfl

/-! ### The roots -/

theorem structName_eq (name : String) : r'.structName name = r.structName name := by
  have hstruct : ∀ q : Registry, q.structName name = ((q.struct? name).map (·.name)).getD name := by
    intro q
    unfold structName
    cases q.struct? name <;> rfl
  rw [hstruct, hstruct, h.map_struct? name fun s members => rfl]

theorem requiredStructs_eq (features : List Feature) :
    r'.requiredStructs features = r.requiredStructs features := by
  unfold requiredStructs
  congr 1
  funext f
  rw [h.map_struct? f.name fun s members => rfl]

theorem rootsOf_eq (versions : List CoreVersion) (extensions : List Extension) :
    r'.rootsOf versions extensions = r.rootsOf versions extensions := by
  have hguard : r'.guardOf = r.guardOf := by
    rw [h.others]
    rfl
  unfold rootsOf
  simp only [h.requiredStructs_eq, hguard]

theorem excludedNames_eq (c : Configuration) : r'.excludedNames c = r.excludedNames c := by
  simp only [excludedNames, funext h.structName_eq]

theorem roots_eq (c : Configuration) : r'.roots c = r.roots c := by
  have hversions : r'.configuredVersions = r.configuredVersions := by
    rw [h.others]
    rfl
  have hextensions : r'.includedExtensions = r.includedExtensions := by
    rw [h.others]
    rfl
  simp only [roots, hversions, hextensions, h.excludedNames_eq, h.rootsOf_eq]

/-- **The selection is the same**, and so is the failure to select. -/
theorem select_eq (c : Configuration) : r'.select c = r.select c := by
  simp only [select, h.roots_eq, h.excludedNames_eq, h.closeOver_eq]

end Respelled
end Registry
end VulkanFoundry
