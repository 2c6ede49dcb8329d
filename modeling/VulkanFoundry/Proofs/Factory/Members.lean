/-
# The struct behind a member

A member may be stored by way of the factory of a struct: as the factory itself,
in an array or a vector of factories, or in a vector of such vectors. Such a member
refers to that struct in the sense of dependencies. Both sides read the same type
text, the storage as one word with stars behind it and the dependencies as all
words, and neither counts `const` and `struct`. They could differ only over a type
that is named by a star.

Key theorems: `Registry.struct?_of_storedShape?`, `plainName_of_shape`,
`referredStruct?_of_storeMember`.
-/
import VulkanFoundry.Selection.Dependency
import VulkanFoundry.Storage.Mapping

namespace VulkanFoundry

/-- Values of the class are factories, or hold factories. -/
def StorageClass.NamesFactory : StorageClass → Prop
  | nestedFactory | factoryVector | nestedVector true | staticArray true => True
  | _ => False

/-- Values of the class hold factories in place. -/
def StorageClass.HoldsFactory : StorageClass → Prop
  | nestedFactory | staticArray true => True
  | _ => False

instance : DecidablePred StorageClass.HoldsFactory := fun k => by
  unfold StorageClass.HoldsFactory
  split <;> infer_instance

theorem StorageClass.HoldsFactory.namesFactory {k : StorageClass} (h : k.HoldsFactory) :
    k.NamesFactory := by
  unfold HoldsFactory at h
  split at h
  · trivial
  · trivial
  · exact h.elim

variable {r : Registry}

/-! ### The struct behind a member -/

namespace Registry

/-- Only structs are classified as factories. -/
theorem eq_nestedFactory_of_classify? {name : String} {k : StorageClass}
    (h : r.classify? name = some k) (hk : k.NamesFactory) : k = .nestedFactory := by
  unfold classify? at h
  split at h <;> first
    | exact (Option.some.inj h).symm
    | cases h
  all_goals first
    | exact hk.elim
    | (split at hk <;> exact hk.elim)

theorem struct?_of_storedValue? {name : String} {t : StoredType}
    (h : r.storedValue? name = some t) (ht : t.storage.NamesFactory) :
    ∃ s, r.struct? name = some s ∧ t.base = s.name := by
  unfold storedValue? at h
  split at h
  · cases h
  split at h
  · cases h
  · obtain ⟨s, hs, rfl⟩ := Option.map_eq_some_iff.1 h
    exact ⟨s, hs, rfl⟩
  · rename_i storage hne hclass
    obtain rfl := Option.some.inj h
    exact absurd (eq_nestedFactory_of_classify? hclass ht) hne

theorem struct?_of_storedPointer? {name : String} {t : StoredType}
    (h : r.storedPointer? name = some t) (ht : t.storage.NamesFactory) :
    ∃ s, r.struct? name = some s ∧ t.base = s.name := by
  unfold storedPointer? at h
  split at h
  · obtain rfl := Option.some.inj h
    exact ht.elim
  split at h
  · obtain rfl := Option.some.inj h
    exact ht.elim
  split at h
  · cases h
  · obtain ⟨s, hs, rfl⟩ := Option.map_eq_some_iff.1 h
    exact ⟨s, hs, rfl⟩
  · obtain rfl := Option.some.inj h
    exact ht.elim
  · obtain rfl := Option.some.inj h
    exact ht.elim

theorem struct?_of_storedDoublePointer? {name : String} {t : StoredType}
    (h : r.storedDoublePointer? name = some t) (ht : t.storage.NamesFactory) :
    ∃ s, r.struct? name = some s ∧ t.base = s.name := by
  unfold storedDoublePointer? at h
  split at h
  · obtain rfl := Option.some.inj h
    exact ht.elim
  split at h
  · obtain rfl := Option.some.inj h
    exact ht.elim
  split at h
  · cases h
  · obtain ⟨s, hs, rfl⟩ := Option.map_eq_some_iff.1 h
    exact ⟨s, hs, rfl⟩
  · obtain rfl := Option.some.inj h
    exact ht.elim
  · obtain rfl := Option.some.inj h
    exact ht.elim

/-- What is stored by way of a factory is a struct, values of it, or pointers to
it. -/
theorem struct?_of_storedShape? {shape : TypeShape} {t : StoredType}
    (h : r.storedShape? shape = some t) (ht : t.storage.NamesFactory) :
    ∃ s, r.struct? shape.base = some s ∧ t.base = s.name := by
  unfold storedShape? at h
  split at h
  · exact struct?_of_storedValue? h ht
  · exact struct?_of_storedPointer? h ht
  · exact struct?_of_storedDoublePointer? h ht
  · cases h

end Registry

theorem StoredType.namesFactory_of_withSizes? {t u : StoredType} {sizes : List ArraySize}
    (h : t.withSizes? sizes = some u) (hu : u.storage.NamesFactory) :
    t.storage.NamesFactory ∧ u.base = t.base := by
  unfold withSizes? at h
  split at h
  · obtain rfl := Option.some.inj h
    exact ⟨hu, rfl⟩
  · obtain ⟨factories, hf, rfl⟩ := Option.map_eq_some_iff.1 h
    refine ⟨?_, rfl⟩
    cases factories with
    | false => exact hu.elim
    | true =>
      have hk : t.storage = .nestedFactory := by
        unfold StorageClass.asElement? at hf
        split at hf
        · assumption
        all_goals cases hf
      rw [hk]
      trivial

def Atom.word? : Atom → Option String
  | .word w => some w
  | .star => none

theorem nameWords_eq (cs : List Char) : TypeText.nameWords cs =
    ((TypeText.atoms cs).filter fun a => !a.isQualifier).filterMap Atom.word? := by
  rw [TypeText.nameWords, List.filterMap_filter]
  congr 1
  funext a
  cases a with
  | star => rfl
  | word w =>
    by_cases hw : w = "const" ∨ w = "struct"
    · rcases hw with rfl | rfl
      · rfl
      · rfl
    · have hq : (Atom.word w).isQualifier = false := by
        simpa [Atom.isQualifier] using hw
      rw [hq]
      exact if_neg hw

theorem plainName_of_shape {type : String} {shape : TypeShape}
    (h : TypeShape.ofAtoms? (TypeText.atoms type.toList) = some shape) (hstar : shape.base ≠ "*") :
    TypeText.plainName type = shape.base := by
  unfold TypeShape.ofAtoms? at h
  split at h
  · cases h
  · rename_i base stars hatoms
    split at h
    · rename_i hstars
      obtain rfl := Option.some.inj h
      cases base with
      | star => exact absurd rfl hstar
      | word w =>
        have hrest : stars.filterMap Atom.word? = [] := by
          refine List.filterMap_eq_nil_iff.2 fun a ha => ?_
          rw [of_decide_eq_true (List.all_eq_true.1 hstars a ha)]
          rfl
        have hword : (Atom.word w).word? = some w := rfl
        rw [TypeText.plainName, nameWords_eq, hatoms, List.filterMap_cons_some hword, hrest]
        show String.ofList w.toList = w
        exact String.ofList_toList
    · cases h

/-- A member that is stored by way of a factory refers to the struct of that
factory. -/
theorem referredStruct?_of_storeMember (hstar : r.get? "*" = none) {owner : String} {m : Member}
    {t : StoredType} (h : r.storeMember owner m = .ok t) (ht : t.storage.NamesFactory) :
    r.referredStruct? m = some t.base := by
  unfold Registry.storeMember Registry.storeAs at h
  split at h
  · rename_i u hu
    obtain rfl := Except.ok.inj h
    unfold Registry.storedType? at hu
    split at hu
    · obtain rfl := Option.some.inj hu
      exact ht.elim
    · rename_i hname
      obtain ⟨v, hv, hsizes⟩ := Option.bind_eq_some_iff.1 hu
      obtain ⟨shape, hshape, hstored⟩ := Option.bind_eq_some_iff.1 hv
      obtain ⟨htv, hbase⟩ := StoredType.namesFactory_of_withSizes? hsizes ht
      obtain ⟨s, hs, hsn⟩ := Registry.struct?_of_storedShape? hstored htv
      have hword : shape.base ≠ "*" := by
        intro he
        obtain ⟨x, hx, -⟩ := Option.bind_eq_some_iff.1 (he ▸ hs)
        have hnone : r.resolve? "*" = none := by
          rw [Registry.resolve?, ← Registry.get?, hstar]
        rw [hnone] at hx
        cases hx
      rw [Registry.referredStruct?, if_neg hname, plainName_of_shape hshape hword, hs, hbase, hsn]
      rfl
  · cases h

end VulkanFoundry
