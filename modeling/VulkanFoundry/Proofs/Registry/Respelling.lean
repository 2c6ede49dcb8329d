/-
# Structs under their own names

A member may refer to a struct by an alias. A registry is respelled when some such
members, any of those of structs and unions, are written with the struct's own name
instead. Nothing that is looked up by name changes: a name denotes a type of the same
kind, a struct of the same name. So each member is stored as before and refers to the
same struct, and a struct has the same dependencies.

Key theorems: `Registry.Respelled.storedType?_eq`,
`Registry.RespelledMember.storedType?_eq`, `Registry.Respelled.dependencies_eq`.
-/
import VulkanFoundry.Proofs.Success
import VulkanFoundry.Proofs.Text.Renaming
import VulkanFoundry.Selection.Dependency

namespace VulkanFoundry

namespace Registry

/-- The first name is an alias of the struct that has the second one. -/
structure IsStructAlias (r : Registry) (other name : String) : Prop where
  declared : r.types.get? other = some (.structAlias ⟨other, name⟩)
  canonical : ∃ s, r.types.get? name = some (.struct s)
  free : TypeText.IsFreeName other
  canonicalFree : TypeText.IsFreeName name

/-- The members are the same, or the type of the one has the alias of a struct where
that of the other has the struct's own name. -/
inductive RespelledMember (r : Registry) : Member → Member → Prop where
  | same (m : Member) : r.RespelledMember m m
  | renamed {m : Member} {other name : String} (h : r.IsStructAlias other name)
      (hm : TypeText.plainName m.type = other) :
      r.RespelledMember m { m with type := TypeText.replaceWord other name m.type }

/-- The structs are the same but for respelled members. -/
def RespelledStruct (r : Registry) (s s' : StructType) : Prop :=
  ∃ members, List.Forall₂ r.RespelledMember s.members members ∧ s' = { s with members }

/-- The types are the same but for respelled members. -/
inductive RespelledType (r : Registry) : RegistryType → RegistryType → Prop where
  | same (t : RegistryType) : r.RespelledType t t
  | struct {s s' : StructType} (h : r.RespelledStruct s s') :
      r.RespelledType (.struct s) (.struct s')
  | union {u : UnionType} {members : List Member}
      (h : List.Forall₂ r.RespelledMember u.members members) :
      r.RespelledType (.union u) (.union { u with members })

/-- The second registry is the first one with some aliases of structs in the types of
members replaced by the names of the structs. -/
structure Respelled (r r' : Registry) : Prop where
  types : List.Forall₂ (fun e e' => e'.1 = e.1 ∧ r.RespelledType e.2 e'.2)
    r.types.entries r'.types.entries
  others : r' = { r with types := r'.types }

variable {r r' : Registry} {name other : String}

theorem RespelledStruct.refl (s : StructType) : r.RespelledStruct s s :=
  ⟨s.members, List.forall₂_same.2 fun m _ => .same m, rfl⟩

theorem RespelledType.target?_eq {t t' : RegistryType} (h : r.RespelledType t t') :
    t'.target? = t.target? := by
  cases h <;> rfl

theorem RespelledType.struct? {t t' : RegistryType} (h : r.RespelledType t t') :
    Option.Rel r.RespelledStruct t.struct? t'.struct? := by
  cases h with
  | same t =>
    cases t.struct? with
    | none => exact .none
    | some s => exact .some (RespelledStruct.refl s)
  | struct h => exact .some h
  | union => exact .none

theorem RespelledType.handle?_eq {t t' : RegistryType} (h : r.RespelledType t t') :
    t'.handle? = t.handle? := by
  cases h <;> rfl

/-! ### What names denote -/

theorem rel_lookup (name : String) {l l' : List (String × RegistryType)}
    (h : List.Forall₂ (fun e e' => e'.1 = e.1 ∧ r.RespelledType e.2 e'.2) l l') :
    Option.Rel r.RespelledType (NameMap.lookup name l) (NameMap.lookup name l') := by
  induction h with
  | nil => exact .none
  | @cons e e' l l' he _ ih =>
    obtain ⟨hname, ht⟩ := he
    rw [NameMap.lookup, NameMap.lookup, hname]
    by_cases hn : e.1 = name
    · rw [if_pos hn, if_pos hn]
      exact .some ht
    · rw [if_neg hn, if_neg hn]
      exact ih

namespace Respelled

variable (h : r.Respelled r')

include h

theorem get? (name : String) :
    Option.Rel r.RespelledType (r.types.get? name) (r'.types.get? name) :=
  rel_lookup name h.types

theorem resolve? (name : String) :
    Option.Rel r.RespelledType (r.resolve? name) (r'.resolve? name) := by
  unfold Registry.resolve?
  have hname := h.get? name
  generalize r.types.get? name = x at hname ⊢
  generalize r'.types.get? name = y at hname ⊢
  cases hname with
  | none => exact .none
  | @some t t' ht =>
    dsimp only
    rw [ht.target?_eq]
    cases t.target? with
    | none => exact .some ht
    | some target => exact h.get? target

theorem struct? (name : String) :
    Option.Rel r.RespelledStruct (r.struct? name) (r'.struct? name) := by
  unfold Registry.struct?
  have hname := h.resolve? name
  generalize r.resolve? name = x at hname ⊢
  generalize r'.resolve? name = y at hname ⊢
  cases hname with
  | none => exact .none
  | some ht => exact ht.struct?

theorem map_struct? {α : Type} (name : String) {f : StructType → α}
    (hf : ∀ s members, f { s with members } = f s) :
    (r'.struct? name).map f = (r.struct? name).map f := by
  have hname := h.struct? name
  generalize r.struct? name = x at hname ⊢
  generalize r'.struct? name = y at hname ⊢
  cases hname with
  | none => rfl
  | @some s _ hs =>
    obtain ⟨members, -, rfl⟩ := hs
    exact congrArg some (hf s members)

theorem classify?_eq (name : String) : r'.classify? name = r.classify? name := by
  unfold Registry.classify?
  have hname := h.resolve? name
  generalize r.resolve? name = x at hname ⊢
  generalize r'.resolve? name = y at hname ⊢
  cases hname with
  | none => rfl
  | some ht => cases ht <;> rfl

/-! ### How members are stored -/

theorem storedShape?_eq (shape : TypeShape) : r'.storedShape? shape = r.storedShape? shape := by
  have hstruct : ∀ f : String → StoredType,
      (r'.struct? shape.base).map (fun s => f s.name) =
        (r.struct? shape.base).map fun s => f s.name :=
    fun f => h.map_struct? shape.base fun s members => rfl
  unfold Registry.storedShape?
  split
  · unfold Registry.storedValue?
    rw [h.classify?_eq, hstruct fun n => ⟨Code.factoryName n, .nestedFactory, n⟩]
  · unfold Registry.storedPointer?
    rw [h.classify?_eq,
      hstruct fun n => ⟨"std::vector<" ++ Code.factoryName n ++ ">", .factoryVector, n⟩]
  · unfold Registry.storedDoublePointer?
    rw [h.classify?_eq, hstruct fun n =>
      ⟨"std::vector<std::vector<" ++ Code.factoryName n ++ ">>", .nestedVector true, n⟩]
  · rfl

theorem storedType?_eq (type name : String) (sizes : List ArraySize) :
    r'.storedType? type name sizes = r.storedType? type name sizes := by
  have hshape : r'.storedShape? = r.storedShape? := funext h.storedShape?_eq
  unfold Registry.storedType?
  rw [hshape]

theorem referredStruct?_eq (m : Member) : r'.referredStruct? m = r.referredStruct? m := by
  unfold Registry.referredStruct?
  rw [h.map_struct? (TypeText.plainName m.type) fun s members => rfl]

end Respelled

/-! ### One member under both names -/

namespace IsStructAlias

variable (h : r.IsStructAlias other name)

include h

theorem exists_resolve? :
    ∃ s, r.resolve? other = some (.struct s) ∧ r.resolve? name = some (.struct s) := by
  obtain ⟨s, hs⟩ := h.canonical
  refine ⟨s, ?_, ?_⟩
  · rw [Registry.resolve?, h.declared]
    exact hs
  · rw [Registry.resolve?, hs]
    rfl

theorem struct?_eq : r.struct? name = r.struct? other := by
  obtain ⟨s, hother, hname⟩ := h.exists_resolve?
  rw [Registry.struct?, Registry.struct?, hother, hname]

/-- A struct is stored under its own name, by whichever name it is referred to. -/
theorem storedShape?_eq (pointers : Nat) :
    r.storedShape? ⟨name, pointers⟩ = r.storedShape? ⟨other, pointers⟩ := by
  obtain ⟨s, hother, hname⟩ := h.exists_resolve?
  have hclass : ∀ n, r.resolve? n = some (.struct s) → r.classify? n = some .nestedFactory := by
    intro n hn
    rw [Registry.classify?, hn]
  obtain ⟨hchar, hvoid, -⟩ := h.free.ne
  obtain ⟨hchar', hvoid', -⟩ := h.canonicalFree.ne
  match pointers with
  | 0 =>
    simp only [Registry.storedShape?, Registry.storedValue?, if_neg hvoid, if_neg hvoid',
      hclass _ hother, hclass _ hname, h.struct?_eq]
  | 1 =>
    simp only [Registry.storedShape?, Registry.storedPointer?, if_neg hchar, if_neg hchar',
      if_neg hvoid, if_neg hvoid', hclass _ hother, hclass _ hname, h.struct?_eq]
  | 2 =>
    simp only [Registry.storedShape?, Registry.storedDoublePointer?, if_neg hchar, if_neg hchar',
      if_neg hvoid, if_neg hvoid', hclass _ hother, hclass _ hname, h.struct?_eq]
  | n + 3 => rfl

theorem storedType?_replaceWord (type member : String) (sizes : List ArraySize) :
    r.storedType? (TypeText.replaceWord other name type) member sizes =
      r.storedType? type member sizes := by
  have hshape : (fun s => r.storedShape? { s with base := if s.base = other then name else s.base }) =
      r.storedShape? := by
    funext s
    obtain ⟨base, pointers⟩ := s
    by_cases hb : base = other
    · subst hb
      show r.storedShape? ⟨if base = base then name else base, pointers⟩ = _
      rw [if_pos rfl, h.storedShape?_eq]
    · show r.storedShape? ⟨if base = other then name else base, pointers⟩ = _
      rw [if_neg hb]
  unfold Registry.storedType?
  rw [TypeText.atoms_replaceWord h.free.1 h.canonicalFree.1,
    TypeShape.ofAtoms?_map_replaceWord h.free h.canonicalFree, Option.bind_map,
    Function.comp_def, hshape]

end IsStructAlias

namespace RespelledMember

variable {m m' : Member}

theorem eq_withType (h : r.RespelledMember m m') : m' = { m with type := m'.type } := by
  cases h <;> rfl

theorem storedType?_eq (h : r.RespelledMember m m') :
    r.storedType? m'.type m'.name m'.arraySizes = r.storedType? m.type m.name m.arraySizes := by
  cases h with
  | same => rfl
  | renamed h hm => exact h.storedType?_replaceWord m.type m.name m.arraySizes

theorem referredStruct?_eq (h : r.RespelledMember m m') :
    r.referredStruct? m' = r.referredStruct? m := by
  cases h with
  | same => rfl
  | renamed h hm =>
    have hname := TypeText.plainName_replaceWord h.free h.canonicalFree hm
    unfold Registry.referredStruct?
    rw [hname, hm, h.struct?_eq]

end RespelledMember

/-- **Respelling keeps dependencies.** -/
theorem Respelled.dependencies_eq {s s' : StructType} (h : r.Respelled r')
    (hs : r.RespelledStruct s s') : r'.dependencies s' = r.dependencies s := by
  obtain ⟨members, hmembers, rfl⟩ := hs
  have hreferred : members.filterMap r'.referredStruct? = s.members.filterMap r.referredStruct? := by
    refine (filterMap_eq_of_forall₂ (hmembers.imp fun m m' hm => ?_)).symm
    rw [h.referredStruct?_eq, hm.referredStruct?_eq]
  unfold Registry.dependencies
  rw [hreferred]

end Registry
end VulkanFoundry
