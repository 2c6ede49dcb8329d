/-
# Loaded registries are consistent

What a document is accepted for is what later stages rely on without looking: that
every entity stands under its own name, that every name that is referred to is
declared, that an alias is never an alias of an alias, and that each name of an enum
stands for one thing.

The names are right because everything is declared under the name that it carries,
and the enums because nothing is added to them that does not fit. The references are
right because they were checked, and the check is exact: it succeeds if and only if
all references hold (`Registry.checkReferences_eq_ok_iff`).

Key theorems: `Registry.checkType_eq_ok_iff`, `Registry.keyed_of_ofDocument`,
`Registry.consistent_of_ofDocument`.
-/
import VulkanFoundry.Proofs.Registry.Enums
import VulkanFoundry.Proofs.Registry.Features
import VulkanFoundry.Proofs.Registry.FieldAliases
import VulkanFoundry.Proofs.Registry.Keys

namespace VulkanFoundry

def RegistryType.members : RegistryType → List Member
  | .struct s => s.members
  | .union u => u.members
  | _ => []

/-- The texts of the types that a type refers to. -/
def RegistryType.typeTexts : RegistryType → List String
  | .struct s => s.members.map Member.type
  | .union u => u.members.map Member.type
  | .functionPointer f => f.returnType :: f.arguments.map FunctionArgument.type
  | .bitmask b => b.baseType :: b.fieldEnum.toList
  | .handle h => Attribute.list h.parent
  | _ => []

def Command.typeTexts (c : Command) : List String :=
  c.returnType :: c.params.map CommandParam.type

namespace Registry

/-- The plain name in the text of a type denotes a type. -/
def Names (r : Registry) (type : String) : Prop :=
  ∃ t, r.resolve? (TypeText.plainName type) = some t

def HasFeature (r : Registry) (f : Feature) : Prop :=
  (∃ v ∈ r.coreVersions.values, f ∈ v.features.values) ∨ ∃ x ∈ r.extensions.values, f ∈ x.features

structure Keyed (r : Registry) : Prop where
  platforms : r.platforms.Each fun name p => p.name = name
  includes : r.includes.Each fun name h => h.name = name
  types : r.types.Each fun name t => t.name = name
  commands : r.commands.Each fun name c => c.name = name
  commandAliases : r.commandAliases.Each fun name a => a.name = name
  coreVersions : r.coreVersions.Each fun name v =>
    v.name = name ∧ v.features.Each fun name f => f.name = name
  extensions : r.extensions.Each fun name x =>
    x.name = name ∧ ∀ q ∈ x.requirements, q.features.Each fun name f => f.name = name
  imageFormats : r.imageFormats.Each fun name f => f.name = name
  spirvExtensions : r.spirvExtensions.Each fun name x => x.name = name
  spirvCapabilities : r.spirvCapabilities.Each fun name c => c.name = name

/-- What a type refers to is there: the target of an alias, which is no alias itself,
the types in its declaration, the constants in array sizes, and the fields behind the
targets of an enum's aliases. -/
structure TypeHolds (r : Registry) (t : RegistryType) : Prop where
  target : ∀ target, t.target? = some target →
    ∃ u, r.types.get? target = some u ∧ u.isAlias = false
  types : ∀ type ∈ t.typeTexts, r.Names type
  sizes : ∀ m ∈ t.members, ∀ name, ArraySize.constant name ∈ m.arraySizes →
    ∃ d, r.types.get? name = some (.define d)
  fieldAliases : ∀ e, t = .enum e → e.aliases.Each fun _ a => ∃ f, e.resolveAlias? a.target = some f

def HasCommand (r : Registry) (name : String) : Prop :=
  (∃ c, r.commands.get? name = some c) ∨ ∃ a, r.commandAliases.get? name = some a

/-- All references of the registry hold. -/
structure Resolved (r : Registry) : Prop where
  types : r.types.Each fun _ t => r.TypeHolds t
  commandAliases : r.commandAliases.Each fun _ a => r.HasCommand a.target
  commands : r.commands.Each fun _ c => ∀ type ∈ c.typeTexts, r.Names type
  requiredTypes : ∀ f, r.HasFeature f → f.kind = .type →
    (∃ t, r.types.get? f.name = some t) ∨ ∃ h, r.includes.get? f.name = some h
  requiredCommands : ∀ f, r.HasFeature f → f.kind = .command → r.HasCommand f.name

/-- What holds of every loaded registry. -/
structure Consistent (r : Registry) : Prop where
  keyed : r.Keyed
  resolved : r.Resolved
  resolves : r.types.Each fun name _ => ∃ t, r.resolve? name = some t
  noAlias : ∀ name t, r.resolve? name = some t → t.isAlias = false
  enums : ∀ name e, r.types.get? name = some (.enum e) →
    e.Sound ∧ e.OwnFirst ∧ e.aliases.Each fun other _ => ∃ f, e.resolveAlias? other = some f

variable {doc : Document} {r r' : Registry} {t : RegistryType} {place type name : String}

/-! ### The check is exact -/

theorem expectType_eq_ok_iff : r.expectType place type = .ok () ↔ r.Names type := by
  unfold expectType Names
  cases h : r.resolve? (TypeText.plainName type) <;> simp [h]

theorem checkArraySize_eq_ok_iff {size : ArraySize} :
    r.checkArraySize place size = .ok () ↔
      ∀ name, size = .constant name → ∃ d, r.types.get? name = some (.define d) := by
  cases size with
  | literal n => simp [checkArraySize]
  | constant name =>
    rw [checkArraySize, get?]
    cases h : r.types.get? name with
    | none => simp [h]
    | some t => cases t <;> simp [h]

theorem checkMember_eq_ok_iff {m : Member} :
    r.checkMember place m = .ok () ↔ r.Names m.type ∧
      ∀ name, ArraySize.constant name ∈ m.arraySizes →
        ∃ d, r.types.get? name = some (.define d) := by
  unfold checkMember
  simp only [check_bind_eq_ok_iff, forM_eq_ok_iff, expectType_eq_ok_iff, checkArraySize_eq_ok_iff]
  refine and_congr_right fun _ => ⟨fun h name hname => h _ hname name rfl, ?_⟩
  exact fun h size hsize name heq => h name (heq ▸ hsize)

theorem checkMembers_eq_ok_iff {members : List Member} :
    members.forM (r.checkMember place) = .ok () ↔
      (∀ type ∈ members.map Member.type, r.Names type) ∧
        ∀ m ∈ members, ∀ name, ArraySize.constant name ∈ m.arraySizes →
          ∃ d, r.types.get? name = some (.define d) := by
  simp only [forM_eq_ok_iff, checkMember_eq_ok_iff, List.forall_mem_map, forall_and]

theorem checkAlias_eq_ok_iff {a : Alias} :
    r.checkAlias a = .ok () ↔ ∃ u, r.types.get? a.target = some u ∧ u.isAlias = false := by
  unfold checkAlias get?
  cases h : r.types.get? a.target with
  | none => simp
  | some u => cases hu : u.isAlias <;> simp [hu]

theorem checkFieldAlias_eq_ok_iff {e : EnumType} {a : EnumFieldAlias} :
    checkFieldAlias e a = .ok () ↔ ∃ f, e.resolveAlias? a.target = some f := by
  unfold checkFieldAlias
  cases h : e.resolveAlias? a.target <;> simp

theorem typeHolds_iff : r.TypeHolds t ↔
    (∀ target, t.target? = some target → ∃ u, r.types.get? target = some u ∧ u.isAlias = false) ∧
    (∀ type ∈ t.typeTexts, r.Names type) ∧
    (∀ m ∈ t.members, ∀ name, ArraySize.constant name ∈ m.arraySizes →
      ∃ d, r.types.get? name = some (.define d)) ∧
    ∀ e, t = .enum e → e.aliases.Each fun _ a => ∃ f, e.resolveAlias? a.target = some f :=
  ⟨fun ⟨target, types, sizes, fieldAliases⟩ => ⟨target, types, sizes, fieldAliases⟩,
    fun ⟨target, types, sizes, fieldAliases⟩ => ⟨target, types, sizes, fieldAliases⟩⟩

/-- The check of a type succeeds if and only if what it refers to is there. -/
theorem checkType_eq_ok_iff : r.checkType t = .ok () ↔ r.TypeHolds t := by
  rw [typeHolds_iff]
  cases t with
  | handleAlias a | structAlias a | enumAlias a | bitmaskAlias a =>
    simp [checkType, checkAlias_eq_ok_iff, RegistryType.target?, RegistryType.typeTexts,
      RegistryType.members]
  | struct s | union s =>
    simp only [checkType, checkMembers_eq_ok_iff]
    simp [RegistryType.target?, RegistryType.typeTexts, RegistryType.members]
  | functionPointer f =>
    simp only [checkType, check_bind_eq_ok_iff, forM_eq_ok_iff, expectType_eq_ok_iff]
    simp [RegistryType.target?, RegistryType.typeTexts, RegistryType.members]
  | bitmask b =>
    simp only [checkType, check_bind_eq_ok_iff, forM_eq_ok_iff, expectType_eq_ok_iff]
    simp [RegistryType.target?, RegistryType.typeTexts, RegistryType.members]
  | enum e =>
    simp only [checkType, forM_eq_ok_iff, checkFieldAlias_eq_ok_iff, NameMap.forall_mem_values_iff]
    simp [RegistryType.target?, RegistryType.typeTexts, RegistryType.members]
  | handle h =>
    simp only [checkType, forM_eq_ok_iff, expectType_eq_ok_iff]
    simp [RegistryType.target?, RegistryType.typeTexts, RegistryType.members]
  | define d | base b | external x =>
    simp [checkType, RegistryType.target?, RegistryType.typeTexts, RegistryType.members]

theorem checkCommand_eq_ok_iff {c : Command} :
    r.checkCommand c = .ok () ↔ ∀ type ∈ c.typeTexts, r.Names type := by
  simp only [checkCommand, check_bind_eq_ok_iff, forM_eq_ok_iff, expectType_eq_ok_iff,
    Command.typeTexts, List.forall_mem_cons, List.forall_mem_map]

theorem isCommand_iff : r.isCommand name = true ↔ r.HasCommand name := by
  rw [isCommand, Bool.or_eq_true, NameMap.contains_iff, NameMap.contains_iff]
  rfl

theorem checkCommandAlias_eq_ok_iff {a : Alias} :
    r.checkCommandAlias a = .ok () ↔ r.HasCommand a.target := by
  rw [← isCommand_iff]
  unfold checkCommandAlias
  split <;> simp_all

theorem checkFeature_eq_ok_iff {f : Feature} :
    r.checkFeature place f = .ok () ↔
      (f.kind = .type →
        (∃ t, r.types.get? f.name = some t) ∨ ∃ h, r.includes.get? f.name = some h) ∧
      (f.kind = .command → r.HasCommand f.name) := by
  have hcheck : r.checkFeature place f = .ok () ↔ r.knowsFeature f = true := by
    unfold checkFeature
    split <;> simp_all
  rw [hcheck, knowsFeature]
  cases f.kind <;> simp [isCommand_iff, NameMap.contains_iff]

/-- **The check of a registry succeeds if and only if all its references hold.** -/
theorem checkReferences_eq_ok_iff : r.checkReferences = .ok () ↔ r.Resolved := by
  simp only [checkReferences, check_bind_eq_ok_iff, forM_eq_ok_iff, checkType_eq_ok_iff,
    checkCommandAlias_eq_ok_iff, checkCommand_eq_ok_iff, checkFeature_eq_ok_iff]
  constructor
  · rintro ⟨htypes, haliases, hcommands, hversions, hextensions⟩
    have hrequired : ∀ f, r.HasFeature f → (f.kind = .type →
        (∃ t, r.types.get? f.name = some t) ∨ ∃ h, r.includes.get? f.name = some h) ∧
        (f.kind = .command → r.HasCommand f.name) := by
      rintro f (⟨v, hv, hf⟩ | ⟨x, hx, hf⟩)
      · exact hversions v hv f hf
      · exact hextensions x hx f hf
    exact {
      types := NameMap.forall_mem_values_iff.1 htypes
      commandAliases := NameMap.forall_mem_values_iff.1 haliases
      commands := NameMap.forall_mem_values_iff.1 hcommands
      requiredTypes := fun f hf => (hrequired f hf).1
      requiredCommands := fun f hf => (hrequired f hf).2 }
  · intro h
    refine ⟨?_, ?_, ?_, ?_, ?_⟩
    · exact NameMap.forall_mem_values_iff.2 h.types
    · exact NameMap.forall_mem_values_iff.2 h.commandAliases
    · exact NameMap.forall_mem_values_iff.2 h.commands
    · intro v hv f hf
      have hfeature : r.HasFeature f := .inl ⟨v, hv, hf⟩
      exact ⟨h.requiredTypes f hfeature, h.requiredCommands f hfeature⟩
    · intro x hx f hf
      have hfeature : r.HasFeature f := .inr ⟨x, hx, hf⟩
      exact ⟨h.requiredTypes f hfeature, h.requiredCommands f hfeature⟩

/-! ### Names -/

theorem DeclaredBy.keyed (h : r.DeclaredBy doc) : r.Keyed where
  platforms := fun _ _ hp => ((get?_declareAll_iff h.platforms).1 hp).1
  includes := h.includes
  types := fun name t ht => (h.types name t ht).1
  commands := fun name c hc => (h.commands name c hc).1
  commandAliases := h.commandAliases
  coreVersions := fun name v hv => by
    obtain ⟨hname, e, -, he⟩ := (get?_declareAll_iff h.coreVersions).1 hv
    obtain ⟨-, -, hfeatures⟩ := CoreVersion.ofElement?_eq_some he
    exact ⟨hname, each_featuresOf hfeatures⟩
  extensions := fun name x hx => by
    obtain ⟨hname, e, -, he⟩ := (get?_declareAll_iff h.extensions).1 hx
    obtain ⟨-, -, -, hqs⟩ := Extension.ofElement?_eq_some he
    refine ⟨hname, fun q hq => ?_⟩
    obtain ⟨b, -, hb⟩ := (mem_iff_of_mapM_eq_ok hqs).1 hq
    exact each_featuresOf (Requirement.features_of_ofElement hb)
  imageFormats := fun _ _ hf => ((get?_declareAll_iff h.imageFormats).1 hf).1
  spirvExtensions := fun _ _ hx => ((get?_declareAll_iff h.spirvExtensions).1 hx).1
  spirvCapabilities := fun _ _ hc => ((get?_declareAll_iff h.spirvCapabilities).1 hc).1

theorem Keyed.of_gains {xs : List Entry} (h : r.Keyed) (hg : r.Gains xs r') : r'.Keyed := by
  have htypes : KeyedByName r'.types := KeyedByName.of_gains h.types hg
  rw [hg.rest]
  exact { h with types := htypes }

theorem keyed_of_ofDocument (h : ofDocument doc = .ok r) : r.Keyed := by
  obtain ⟨s, hs, hwith, -⟩ := ofDocument_eq_ok_iff.1 h
  obtain ⟨xs, -, -, rfl⟩ := foldlM_apply_eq_ok_iff.1 hwith
  exact (declaredBy_of_ofSections hs).keyed.of_gains (gains_foldl_withEntry xs s)

/-! ### Consistency -/

theorem Resolved.exists_resolve? (h : r.Resolved) :
    r.types.Each fun name _ => ∃ t, r.resolve? name = some t := by
  intro name t ht
  unfold resolve?
  rw [ht]
  cases htarget : t.target? with
  | none => exact ⟨t, by simp [htarget]⟩
  | some target =>
    obtain ⟨u, hu, -⟩ := (h.types name t ht).target target htarget
    exact ⟨u, by simp [htarget, hu]⟩

/-- One hop along an alias never ends at an alias. -/
theorem Resolved.isAlias_eq_false (h : r.Resolved) (ht : r.resolve? name = some t) :
    t.isAlias = false := by
  unfold resolve? at ht
  split at ht
  · cases ht
  · rename_i u hu
    split at ht
    · rename_i target htarget
      obtain ⟨w, hw, hnot⟩ := (h.types name u hu).target target htarget
      rw [hw] at ht
      rw [← Option.some.inj ht]
      exact hnot
    · rename_i htarget
      rw [← Option.some.inj ht, RegistryType.isAlias, htarget]
      rfl

/-- **Every registry that a document gives is consistent.** -/
theorem consistent_of_ofDocument (h : ofDocument doc = .ok r) : r.Consistent := by
  obtain ⟨s, -, -, hcheck⟩ := ofDocument_eq_ok_iff.1 h
  have hresolved : r.Resolved := checkReferences_eq_ok_iff.1 hcheck
  refine
    { keyed := keyed_of_ofDocument h
      resolved := hresolved
      resolves := hresolved.exists_resolve?
      noAlias := fun name t ht => hresolved.isAlias_eq_false ht
      enums := fun name e he => ?_ }
  obtain ⟨hsound, hfirst⟩ := sound_of_ofDocument h he
  refine ⟨hsound, hfirst, fun other a ha => ?_⟩
  obtain ⟨f, hf⟩ := (hresolved.types name _ he).fieldAliases e rfl other a ha
  exact ⟨f, EnumType.resolveAlias?_of_target (hsound.field?_eq_none ha) ha hf⟩

theorem consistent_enumRegistry :
    ofDocument enumDocument = .ok enumRegistry ∧ enumRegistry.Consistent :=
  ⟨ofDocument_enumDocument, consistent_of_ofDocument ofDocument_enumDocument⟩

end Registry
end VulkanFoundry
