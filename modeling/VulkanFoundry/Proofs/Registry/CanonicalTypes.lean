/-
# Types are stored in canonical form

However a declaration is spelled, the type in it is stored in the one canonical form:
that of a member, of an argument or parameter, of what a function pointer or a command
returns, and of what a base type stands for. Such a type is put together from the text
around its tag, or cut from running text, and both ways end with `TypeText.canonical`.

A bitmask's base type does not go that way. The text of its type tag is stored as it
stands but for the blanks at its ends, so it is in canonical form exactly where the
document writes it so.

Key theorems: `TypeElement.Gives.isCanonical`, `Registry.declared_of_get?`,
`Registry.exists_bitmask_iff`, `Registry.canonical_types_of_load`.
-/
import VulkanFoundry.Proofs.Registry.Consistent
import VulkanFoundry.Proofs.Registry.TypeNames
import VulkanFoundry.Proofs.Text.Writing

namespace VulkanFoundry

open TypeText

/-- The texts of C types that a type is stored with. -/
def RegistryType.storedTypes : RegistryType → List String
  | .struct s => s.members.map Member.type
  | .union u => u.members.map Member.type
  | .functionPointer f => f.returnType :: f.arguments.map FunctionArgument.type
  | .base b => b.base.toList
  | .bitmask b => [b.baseType]
  | _ => []

/-- The text of the type tag without the blanks at its ends, for an element that declares
a bitmask of Vulkan and no alias of one. -/
def TypeElement.bitmaskBase? (e : TypeElement) : Option String :=
  if Attribute.supportsVulkan e.api = true ∧ e.category = some "bitmask" ∧ e.target = none then
    (Declaration.ofFragments e.fragments).base
  else none

/-! ### Declarations -/

section declarations

variable {owner function command context type : String}

theorem Declaration.isCanonical_of_requireType {d : Declaration}
    (h : d.requireType context = .ok type) : IsCanonical type := by
  unfold requireType typeText? at h
  cases hbase : d.base with
  | none =>
    rw [hbase] at h
    cases h
  | some base =>
    rw [hbase] at h
    obtain rfl := Except.ok.inj h
    exact isCanonical_canonical _

theorem Member.isCanonical_of_ofElement {e : MemberElement} {m : Member}
    (h : ofElement owner e = .ok m) : IsCanonical m.type := by
  obtain ⟨name, -, h⟩ := bind_eq_ok_iff.1 h
  obtain ⟨type, htype, h⟩ := bind_eq_ok_iff.1 h
  obtain ⟨layout, -, h⟩ := bind_eq_ok_iff.1 h
  obtain rfl := Except.ok.inj h
  exact Declaration.isCanonical_of_requireType htype

theorem TypeElement.isCanonical_of_members {e : TypeElement} {ms : List Member}
    (h : e.members owner = .ok ms) : ∀ type ∈ ms.map Member.type, IsCanonical type := by
  refine List.forall_mem_map.2 fun m hm => ?_
  obtain ⟨element, -, helement⟩ := (mem_iff_of_mapM_eq_ok h).1 hm
  exact Member.isCanonical_of_ofElement helement

theorem CommandParam.isCanonical_of_ofElement {e : ParamElement} {p : CommandParam}
    (h : ofElement command e = .ok p) : IsCanonical p.type := by
  obtain ⟨name, -, h⟩ := bind_eq_ok_iff.1 h
  obtain ⟨type, htype, h⟩ := bind_eq_ok_iff.1 h
  obtain rfl := Except.ok.inj h
  exact Declaration.isCanonical_of_requireType htype

theorem Command.isCanonical_of_ofElement {e : CommandElement} {c : Command}
    (h : ofElement e = .ok c) : ∀ type ∈ c.typeTexts, IsCanonical type := by
  unfold ofElement at h
  split at h
  · cases h
  · obtain ⟨name, -, h⟩ := bind_eq_ok_iff.1 h
    obtain ⟨returnType, hreturn, h⟩ := bind_eq_ok_iff.1 h
    obtain ⟨params, hparams, h⟩ := bind_eq_ok_iff.1 h
    obtain rfl := Except.ok.inj h
    refine List.forall_mem_cons.2 ⟨Declaration.isCanonical_of_requireType hreturn, ?_⟩
    refine List.forall_mem_map.2 fun p hp => ?_
    obtain ⟨element, -, helement⟩ := (mem_iff_of_mapM_eq_ok hparams).1 hp
    exact CommandParam.isCanonical_of_ofElement helement

theorem FunctionArgument.isCanonical_of_ofElement {e : ParamElement} {a : FunctionArgument}
    (h : ofElement function e = .ok a) : IsCanonical a.type := by
  obtain ⟨name, -, h⟩ := bind_eq_ok_iff.1 h
  obtain ⟨type, htype, h⟩ := bind_eq_ok_iff.1 h
  obtain ⟨-, h⟩ := check_bind_eq_ok_iff.1 h
  obtain rfl := Except.ok.inj h
  exact Declaration.isCanonical_of_requireType htype

theorem FunctionArgument.isCanonical_of_ofTokens? {tokens : List ArgumentToken}
    {a : FunctionArgument} (h : ofTokens? function tokens = .ok (some a)) :
    IsCanonical a.type := by
  unfold ofTokens? at h
  simp only at h
  split at h
  · split at h
    · cases Except.ok.inj h
    · cases h
  · obtain ⟨-, h⟩ := check_bind_eq_ok_iff.1 h
    split at h
    · cases h
    · obtain rfl := Option.some.inj (Except.ok.inj h)
      exact isCanonical_canonical _

theorem FunctionPointerType.isCanonical_of_ofElement {e : TypeElement} {f : FunctionPointerType}
    (h : ofElement e = .ok f) :
    ∀ type ∈ (RegistryType.functionPointer f).storedTypes, IsCanonical type := by
  unfold ofElement at h
  split at h
  · obtain ⟨name, -, h⟩ := bind_eq_ok_iff.1 h
    obtain ⟨base, -, h⟩ := bind_eq_ok_iff.1 h
    obtain ⟨arguments, harguments, h⟩ := bind_eq_ok_iff.1 h
    obtain rfl := Except.ok.inj h
    refine List.forall_mem_cons.2 ⟨isCanonical_canonical _, List.forall_mem_map.2 fun a ha => ?_⟩
    obtain ⟨element, -, helement⟩ := (mem_iff_of_mapM_eq_ok harguments).1 ha
    exact FunctionArgument.isCanonical_of_ofElement helement
  · unfold ofText at h
    split at h
    · cases h
    · simp only at h
      split at h
      · cases h
      · obtain ⟨arguments, harguments, h⟩ := bind_eq_ok_iff.1 h
        obtain rfl := Except.ok.inj h
        refine List.forall_mem_cons.2
          ⟨isCanonical_canonical _, List.forall_mem_map.2 fun a ha => ?_⟩
        -- the groups without an argument are passed over
        obtain ⟨o, ho, hoa⟩ := List.mem_filterMap.1 ha
        obtain rfl : o = some a := hoa
        obtain ⟨group, -, hgroup⟩ := (mem_iff_of_mapM_eq_ok harguments).1 ho
        exact FunctionArgument.isCanonical_of_ofTokens? hgroup

theorem BaseType.isCanonical_of_ofElement {e : TypeElement} {b : BaseType}
    (h : ofElement e = .ok b) : ∀ type ∈ b.base.toList, IsCanonical type := by
  obtain ⟨name, -, h⟩ := bind_eq_ok_iff.1 h
  obtain rfl := Except.ok.inj h
  intro type htype
  obtain ⟨base, -, rfl⟩ := Option.map_eq_some_iff.1 (Option.mem_toList.1 htype)
  exact isCanonical_canonical _

/-- A bitmask is stored with the tagged text itself. -/
theorem BitmaskType.base_of_ofElement {e : TypeElement} {b : BitmaskType}
    (h : ofElement e = .ok b) : (Declaration.ofFragments e.fragments).base = some b.baseType := by
  obtain ⟨name, -, h⟩ := bind_eq_ok_iff.1 h
  obtain ⟨base, hbase, h⟩ := bind_eq_ok_iff.1 h
  obtain rfl := Except.ok.inj h
  unfold Declaration.requireBase at hbase
  split at hbase
  · rename_i tagged htagged
    rw [htagged, Except.ok.inj hbase]
  · cases hbase

end declarations

/-! ### Elements of the types section -/

section elements

variable {e : TypeElement} {t : RegistryType}

theorem RegistryType.storedTypes_of_isAlias (h : t.isAlias = true) : t.storedTypes = [] := by
  cases t <;> first | rfl | cases h

/-- **Whatever an element gives but a bitmask** is stored with canonical types. -/
theorem TypeElement.Gives.isCanonical (h : e.Gives t) (hbitmask : ∀ b, t ≠ .bitmask b) :
    ∀ type ∈ t.storedTypes, IsCanonical type := by
  cases h with
  | aliased h =>
    rw [RegistryType.storedTypes_of_isAlias h]
    exact List.forall_mem_nil _
  | external h => exact List.forall_mem_nil _
  | define h => exact List.forall_mem_nil _
  | handle h => exact List.forall_mem_nil _
  | base h => exact BaseType.isCanonical_of_ofElement h
  | bitmask hcategory htarget h => exact absurd rfl (hbitmask _)
  | struct h =>
    obtain ⟨name, -, h⟩ := bind_eq_ok_iff.1 h
    obtain ⟨members, hmembers, h⟩ := bind_eq_ok_iff.1 h
    obtain rfl := Except.ok.inj h
    exact isCanonical_of_members hmembers
  | union h =>
    obtain ⟨name, -, h⟩ := bind_eq_ok_iff.1 h
    obtain ⟨members, hmembers, h⟩ := bind_eq_ok_iff.1 h
    obtain rfl := Except.ok.inj h
    exact isCanonical_of_members hmembers
  | functionPointer h => exact FunctionPointerType.isCanonical_of_ofElement h

theorem TypeElement.bitmaskBase?_eq_some_iff {base : String} : e.bitmaskBase? = some base ↔
    (Attribute.supportsVulkan e.api = true ∧ e.category = some "bitmask" ∧ e.target = none) ∧
      (Declaration.ofFragments e.fragments).base = some base := by
  unfold bitmaskBase?
  split
  · rename_i hvulkan
    exact (and_iff_right hvulkan).symm
  · rename_i hnot
    exact ⟨nofun, fun h => absurd h.1 hnot⟩

/-- An element that declares a bitmask gives one with the tagged text, if it is accepted. -/
theorem Declared.exists_bitmask_of_bitmaskBase? {d : Declared} {base : String}
    (hbase : e.bitmaskBase? = some base) (h : ofElement e = .ok d) :
    ∃ b : BitmaskType, d = .type (.bitmask b) ∧ b.baseType = base := by
  obtain ⟨⟨-, hcategory, htarget⟩, htag⟩ := TypeElement.bitmaskBase?_eq_some_iff.1 hbase
  simp only [ofElement, hcategory, TypeElement.aliasOr, TypeElement.alias?, htarget] at h
  obtain ⟨b, hb, rfl⟩ := map_eq_ok_iff.1 h
  have hstored := BitmaskType.base_of_ofElement hb
  rw [htag] at hstored
  exact ⟨b, rfl, (Option.some.inj hstored).symm⟩

end elements

/-! ### The registry -/

namespace Registry

variable {doc : Document} {r : Registry} {name : String} {t : RegistryType}

/-- A type of a registry is an enum or a constant, or it is there as an element of the
types section declares it. -/
theorem declared_of_get? (h : ofDocument doc = .ok r) (ht : r.types.get? name = some t) :
    (∃ e, t = .enum e) ∨ (∃ d, t = .define d) ∨ ∃ e ∈ doc.types,
      Attribute.supportsVulkan e.api = true ∧ Declared.ofElement e = .ok (.type t) := by
  obtain ⟨s, hs, hwith, -⟩ := ofDocument_eq_ok_iff.1 h
  obtain ⟨xs, -, -, rfl⟩ := foldlM_apply_eq_ok_iff.1 hwith
  rw [get?_foldl_withEntry] at ht
  cases hown : s.types.get? name with
  | none =>
    rw [hown] at ht
    obtain ⟨d, -, hd⟩ := Option.map_eq_some_iff.1 ht
    exact .inr (.inl ⟨d, hd.symm⟩)
  | some u =>
    rw [hown] at ht
    obtain rfl := Option.some.inj ht
    obtain ⟨-, hdeclares⟩ := (declaredBy_of_ofSections hs).types name u hown
    cases hdeclares with
    | element he hvulkan hel =>
      -- no contribution changes what is no enum
      rw [RegistryType.mapEnum_of_not_enum _ fun e => Declared.ne_enum_of_ofElement hel]
      exact .inr (.inr ⟨_, he, hvulkan, hel⟩)
    | constant hb he hd => exact .inr (.inl ⟨_, rfl⟩)
    | block hb hname he => exact .inl ⟨_, rfl⟩
    | named name => exact .inl ⟨_, rfl⟩

theorem canonical_of_get?_types (h : ofDocument doc = .ok r) (ht : r.types.get? name = some t)
    (hbitmask : ∀ b, t ≠ .bitmask b) : ∀ type ∈ t.storedTypes, IsCanonical type := by
  rcases declared_of_get? h ht with ⟨e, rfl⟩ | ⟨d, rfl⟩ | ⟨e, -, -, hel⟩
  · exact List.forall_mem_nil _
  · exact List.forall_mem_nil _
  · exact (Declared.gives_of_ofElement hel).isCanonical hbitmask

theorem canonical_of_get?_commands (h : ofDocument doc = .ok r) {c : Command}
    (hc : r.commands.get? name = some c) : ∀ type ∈ c.typeTexts, IsCanonical type := by
  obtain ⟨s, hs, hwith, -⟩ := ofDocument_eq_ok_iff.1 h
  obtain ⟨xs, -, -, rfl⟩ := foldlM_apply_eq_ok_iff.1 hwith
  rw [types_foldl_withEntry_only] at hc
  obtain ⟨-, e, -, he⟩ := (declaredBy_of_ofSections hs).commands name c hc
  exact Command.isCanonical_of_ofElement he

theorem exists_declared_of_mem (h : ofDocument doc = .ok r) {e : TypeElement} (he : e ∈ doc.types)
    (hvulkan : Attribute.supportsVulkan e.api = true) : ∃ d, Declared.ofElement e = .ok d := by
  obtain ⟨s, hs, -, -⟩ := ofDocument_eq_ok_iff.1 h
  rw [ofSections_eq] at hs
  obtain ⟨platforms, -, hs⟩ := bind_eq_ok_iff.1 hs
  obtain ⟨declared, hdeclared, -⟩ := bind_eq_ok_iff.1 hs
  obtain ⟨s₁, s₂, hstep⟩ := exists_step_of_foldlM_eq_ok hdeclared e he
  rw [TypesSection.add_of_supportsVulkan s₁ hvulkan] at hstep
  obtain ⟨d, hd, -⟩ := bind_eq_ok_iff.1 hstep
  exact ⟨d, hd⟩

/-- The base types of the stored bitmasks are the tagged texts of the document. -/
theorem exists_bitmask_iff (h : ofDocument doc = .ok r) (base : String) :
    (∃ name b, r.types.get? name = some (.bitmask b) ∧ b.baseType = base) ↔
      ∃ e ∈ doc.types, e.bitmaskBase? = some base := by
  constructor
  · rintro ⟨name, b, hb, rfl⟩
    rcases declared_of_get? h hb with ⟨e, he⟩ | ⟨d, hd⟩ | ⟨e, he, hvulkan, hel⟩
    · cases he
    · cases hd
    · refine ⟨e, he, TypeElement.bitmaskBase?_eq_some_iff.2 ?_⟩
      cases Declared.gives_of_ofElement hel with
      | aliased halias => cases halias
      | bitmask hcategory htarget hof =>
        exact ⟨⟨hvulkan, hcategory, htarget⟩, BitmaskType.base_of_ofElement hof⟩
  · rintro ⟨e, he, hbase⟩
    obtain ⟨⟨hvulkan, -⟩, -⟩ := TypeElement.bitmaskBase?_eq_some_iff.1 hbase
    obtain ⟨d, hd⟩ := exists_declared_of_mem h he hvulkan
    obtain ⟨b, rfl, hb⟩ := Declared.exists_bitmask_of_bitmaskBase? hbase hd
    exact ⟨b.name, b, get?_of_declared h he hvulkan hd, hb⟩

/-- **Which types are stored in canonical form.** In a loaded registry all types of
commands are, and all types of what is no bitmask. The base types of its bitmasks are the
texts of the type tags, whether these are in canonical form or not. -/
theorem canonical_types_of_load {text : String} (h : load text = .ok r) :
    (∀ name c, r.commands.get? name = some c → ∀ type ∈ c.typeTexts, IsCanonical type) ∧
    (∀ name t, r.types.get? name = some t → (∀ b, t ≠ .bitmask b) →
      ∀ type ∈ t.storedTypes, IsCanonical type) ∧
    ∃ doc, Document.read? text = some doc ∧ ∀ base,
      (∃ name b, r.types.get? name = some (.bitmask b) ∧ b.baseType = base) ↔
        ∃ e ∈ doc.types, e.bitmaskBase? = some base := by
  unfold load at h
  split at h
  · rename_i doc hread
    exact ⟨fun name c hc => canonical_of_get?_commands h hc,
      fun name t ht hbitmask => canonical_of_get?_types h ht hbitmask,
      doc, hread, exists_bitmask_iff h⟩
  · cases h

/-! ### A tag that is not in canonical form -/

/-- A member and a bitmask have the same type tag, with two blanks in it. -/
def spacedDocument : String := r#"<registry>
<types><type name="unsigned int"/>
<type category="struct" name="S">
<member>const <type>unsigned  int</type> * <name>p</name></member></type>
<type category="bitmask">typedef <type>unsigned  int</type> <name>F</name>;</type></types>
</registry>"#

def spacedRegistry : Registry where
  types := NameMap.ofList [
    ("F", .bitmask { name := "F", baseType := "unsigned  int", fieldEnum := none }),
    structEntry "S" [] [.plain "const unsigned int*" "p"],
    ("unsigned int", .external { name := "unsigned int", header := none, isCType := true })]

set_option maxRecDepth 20000 in
theorem load_spacedDocument : load spacedDocument = .ok spacedRegistry := by
  rw [load_eq_loadChars (rfl : spacedDocument = _)]
  decide +kernel

theorem canonical_member_of_spacedDocument : load spacedDocument = .ok spacedRegistry ∧
    IsCanonical "const unsigned int*" := by
  obtain ⟨-, htypes, -⟩ := canonical_types_of_load load_spacedDocument
  have hstruct : spacedRegistry.types.get? "S" = some (.struct
      { name := "S", members := [.plain "const unsigned int*" "p"], extended := [],
        returnedOnly := false }) := by
    decide +kernel
  exact ⟨load_spacedDocument, htypes "S" _ hstruct (fun b => nofun) _ List.mem_cons_self⟩

theorem bitmask_of_spacedDocument_is_not_canonical : load spacedDocument = .ok spacedRegistry ∧
    spacedRegistry.types.get? "F" =
      some (.bitmask { name := "F", baseType := "unsigned  int", fieldEnum := none }) ∧
    ¬ IsCanonical "unsigned  int" :=
  ⟨load_spacedDocument, by decide +kernel, by decide +kernel⟩

end Registry
end VulkanFoundry
