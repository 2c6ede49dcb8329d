/-
# Type names that are declared twice

An element of the types section that declares a type files it under a name that must be
free, and nothing takes it away again: it stands in the registry as it was declared
(`Registry.get?_of_declared`). Two such elements of one name are refused.

An element that only names an enum files nothing. Its name is kept aside until the enum
blocks are read, and becomes an enum without fields if nothing stands under it by then.
So beside another element of the name it is as if it was not there, whichever of the two
comes first: the other one may be a struct, or may name the enum once more.

Key theorems: `get?_addNamedEnums`, `Registry.ofDocument_without_named`,
`Registry.type_name_declared_twice`.
-/
import VulkanFoundry.Proofs.Registry.Enums
import VulkanFoundry.Proofs.Registry.SectionOrder

namespace VulkanFoundry

/-- The name among the types that a declaration is for. Headers have names of their own. -/
def Declared.typeName? : Declared → Option String
  | .header _ => none
  | .enumName name => some name
  | .type t => some t.name

namespace TypeElement

/-- The element applies to Vulkan and declares the name among the types. -/
def Declares (e : TypeElement) (name : String) : Prop :=
  Attribute.supportsVulkan e.api = true ∧
    ∃ d, Declared.ofElement e = .ok d ∧ d.typeName? = some name

/-- The element declares the name and says nothing but that it is an enum's. -/
def OnlyNames (e : TypeElement) (name : String) : Prop :=
  Attribute.supportsVulkan e.api = true ∧ Declared.ofElement e = .ok (.enumName name)

variable {e : TypeElement} {name : String}

theorem OnlyNames.declares (h : e.OnlyNames name) : e.Declares name := ⟨h.1, _, h.2, rfl⟩

theorem Declares.exists_type (h : e.Declares name) (hnot : ¬ e.OnlyNames name) :
    ∃ t, Declared.ofElement e = .ok (.type t) ∧ t.name = name := by
  obtain ⟨hvulkan, d, hd, hname⟩ := h
  cases d with
  | header x => cases hname
  | enumName n =>
    obtain rfl := Option.some.inj hname
    exact absurd ⟨hvulkan, hd⟩ hnot
  | type t => exact ⟨t, hd, Option.some.inj hname⟩

theorem Declares.name_eq (h : e.Declares name) {t : RegistryType}
    (ht : Declared.ofElement e = .ok (.type t)) : t.name = name := by
  obtain ⟨-, d, hd, hname⟩ := h
  rw [ht] at hd
  obtain rfl := Except.ok.inj hd
  exact Option.some.inj hname

end TypeElement

/-! ### What is declared stays -/

theorem get?_of_declare {α : Type} {kind name other : String} {map map' : NameMap α}
    {value v : α} (h : declare kind map name value = .ok map') (hother : map.get? other = some v) :
    map'.get? other = some v := by
  obtain ⟨hfree, rfl⟩ := declare_eq_ok_iff.1 h
  have hne : other ≠ name := fun heq => by
    rw [heq, hfree] at hother
    cases hother
  rw [NameMap.get?_insert_of_ne _ hne, hother]

theorem get?_addEnumBlock {types types' : NameMap RegistryType} {b : EnumBlock} {name : String}
    {t : RegistryType} (h : addEnumBlock types b = .ok types') (ht : types.get? name = some t) :
    types'.get? name = some t := by
  obtain ⟨n, -, h⟩ := bind_eq_ok_iff.1 h
  split at h
  · refine foldlM_preserves (motive := fun m => m.get? name = some t) (fun m e m' _ hm hstep => ?_)
      ht h
    obtain ⟨d, -, hstep⟩ := bind_eq_ok_iff.1 hstep
    exact get?_of_declare hstep hm
  · obtain ⟨e, -, h⟩ := bind_eq_ok_iff.1 h
    exact get?_of_declare h ht

/-- A name that was kept aside becomes an enum where no type has it. -/
theorem get?_addNamedEnums (types : NameMap RegistryType) (names : NameSet) (name : String) :
    (addNamedEnums types names).get? name = (types.get? name).or
      (if names.contains name then some (.enum (EnumType.withoutFields name)) else none) := by
  have hall : ∀ (l : List String) (m : NameMap RegistryType),
      (l.foldl (fun types name => if types.contains name then types
        else types.insert name (.enum (EnumType.withoutFields name))) m).get? name =
      (m.get? name).or (if name ∈ l then some (.enum (EnumType.withoutFields name)) else none) := by
    intro l
    induction l with
    | nil => intro m; simp
    | cons n l ih =>
      intro m
      rw [List.foldl_cons, ih]
      by_cases hn : name = n
      · subst hn
        cases hm : m.get? name <;> simp [NameMap.contains, hm]
      · split
        · simp [hn]
        · rw [NameMap.get?_insert_of_ne _ hn]
          simp [hn]
  rw [addNamedEnums, hall, if_congr NameMap.mem_names_iff rfl rfl]

/-- A name that a type has or that is kept aside already adds nothing. -/
theorem addNamedEnums_add {types : NameMap RegistryType} {names : NameSet} {name : String}
    (h : types.contains name = true ∨ names.contains name = true) :
    addNamedEnums types (names.add name) = addNamedEnums types names := by
  refine NameMap.ext_get? fun other => ?_
  rw [get?_addNamedEnums, get?_addNamedEnums]
  cases ht : types.get? other with
  | some t => rfl
  | none =>
    congr 1
    refine if_congr ?_ rfl rfl
    rw [NameSet.contains_add]
    refine or_iff_right_of_imp ?_
    rintro rfl
    refine h.resolve_left ?_
    simp [NameMap.contains, ht]

namespace TypesSection

variable {s s' : TypesSection} {e : TypeElement} {name : String} {t : RegistryType}

theorem get?_types_file {d : Declared} (h : s.file d = .ok s') (ht : s.types.get? name = some t) :
    s'.types.get? name = some t := by
  cases d with
  | header x =>
    obtain ⟨m, -, rfl⟩ := map_eq_ok_iff.1 h
    exact ht
  | enumName n =>
    obtain rfl := Except.ok.inj h
    exact ht
  | type u =>
    obtain ⟨m, hm, rfl⟩ := map_eq_ok_iff.1 h
    exact get?_of_declare hm ht

theorem contains_enumNames_file {d : Declared} (h : s.file d = .ok s')
    (hname : s.enumNames.contains name = true) : s'.enumNames.contains name = true := by
  cases d with
  | header x =>
    obtain ⟨m, -, rfl⟩ := map_eq_ok_iff.1 h
    exact hname
  | enumName n =>
    obtain rfl := Except.ok.inj h
    exact NameSet.contains_add.2 (.inr hname)
  | type u =>
    obtain ⟨m, -, rfl⟩ := map_eq_ok_iff.1 h
    exact hname

theorem add_preserves {motive : TypesSection → Prop}
    (hfile : ∀ s d s', motive s → file s d = .ok s' → motive s') (hs : motive s)
    (h : s.add e = .ok s') : motive s' := by
  by_cases hvulkan : Attribute.supportsVulkan e.api = true
  · rw [add_of_supportsVulkan s hvulkan] at h
    obtain ⟨d, -, hd⟩ := bind_eq_ok_iff.1 h
    exact hfile s d s' hs hd
  · rw [add_of_not_supportsVulkan s hvulkan] at h
    exact Except.ok.inj h ▸ hs

theorem get?_types_of_add_type (hvulkan : Attribute.supportsVulkan e.api = true)
    (ht : Declared.ofElement e = .ok (.type t)) (h : s.add e = .ok s') :
    s'.types.get? t.name = some t := by
  rw [add_of_supportsVulkan s hvulkan, ht] at h
  obtain ⟨m, hm, rfl⟩ := map_eq_ok_iff.1 h
  obtain ⟨-, rfl⟩ := declare_eq_ok_iff.1 hm
  exact NameMap.get?_insert_self _ _ _

theorem get?_of_foldlM_add {elements : List TypeElement}
    (h : elements.foldlM add s = .ok s') (he : e ∈ elements)
    (hvulkan : Attribute.supportsVulkan e.api = true) (ht : Declared.ofElement e = .ok (.type t)) :
    s'.types.get? t.name = some t :=
  foldlM_establishes (motive := fun s => s.types.get? t.name = some t)
    (fun _ _ hstep => get?_types_of_add_type hvulkan ht hstep)
    (fun _ _ _ hx hstep => add_preserves (fun _ _ _ hm hd => get?_types_file hd hm) hx hstep) he h

/-! ### An element that only names an enum -/

def withEnumName (s : TypesSection) (name : String) : TypesSection :=
  { s with enumNames := s.enumNames.add name }

theorem add_of_onlyNames (h : e.OnlyNames name) : s.add e = .ok (s.withEnumName name) := by
  rw [add_of_supportsVulkan s h.1, h.2]
  rfl

/-- A type has the name, or it is kept aside as an enum's. -/
def Has (s : TypesSection) (name : String) : Prop :=
  s.types.contains name = true ∨ s.enumNames.contains name = true

theorem has_of_foldlM_add {elements : List TypeElement}
    (h : elements.foldlM add s = .ok s') (he : e ∈ elements) (hname : e.Declares name) :
    s'.Has name := by
  by_cases honly : e.OnlyNames name
  · refine .inr (foldlM_establishes (motive := fun s => s.enumNames.contains name = true)
      (fun x x' hstep => ?_) (fun _ _ _ hx hstep =>
        add_preserves (fun _ _ _ hm hd => contains_enumNames_file hd hm) hx hstep) he h)
    rw [add_of_onlyNames honly] at hstep
    obtain rfl := Except.ok.inj hstep
    exact NameSet.contains_add.2 (.inl rfl)
  · obtain ⟨t, ht, rfl⟩ := hname.exists_type honly
    exact .inl (NameMap.contains_iff.2 ⟨t, get?_of_foldlM_add h he hname.1 ht⟩)

theorem file_withEnumName (s : TypesSection) (name : String) (d : Declared) :
    (s.withEnumName name).file d = (s.file d).map (·.withEnumName name) := by
  cases d with
  | header x =>
    simp only [file, withEnumName]
    cases declareValue "include" (·.name) s.includes x <;> rfl
  | enumName n =>
    have hcomm := add_add_comm s.enumNames name n
    exact congrArg (fun names => Except.ok { s with enumNames := names }) hcomm
  | type t =>
    simp only [file, withEnumName]
    cases declareValue "type" (·.name) s.types t <;> rfl

theorem add_withEnumName (s : TypesSection) (name : String) (e : TypeElement) :
    (s.withEnumName name).add e = (s.add e).map (·.withEnumName name) := by
  by_cases hvulkan : Attribute.supportsVulkan e.api = true
  · rw [add_of_supportsVulkan _ hvulkan, add_of_supportsVulkan _ hvulkan]
    cases Declared.ofElement e with
    | error fault => rfl
    | ok d => exact file_withEnumName s name d
  · rw [add_of_not_supportsVulkan _ hvulkan, add_of_not_supportsVulkan _ hvulkan]
    rfl

theorem foldlM_add_withEnumName : ∀ (elements : List TypeElement) (s : TypesSection),
    elements.foldlM add (s.withEnumName name) = (elements.foldlM add s).map (·.withEnumName name)
  | [], _ => rfl
  | e :: elements, s => by
    rw [List.foldlM_cons, List.foldlM_cons, add_withEnumName]
    cases s.add e with
    | error fault => rfl
    | ok s₁ => exact foldlM_add_withEnumName elements s₁

/-- The section without such an element lacks the name and nothing else. -/
theorem foldlM_add_of_onlyNames (h : e.OnlyNames name) (before after : List TypeElement) :
    (before ++ e :: after).foldlM add s =
      ((before ++ after).foldlM add s).map (·.withEnumName name) := by
  rw [List.foldlM_append, List.foldlM_append]
  cases before.foldlM add s with
  | error fault => rfl
  | ok s₁ =>
    show (e :: after).foldlM add s₁ = (after.foldlM add s₁).map _
    rw [List.foldlM_cons, add_of_onlyNames h]
    exact foldlM_add_withEnumName after s₁

end TypesSection

namespace Registry

variable {doc : Document} {r : Registry} {e e₁ e₂ : TypeElement} {name : String}
  {before between after : List TypeElement} {t : RegistryType}

/-- The sections behind the types, to go with what was read up to there. -/
def ofFurtherSections (doc : Document) (platforms : NameMap Platform)
    (includes : NameMap IncludeType) (types : NameMap RegistryType) :
    Except LoadError Registry := do
  let commands ← doc.commands.foldlM CommandsSection.add {}
  let coreVersions ← declareAll "feature" (·.name) CoreVersion.ofElement? doc.versions
  let extensions ← declareAll "extension" (·.name) Extension.ofElement? doc.extensions
  let imageFormats ← declareAll "format" (·.name) (fun e => (ImageFormat.ofElement e).map some)
    doc.formats
  let spirvExtensions ← declareAll "spirvextension" (·.name)
    (fun e => (SpirvExtension.ofElement e).map some) doc.spirvExtensions
  let spirvCapabilities ← declareAll "spirvcapability" (·.name)
    (fun e => (SpirvCapability.ofElement e).map some) doc.spirvCapabilities
  return {
    platforms, includes, types
    commands := commands.commands
    commandAliases := commands.aliases
    coreVersions, extensions, imageFormats, spirvExtensions, spirvCapabilities }

theorem ofSections_eq (doc : Document) : ofSections doc = (do
    let platforms ← declareAll "platform" (·.name) (fun e => (Platform.ofElement e).map some)
      doc.platforms
    let declared ← doc.types.foldlM TypesSection.add {}
    let blocks ← doc.enumBlocks.foldlM addEnumBlock declared.types
    ofFurtherSections doc platforms declared.includes
      (addNamedEnums blocks declared.enumNames)) := rfl

theorem types_of_ofFurtherSections {platforms : NameMap Platform}
    {includes : NameMap IncludeType} {types : NameMap RegistryType}
    (h : ofFurtherSections doc platforms includes types = .ok r) : r.types = types := by
  simp only [ofFurtherSections, bind_eq_ok_iff] at h
  obtain ⟨_, -, _, -, _, -, _, -, _, -, _, -, hr⟩ := h
  rw [← Except.ok.inj hr]

theorem get?_of_foldlM_addEnumBlock {types types' : NameMap RegistryType}
    {enumBlocks : List EnumBlock} (h : enumBlocks.foldlM addEnumBlock types = .ok types')
    (ht : types.get? name = some t) : types'.get? name = some t :=
  foldlM_preserves (motive := fun m => m.get? name = some t)
    (fun _ _ _ _ hm hstep => get?_addEnumBlock hstep hm) ht h

theorem ofSections_without_named (h : e.OnlyNames name)
    (hother : ∃ e' ∈ before ++ after, e'.Declares name) :
    ofSections { doc with types := before ++ e :: after } =
      ofSections { doc with types := before ++ after } := by
  obtain ⟨e', he', hname⟩ := hother
  rw [ofSections_eq, ofSections_eq]
  refine congrArg (_ >>= ·) (funext fun platforms => ?_)
  rw [TypesSection.foldlM_add_of_onlyNames h]
  cases hdeclared : (before ++ after).foldlM TypesSection.add {} with
  | error fault => rfl
  | ok declared =>
    show (doc.enumBlocks.foldlM addEnumBlock declared.types >>= fun blocks => _) =
      (doc.enumBlocks.foldlM addEnumBlock declared.types >>= fun blocks => _)
    cases hblocks : doc.enumBlocks.foldlM addEnumBlock declared.types with
    | error fault => rfl
    | ok blocks =>
      -- a type that has the name has it still behind the enum blocks
      have hhas : blocks.contains name = true ∨ declared.enumNames.contains name = true := by
        refine (TypesSection.has_of_foldlM_add hdeclared he' hname).imp_left fun htypes => ?_
        obtain ⟨t, ht⟩ := NameMap.contains_iff.1 htypes
        exact NameMap.contains_iff.2 ⟨t, get?_of_foldlM_addEnumBlock hblocks ht⟩
      exact congrArg (ofFurtherSections doc platforms declared.includes) (addNamedEnums_add hhas)

/-- **A bare enum name is dropped** where another element declares the name: the document
is as good without it. -/
theorem ofDocument_without_named (hdoc : doc.types = before ++ e :: after) (h : e.OnlyNames name)
    (hother : ∃ e' ∈ before ++ after, e'.Declares name) :
    ofDocument doc = ofDocument { doc with types := before ++ after } := by
  have hdoc' : doc = { doc with types := before ++ e :: after } := by rw [← hdoc]
  rw [hdoc', ofDocument, ofDocument, ofSections_without_named h hother]

/-- **A declared type stands as it was declared** in the registry. -/
theorem get?_of_declared (h : ofDocument doc = .ok r) (he : e ∈ doc.types)
    (hvulkan : Attribute.supportsVulkan e.api = true)
    (ht : Declared.ofElement e = .ok (.type t)) : r.types.get? t.name = some t := by
  obtain ⟨s, hs, hwith, -⟩ := ofDocument_eq_ok_iff.1 h
  rw [ofSections_eq] at hs
  obtain ⟨platforms, -, hs⟩ := bind_eq_ok_iff.1 hs
  obtain ⟨declared, hdeclared, hs⟩ := bind_eq_ok_iff.1 hs
  obtain ⟨blocks, hblocks, hs⟩ := bind_eq_ok_iff.1 hs
  have hsection : declared.types.get? t.name = some t :=
    TypesSection.get?_of_foldlM_add hdeclared he hvulkan ht
  have hstands : s.types.get? t.name = some t := by
    rw [types_of_ofFurtherSections hs, get?_addNamedEnums,
      get?_of_foldlM_addEnumBlock hblocks hsection]
    rfl
  obtain ⟨xs, -, -, rfl⟩ := foldlM_apply_eq_ok_iff.1 hwith
  exact (gains_foldl_withEntry xs s).others t.name t hstands fun e =>
    Declared.ne_enum_of_ofElement ht

/-- Two elements that declare types of one name are refused. -/
theorem not_ok_of_declared_twice {t₁ t₂ : RegistryType}
    (hdoc : doc.types = before ++ e₁ :: (between ++ e₂ :: after))
    (hvulkan₁ : Attribute.supportsVulkan e₁.api = true)
    (ht₁ : Declared.ofElement e₁ = .ok (.type t₁))
    (hvulkan₂ : Attribute.supportsVulkan e₂.api = true)
    (ht₂ : Declared.ofElement e₂ = .ok (.type t₂)) (hname : t₁.name = t₂.name) :
    ofDocument doc ≠ .ok r := by
  intro h
  obtain ⟨s, hs, -⟩ := ofDocument_eq_ok_iff.1 h
  rw [ofSections_eq, hdoc, ← List.cons_append, ← List.append_assoc] at hs
  obtain ⟨platforms, -, hs⟩ := bind_eq_ok_iff.1 hs
  obtain ⟨declared, hdeclared, -⟩ := bind_eq_ok_iff.1 hs
  rw [List.foldlM_append] at hdeclared
  obtain ⟨s₁, hs₁, hrest⟩ := bind_eq_ok_iff.1 hdeclared
  rw [List.foldlM_cons] at hrest
  obtain ⟨s₂, hs₂, -⟩ := bind_eq_ok_iff.1 hrest
  -- the first type stands there when the second one is to be filed
  have hstands : s₁.types.get? t₁.name = some t₁ :=
    TypesSection.get?_of_foldlM_add hs₁ (by simp) hvulkan₁ ht₁
  rw [TypesSection.add_of_supportsVulkan _ hvulkan₂, ht₂] at hs₂
  obtain ⟨m, hm, -⟩ := map_eq_ok_iff.1 hs₂
  have hfree : s₁.types.get? t₂.name = none := (declare_eq_ok_iff.1 hm).1
  rw [← hname, hstands] at hfree
  cases hfree

/-- **Two declarations of one type name.** If neither is a bare enum name, the document is
refused. One that is can be left out without any difference, and a type that either of
them declares is what stands under the name in the end. -/
theorem type_name_declared_twice
    (hdoc : doc.types = before ++ e₁ :: (between ++ e₂ :: after))
    (h₁ : e₁.Declares name) (h₂ : e₂.Declares name) :
    (¬ e₁.OnlyNames name → ¬ e₂.OnlyNames name → ∃ err, ofDocument doc = .error err) ∧
    (e₁.OnlyNames name →
      ofDocument doc = ofDocument { doc with types := before ++ (between ++ e₂ :: after) }) ∧
    (e₂.OnlyNames name →
      ofDocument doc = ofDocument { doc with types := before ++ e₁ :: (between ++ after) }) ∧
    (∀ r t, ofDocument doc = .ok r →
      Declared.ofElement e₁ = .ok (.type t) ∨ Declared.ofElement e₂ = .ok (.type t) →
      r.types.get? name = some t) := by
  refine ⟨fun hnot₁ hnot₂ => ?_, fun honly => ?_, fun honly => ?_, fun r t hr ht => ?_⟩
  · obtain ⟨t₁, ht₁, hname₁⟩ := h₁.exists_type hnot₁
    obtain ⟨t₂, ht₂, hname₂⟩ := h₂.exists_type hnot₂
    cases hr : ofDocument doc with
    | error err => exact ⟨err, rfl⟩
    | ok r =>
      exact absurd hr (not_ok_of_declared_twice hdoc h₁.1 ht₁ h₂.1 ht₂ (hname₁.trans hname₂.symm))
  · exact ofDocument_without_named hdoc honly ⟨e₂, by simp, h₂⟩
  · have hdoc' : doc.types = (before ++ e₁ :: between) ++ e₂ :: after := by simp [hdoc]
    rw [ofDocument_without_named hdoc' honly ⟨e₁, by simp, h₁⟩, List.append_assoc,
      List.cons_append]
  · rcases ht with ht | ht
    · rw [← h₁.name_eq ht]
      exact get?_of_declared hr (by simp [hdoc]) h₁.1 ht
    · rw [← h₂.name_eq ht]
      exact get?_of_declared hr (by simp [hdoc]) h₂.1 ht

/-! ### A struct beside an enum, a union and itself -/

def emptyStruct : TypeElement := { name := some "E", category := some "struct" }

def bareEnum : TypeElement := { name := some "E", category := some "enum" }

def emptyUnion : TypeElement := { name := some "E", category := some "union" }

theorem emptyStruct_declares : emptyStruct.Declares "E" :=
  ⟨by decide, .type (.struct ⟨"E", [], [], false⟩), rfl, rfl⟩

theorem emptyUnion_declares : emptyUnion.Declares "E" :=
  ⟨by decide, .type (.union ⟨"E", [], false⟩), rfl, rfl⟩

theorem bareEnum_onlyNames : bareEnum.OnlyNames "E" := ⟨by decide, rfl⟩

theorem not_onlyNames_emptyStruct : ¬ emptyStruct.OnlyNames "E" := fun h => nomatch h.2

theorem not_onlyNames_emptyUnion : ¬ emptyUnion.OnlyNames "E" := fun h => nomatch h.2

/-- A struct and a union of one name are refused; of an enum that is only named and a
union it is the enum that makes no difference, and the union that stands. -/
theorem union_beside_struct_and_enum :
    (∃ err, ofDocument { types := [emptyStruct, emptyUnion] } = .error err) ∧
    ofDocument { types := [bareEnum, emptyUnion] } = ofDocument { types := [emptyUnion] } ∧
    ∀ r, ofDocument { types := [bareEnum, emptyUnion] } = .ok r →
      r.types.get? "E" = some (.union ⟨"E", [], false⟩) := by
  have hstruct : ({ types := [emptyStruct, emptyUnion] } : Document).types =
      [] ++ emptyStruct :: ([] ++ emptyUnion :: []) := rfl
  have henum : ({ types := [bareEnum, emptyUnion] } : Document).types =
      [] ++ bareEnum :: ([] ++ emptyUnion :: []) := rfl
  obtain ⟨hrefused, -⟩ :=
    type_name_declared_twice hstruct emptyStruct_declares emptyUnion_declares
  obtain ⟨-, hdropped, -, hstands⟩ :=
    type_name_declared_twice henum bareEnum_onlyNames.declares emptyUnion_declares
  exact ⟨hrefused not_onlyNames_emptyStruct not_onlyNames_emptyUnion,
    hdropped bareEnum_onlyNames, fun r hr => hstands r _ hr (.inr rfl)⟩

/-- **An enum beside a struct is dropped.** Both elements declare the name, the document
is accepted, and nothing but the struct stands under it. -/
theorem enum_beside_struct_is_dropped :
    emptyStruct.Declares "E" ∧ bareEnum.Declares "E" ∧
      ofDocument { types := [emptyStruct, bareEnum] } =
        .ok { types := NameMap.ofList [structEntry "E" [] []] } :=
  ⟨emptyStruct_declares, bareEnum_onlyNames.declares, by decide +kernel⟩

end Registry
end VulkanFoundry
