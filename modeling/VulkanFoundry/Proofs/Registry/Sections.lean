/-
# What the sections of a document declare

A section is a chain of declarations into a map, and a name that is there already is
refused. So nothing is ever replaced: a map holds what the elements of its section
declare, each value under the name it carries, and nothing else
(`get?_declareAll_iff`).

The types come from three places, the types section, the enum blocks and the enums
that are only named, and what they can be is told by where they come from
(`Document.DeclaresType`).

Key theorems: `Declared.gives_of_ofElement`, `Registry.declaredBy_of_ofSections`,
`Registry.ofDocument_eq_ok_iff`.
-/
import VulkanFoundry.Proofs.Success
import VulkanFoundry.Registry.OfDocument

namespace VulkanFoundry

/-! ### Declarations into a map -/

namespace NameMap

variable {α : Type} {motive : String → α → Prop} {m : NameMap α}

/-- Every entry of the map has the property. -/
def Each (motive : String → α → Prop) (m : NameMap α) : Prop :=
  ∀ name value, m.get? name = some value → motive name value

theorem forall_mem_values_iff {p : α → Prop} : (∀ v ∈ m.values, p v) ↔ m.Each fun _ v => p v := by
  simp only [mem_values_iff, Each]
  constructor
  · exact fun h name v hv => h v ⟨name, hv⟩
  · rintro h v ⟨name, hv⟩
    exact h name v hv

theorem Each.empty : Each motive (∅ : NameMap α) := fun _ _ h => nomatch h

theorem Each.insert (h : m.Each motive) {name : String} {value : α} (hv : motive name value) :
    (m.insert name value).Each motive := by
  intro other v hother
  rw [get?_insert] at hother
  by_cases ho : other = name
  · rw [if_pos ho] at hother
    rw [ho, ← Option.some.inj hother]
    exact hv
  · rw [if_neg ho] at hother
    exact h other v hother

end NameMap

/-- A declaration that succeeds is an insertion under a name that was free. -/
theorem declare_eq_ok_iff {α : Type} {kind name : String} {map map' : NameMap α} {value : α} :
    declare kind map name value = .ok map' ↔
      map.get? name = none ∧ map' = map.insert name value := by
  unfold declare NameMap.contains
  cases map.get? name with
  | none => simp [eq_comm]
  | some v => simp

section declareAll

variable {ε α : Type} {kind : String} {name : α → String}
  {ofElement? : ε → Except LoadError (Option α)} {map map' : NameMap α} {elements : List ε}

def declareElement (kind : String) (name : α → String)
    (ofElement? : ε → Except LoadError (Option α)) (map : NameMap α) (e : ε) :
    Except LoadError (NameMap α) := do
  match ← ofElement? e with
  | some value => declare kind map (name value) value
  | none => return map

theorem declareAll_eq_foldlM : declareAll kind name ofElement? elements =
    elements.foldlM (declareElement kind name ofElement?) NameMap.empty := rfl

theorem get?_of_declareElement {e : ε}
    (h : declareElement kind name ofElement? map e = .ok map') {n : String} {v : α} :
    map'.get? n = some v ↔ map.get? n = some v ∨ name v = n ∧ ofElement? e = .ok (some v) := by
  obtain ⟨o, ho, h⟩ := bind_eq_ok_iff.1 h
  rw [ho]
  cases o with
  | none =>
    obtain rfl := Except.ok.inj h
    simp
  | some w =>
    obtain ⟨hfree, rfl⟩ := declare_eq_ok_iff.1 h
    rw [NameMap.get?_insert, Except.ok.injEq, Option.some.injEq]
    by_cases hn : n = name w
    · -- the name was free, so nothing else can stand there
      subst hn
      constructor
      · intro hv
        obtain rfl : w = v := by simpa using hv
        exact .inr ⟨rfl, rfl⟩
      · rintro (hv | ⟨-, rfl⟩)
        · rw [hfree] at hv
          cases hv
        · simp
    · rw [if_neg hn]
      refine (or_iff_left ?_).symm
      rintro ⟨hname, rfl⟩
      exact hn hname.symm

theorem get?_of_foldlM_declareElement : ∀ {elements : List ε} {map map' : NameMap α},
    elements.foldlM (declareElement kind name ofElement?) map = .ok map' →
    ∀ {n : String} {v : α}, map'.get? n = some v ↔
      map.get? n = some v ∨ name v = n ∧ ∃ e ∈ elements, ofElement? e = .ok (some v)
  | [], map, map', h, n, v => by
    obtain rfl := Except.ok.inj h
    simp
  | e :: elements, map, map', h, n, v => by
    rw [List.foldlM_cons] at h
    obtain ⟨map₁, hstep, hrest⟩ := bind_eq_ok_iff.1 h
    rw [get?_of_foldlM_declareElement hrest, get?_of_declareElement hstep,
      List.exists_mem_cons_iff, or_assoc, ← and_or_left]

/-- **A section's map** holds what its elements declare, under their own names. -/
theorem get?_declareAll_iff (h : declareAll kind name ofElement? elements = .ok map)
    {n : String} {v : α} :
    map.get? n = some v ↔ name v = n ∧ ∃ e ∈ elements, ofElement? e = .ok (some v) := by
  rw [declareAll_eq_foldlM] at h
  rw [get?_of_foldlM_declareElement h]
  simp

/-- No element of a section that is accepted fails. -/
theorem exists_ofElement?_of_declareAll (h : declareAll kind name ofElement? elements = .ok map)
    {e : ε} (he : e ∈ elements) : ∃ o, ofElement? e = .ok o := by
  rw [declareAll_eq_foldlM] at h
  obtain ⟨map₁, map₂, hstep⟩ := exists_step_of_foldlM_eq_ok h e he
  obtain ⟨o, ho, -⟩ := bind_eq_ok_iff.1 hstep
  exact ⟨o, ho⟩

end declareAll

/-! ### What an element of the types section declares -/

/-- The element gives the type, by the reader of the type's category. -/
inductive TypeElement.Gives (e : TypeElement) : RegistryType → Prop
  | aliased {t : RegistryType} (h : t.isAlias = true) : Gives e t
  | external {x : ExternalType} (h : ExternalType.ofElement e = .ok x) : Gives e (.external x)
  | define {d : Define} (h : Define.ofElement e = .ok d) : Gives e (.define d)
  | base {b : BaseType} (h : BaseType.ofElement e = .ok b) : Gives e (.base b)
  | bitmask {b : BitmaskType} (hcategory : e.category = some "bitmask") (htarget : e.target = none)
      (h : BitmaskType.ofElement e = .ok b) : Gives e (.bitmask b)
  | handle {x : HandleType} (h : HandleType.ofElement e = .ok x) : Gives e (.handle x)
  | struct {s : StructType} (h : StructType.ofElement e = .ok s) : Gives e (.struct s)
  | union {u : UnionType} (h : UnionType.ofElement e = .ok u) : Gives e (.union u)
  | functionPointer {f : FunctionPointerType} (h : FunctionPointerType.ofElement e = .ok f) :
      Gives e (.functionPointer f)

section elements

variable {e : TypeElement} {t : RegistryType}

theorem exists_of_map_type {α : Type} {mk : α → RegistryType} {x : Except LoadError α}
    (h : x.map (Declared.type ∘ mk) = .ok (.type t)) : ∃ a, x = .ok a ∧ mk a = t := by
  obtain ⟨a, ha, heq⟩ := map_eq_ok_iff.1 h
  exact ⟨a, ha, Declared.type.inj heq⟩

/-- An element that may be an alias is one, or has no target and is read as what else it
declares. -/
theorem TypeElement.aliasOr_eq_ok {ofAlias : Alias → RegistryType}
    {otherwise : Except LoadError Declared} (hof : ∀ a, (ofAlias a).isAlias = true)
    (h : e.aliasOr ofAlias otherwise = .ok (.type t)) :
    t.isAlias = true ∨ e.target = none ∧ otherwise = .ok (.type t) := by
  obtain ⟨o, ho, h⟩ := bind_eq_ok_iff.1 h
  unfold alias? at ho
  split at ho
  · obtain ⟨name, -, ho⟩ := bind_eq_ok_iff.1 ho
    obtain rfl := Except.ok.inj ho
    obtain rfl := Declared.type.inj (Except.ok.inj h)
    exact .inl (hof _)
  · rename_i htarget
    obtain rfl := Except.ok.inj ho
    exact .inr ⟨htarget, h⟩

/-- **What an element declares** is what the reader of its category gives. -/
theorem Declared.gives_of_ofElement (h : ofElement e = .ok (.type t)) : e.Gives t := by
  unfold ofElement at h
  -- the categories one after the other; headers and names of enums are no types
  split at h
  · obtain ⟨x, hx, rfl⟩ := exists_of_map_type h
    exact .external hx
  · obtain ⟨x, -, hx⟩ := map_eq_ok_iff.1 h
    cases hx
  · obtain ⟨d, hd, rfl⟩ := exists_of_map_type h
    exact .define hd
  · obtain ⟨b, hb, rfl⟩ := exists_of_map_type h
    exact .base hb
  · rename_i hcategory
    rcases TypeElement.aliasOr_eq_ok (fun _ => rfl) h with halias | ⟨htarget, h⟩
    · exact .aliased halias
    · obtain ⟨b, hb, rfl⟩ := exists_of_map_type h
      exact .bitmask hcategory htarget hb
  · rcases TypeElement.aliasOr_eq_ok (fun _ => rfl) h with halias | ⟨-, h⟩
    · exact .aliased halias
    · obtain ⟨x, -, hx⟩ := map_eq_ok_iff.1 h
      cases hx
  · rcases TypeElement.aliasOr_eq_ok (fun _ => rfl) h with halias | ⟨-, h⟩
    · exact .aliased halias
    · obtain ⟨x, hx, rfl⟩ := exists_of_map_type h
      exact .handle hx
  · rcases TypeElement.aliasOr_eq_ok (fun _ => rfl) h with halias | ⟨-, h⟩
    · exact .aliased halias
    · obtain ⟨s, hs, rfl⟩ := exists_of_map_type h
      exact .struct hs
  · obtain ⟨u, hu, rfl⟩ := exists_of_map_type h
    exact .union hu
  · obtain ⟨f, hf, rfl⟩ := exists_of_map_type h
    exact .functionPointer hf
  · cases h

end elements

/-! ### The types -/

/-- Something in the document declares the type. -/
inductive Document.DeclaresType (doc : Document) : RegistryType → Prop where
  /-- An element of the types section that applies to Vulkan. -/
  | element {e : TypeElement} {t : RegistryType} (he : e ∈ doc.types)
      (hvulkan : Attribute.supportsVulkan e.api = true)
      (ht : Declared.ofElement e = .ok (.type t)) : DeclaresType doc t
  /-- An entry of a block of constants. -/
  | constant {b : EnumBlock} {e : EnumElement} {d : Define} (hb : b ∈ doc.enumBlocks)
      (he : e ∈ b.vulkanEntries) (hd : Define.ofConstant e = .ok d) : DeclaresType doc (.define d)
  /-- A block of fields. -/
  | block {b : EnumBlock} {name : String} {e : EnumType} (hb : b ∈ doc.enumBlocks)
      (hname : b.name = some name) (he : EnumType.ofBlock name b = .ok e) :
      DeclaresType doc (.enum e)
  /-- The name of an enum that no block gives fields. -/
  | named (name : String) : DeclaresType doc (.enum (EnumType.withoutFields name))

theorem TypesSection.add_eq_ok {s s' : TypesSection} {e : TypeElement} (h : s.add e = .ok s') :
    s' = s ∨
    (∃ x : IncludeType, s' = { s with includes := s.includes.insert x.name x }) ∨
    (∃ name, s' = { s with enumNames := s.enumNames.add name }) ∨
    ∃ t, Attribute.supportsVulkan e.api = true ∧ Declared.ofElement e = .ok (.type t) ∧
      s' = { s with types := s.types.insert t.name t } := by
  unfold TypesSection.add at h
  split at h
  · rename_i hvulkan
    obtain ⟨d, hd, h⟩ := bind_eq_ok_iff.1 h
    cases d with
    | header x =>
      obtain ⟨m, hm, h⟩ := bind_eq_ok_iff.1 h
      obtain ⟨-, rfl⟩ := declare_eq_ok_iff.1 hm
      exact .inr (.inl ⟨x, (Except.ok.inj h).symm⟩)
    | enumName name => exact .inr (.inr (.inl ⟨name, (Except.ok.inj h).symm⟩))
    | type t =>
      obtain ⟨m, hm, h⟩ := bind_eq_ok_iff.1 h
      obtain ⟨-, rfl⟩ := declare_eq_ok_iff.1 hm
      exact .inr (.inr (.inr ⟨t, hvulkan, hd, (Except.ok.inj h).symm⟩))
  · exact .inl (Except.ok.inj h).symm

theorem CommandsSection.add_eq_ok {s s' : CommandsSection} {e : CommandElement}
    (h : s.add e = .ok s') :
    s' = s ∨
    (∃ a : Alias, s' = { s with aliases := s.aliases.insert a.name a }) ∨
    ∃ c : Command, Command.ofElement e = .ok c ∧
      s' = { s with commands := s.commands.insert c.name c } := by
  unfold CommandsSection.add at h
  split at h
  · split at h
    · obtain ⟨name, -, h⟩ := bind_eq_ok_iff.1 h
      obtain ⟨m, hm, h⟩ := bind_eq_ok_iff.1 h
      obtain ⟨-, rfl⟩ := declare_eq_ok_iff.1 hm
      exact .inr (.inl ⟨⟨name, _⟩, (Except.ok.inj h).symm⟩)
    · obtain ⟨c, hc, h⟩ := bind_eq_ok_iff.1 h
      obtain ⟨m, hm, h⟩ := bind_eq_ok_iff.1 h
      obtain ⟨-, rfl⟩ := declare_eq_ok_iff.1 hm
      exact .inr (.inr ⟨c, hc, (Except.ok.inj h).symm⟩)
  · exact .inl (Except.ok.inj h).symm

/-- A type stands under its own name and is declared by the document. -/
def Document.Files (doc : Document) (name : String) (t : RegistryType) : Prop :=
  t.name = name ∧ doc.DeclaresType t

section types

variable {doc : Document} {types types' : NameMap RegistryType}

theorem TypesSection.each_add {s s' : TypesSection} {e : TypeElement} (he : e ∈ doc.types)
    (hs : s.types.Each doc.Files) (h : s.add e = .ok s') : s'.types.Each doc.Files := by
  rcases TypesSection.add_eq_ok h with rfl | ⟨x, rfl⟩ | ⟨name, rfl⟩ | ⟨t, hvulkan, ht, rfl⟩
  · exact hs
  · exact hs
  · exact hs
  · exact hs.insert ⟨rfl, .element he hvulkan ht⟩

theorem each_addEnumBlock {b : EnumBlock} (hb : b ∈ doc.enumBlocks) (ht : types.Each doc.Files)
    (h : addEnumBlock types b = .ok types') : types'.Each doc.Files := by
  obtain ⟨name, hname, h⟩ := bind_eq_ok_iff.1 h
  split at h
  · refine foldlM_preserves (motive := NameMap.Each doc.Files) (fun m e m' he hm hstep => ?_) ht h
    obtain ⟨d, hd, hstep⟩ := bind_eq_ok_iff.1 hstep
    obtain ⟨-, rfl⟩ := declare_eq_ok_iff.1 hstep
    exact hm.insert ⟨rfl, .constant hb he hd⟩
  · obtain ⟨e, he, h⟩ := bind_eq_ok_iff.1 h
    obtain ⟨-, rfl⟩ := declare_eq_ok_iff.1 h
    exact ht.insert ⟨rfl, .block hb (Attribute.required_eq_ok_iff.1 hname) he⟩

theorem each_addNamedEnums (ht : types.Each doc.Files) (names : NameSet) :
    (addNamedEnums types names).Each doc.Files := by
  refine List.foldlRecOn (motive := NameMap.Each doc.Files) names.names _ ht fun m hm name _ => ?_
  split
  · exact hm
  · exact hm.insert ⟨rfl, .named name⟩

end types

/-! ### The sections -/

/-- The registry holds what the sections of the document declare. -/
structure Registry.DeclaredBy (doc : Document) (r : Registry) : Prop where
  types : r.types.Each doc.Files
  includes : r.includes.Each fun name x => x.name = name
  commands : r.commands.Each fun name c =>
    c.name = name ∧ ∃ e ∈ doc.commands, Command.ofElement e = .ok c
  commandAliases : r.commandAliases.Each fun name a => a.name = name
  platforms : declareAll "platform" (·.name) (fun e => (Platform.ofElement e).map some)
    doc.platforms = .ok r.platforms
  coreVersions : declareAll "feature" (·.name) CoreVersion.ofElement? doc.versions =
    .ok r.coreVersions
  extensions : declareAll "extension" (·.name) Extension.ofElement? doc.extensions =
    .ok r.extensions
  imageFormats : declareAll "format" (·.name) (fun e => (ImageFormat.ofElement e).map some)
    doc.formats = .ok r.imageFormats
  spirvExtensions : declareAll "spirvextension" (·.name)
    (fun e => (SpirvExtension.ofElement e).map some) doc.spirvExtensions = .ok r.spirvExtensions
  spirvCapabilities : declareAll "spirvcapability" (·.name)
    (fun e => (SpirvCapability.ofElement e).map some) doc.spirvCapabilities =
    .ok r.spirvCapabilities

namespace Registry

variable {doc : Document} {r : Registry}

theorem declaredBy_of_ofSections (h : ofSections doc = .ok r) : r.DeclaredBy doc := by
  obtain ⟨platforms, hplatforms, h⟩ := bind_eq_ok_iff.1 h
  obtain ⟨declared, hdeclared, h⟩ := bind_eq_ok_iff.1 h
  obtain ⟨blocks, hblocks, h⟩ := bind_eq_ok_iff.1 h
  obtain ⟨commands, hcommands, h⟩ := bind_eq_ok_iff.1 h
  obtain ⟨versions, hversions, h⟩ := bind_eq_ok_iff.1 h
  obtain ⟨extensions, hextensions, h⟩ := bind_eq_ok_iff.1 h
  obtain ⟨formats, hformats, h⟩ := bind_eq_ok_iff.1 h
  obtain ⟨spirvExtensions, hspirvExtensions, h⟩ := bind_eq_ok_iff.1 h
  obtain ⟨spirvCapabilities, hspirvCapabilities, h⟩ := bind_eq_ok_iff.1 h
  obtain rfl := Except.ok.inj h
  have htypes : declared.types.Each doc.Files :=
    foldlM_preserves (motive := fun s => s.types.Each doc.Files)
      (fun s e s' he hs hstep => TypesSection.each_add he hs hstep) NameMap.Each.empty hdeclared
  have hall : blocks.Each doc.Files :=
    foldlM_preserves (fun m b m' hb hm hstep => each_addEnumBlock hb hm hstep) htypes hblocks
  have hincludes : declared.includes.Each fun name x => x.name = name := by
    refine foldlM_preserves (motive := fun s => s.includes.Each fun name x => x.name = name)
      (fun s e s' _ hs hstep => ?_) NameMap.Each.empty hdeclared
    rcases TypesSection.add_eq_ok hstep with rfl | ⟨x, rfl⟩ | ⟨name, rfl⟩ | ⟨t, -, -, rfl⟩
    · exact hs
    · exact hs.insert rfl
    · exact hs
    · exact hs
  have hboth : commands.commands.Each
        (fun name c => c.name = name ∧ ∃ e ∈ doc.commands, Command.ofElement e = .ok c) ∧
      commands.aliases.Each fun name a => a.name = name := by
    refine foldlM_preserves (motive := fun s => s.commands.Each
        (fun name c => c.name = name ∧ ∃ e ∈ doc.commands, Command.ofElement e = .ok c) ∧
      s.aliases.Each fun name a => a.name = name) (fun s e s' he hs hstep => ?_)
      ⟨NameMap.Each.empty, NameMap.Each.empty⟩ hcommands
    rcases CommandsSection.add_eq_ok hstep with rfl | ⟨a, rfl⟩ | ⟨c, hc, rfl⟩
    · exact hs
    · exact ⟨hs.1, hs.2.insert rfl⟩
    · exact ⟨hs.1.insert ⟨rfl, e, he, hc⟩, hs.2⟩
  exact {
    types := each_addNamedEnums hall declared.enumNames
    includes := hincludes
    commands := hboth.1
    commandAliases := hboth.2
    platforms := hplatforms
    coreVersions := hversions
    extensions := hextensions
    imageFormats := hformats
    spirvExtensions := hspirvExtensions
    spirvCapabilities := hspirvCapabilities }

/-- A document is accepted if its sections are, its contributions can be made and the
references hold at the end. -/
theorem ofDocument_eq_ok_iff : ofDocument doc = .ok r ↔
    ∃ s, ofSections doc = .ok s ∧ s.withContributions = .ok r ∧ r.checkReferences = .ok () := by
  simp only [ofDocument, bind_eq_ok_iff]
  constructor
  · rintro ⟨s, hs, r', hr', _, hcheck, hr⟩
    obtain rfl := Except.ok.inj hr
    exact ⟨s, hs, hr', hcheck⟩
  · rintro ⟨s, hs, hr, hcheck⟩
    exact ⟨s, hs, r, hr, (), hcheck, rfl⟩

theorem exists_document_of_load {text : String} (h : load text = .ok r) :
    ∃ doc, ofDocument doc = .ok r := by
  unfold load at h
  split at h
  · exact ⟨_, h⟩
  · cases h

end Registry
end VulkanFoundry
