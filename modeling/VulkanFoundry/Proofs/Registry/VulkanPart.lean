/-
# Documents without what does not apply to Vulkan

A document describes several APIs at once. Types, members, parameters, commands,
versions, requirements, required entries and enum entries say for which of them they
stand, and an extension says for which it is supported. What does not stand for Vulkan
is passed over before anything in it is looked at, so a document without it gives the
same registry, or is refused for the same reason (`Registry.ofDocument_vulkanPart`).
The names of versions and extensions are the exception: they are demanded of all of
them.

The removal goes down to the leaves, `Document.vulkanPart`. Each reader of a section
gives the same for an element and for its Vulkan part, and the chain of a section
passes over the elements that are left out.

Key theorems: `foldlM_map_filter`, `Declared.ofElement_vulkanPart`,
`Registry.ofSections_vulkanPart`.
-/
import VulkanFoundry.Proofs.Registry.Loading
import VulkanFoundry.Proofs.Registry.Sections

namespace VulkanFoundry

/-! ### What is left of a document -/

/-- Whether a piece of a type element applies to Vulkan. Only members and parameters
can be left out. -/
def TypePart.appliesToVulkan : TypePart → Bool
  | .member m => Attribute.supportsVulkan m.api
  | .param p => Attribute.supportsVulkan p.api
  | .text _ | .type _ | .name _ | .comment _ | .proto _ => true

/-- A type element with the members and parameters that apply to Vulkan. -/
def TypeElement.vulkanPart (e : TypeElement) : TypeElement :=
  { e with content := e.content.filter TypePart.appliesToVulkan }

def EnumBlock.vulkanPart (b : EnumBlock) : EnumBlock :=
  { b with entries := b.entries.filter fun e => Attribute.supportsVulkan e.api }

def CommandElement.vulkanPart (e : CommandElement) : CommandElement :=
  { e with params := e.params.filter fun p => Attribute.supportsVulkan p.api }

/-- Whether a required entry applies to Vulkan; a comment does. -/
def RequireEntry.appliesToVulkan : RequireEntry → Bool
  | .type e | .command e | .feature e => Attribute.supportsVulkan e.api
  | .enum e => Attribute.supportsVulkan e.api
  | .comment _ => true

def RequireElement.vulkanPart (b : RequireElement) : RequireElement :=
  { b with entries := b.entries.filter RequireEntry.appliesToVulkan }

/-- The requirements that apply to Vulkan, each without what does not. -/
def requirementParts (bs : List RequireElement) : List RequireElement :=
  (bs.filter fun b => Attribute.supportsVulkan b.api).map RequireElement.vulkanPart

def VersionElement.vulkanPart (e : VersionElement) : VersionElement :=
  { e with requirements := requirementParts e.requirements }

def ExtensionElement.vulkanPart (e : ExtensionElement) : ExtensionElement :=
  { e with requirements := requirementParts e.requirements }

/-- A document without what does not apply to Vulkan. -/
def Document.vulkanPart (doc : Document) : Document :=
  { doc with
    types := (doc.types.filter fun e => Attribute.supportsVulkan e.api).map
      TypeElement.vulkanPart
    enumBlocks := doc.enumBlocks.map EnumBlock.vulkanPart
    commands := (doc.commands.filter fun e => Attribute.supportsVulkan e.api).map
      CommandElement.vulkanPart
    versions := (doc.versions.filter fun e => Attribute.supportsVulkan e.api).map
      VersionElement.vulkanPart
    extensions := (doc.extensions.filter ExtensionElement.isSupported).map
      ExtensionElement.vulkanPart }

/-! ### Chains that pass over elements -/

/-- A chain may leave out the elements that its step passes over, and may see each of
the others in part if the step gives the same for the part. -/
theorem foldlM_map_filter {ε α β : Type} {step : β → α → Except ε β} {keep : α → Bool}
    {part : α → α} (hpart : ∀ b a, step b (part a) = step b a) :
    ∀ {l : List α}, (∀ a ∈ l, keep a = false → ∀ b, step b a = .ok b) →
      ∀ b, ((l.filter keep).map part).foldlM step b = l.foldlM step b
  | [], _, _ => rfl
  | a :: l, hskip, b => by
    have hrest : ∀ b, ((l.filter keep).map part).foldlM step b = l.foldlM step b :=
      foldlM_map_filter hpart fun x hx => hskip x (List.mem_cons_of_mem a hx)
    rw [List.foldlM_cons]
    by_cases hk : keep a = true
    · rw [List.filter_cons_of_pos hk, List.map_cons, List.foldlM_cons, hpart]
      exact congrArg _ (funext hrest)
    · have ha : step b a = .ok b := hskip a List.mem_cons_self (Bool.eq_false_iff.2 hk) b
      rw [List.filter_cons_of_neg hk, hrest, ha]
      rfl

theorem filter_filter_self {α : Type} (keep : α → Bool) (l : List α) :
    (l.filter keep).filter keep = l.filter keep := by
  rw [List.filter_filter]
  simp only [Bool.and_self]

/-! ### Types -/

/-- What a reader of pieces finds is left where it finds nothing in the others. -/
theorem filterMap_filter_appliesToVulkan {α : Type} {read : TypePart → Option α}
    (h : ∀ p, p.appliesToVulkan = false → read p = none) (parts : List TypePart) :
    (parts.filter TypePart.appliesToVulkan).filterMap read = parts.filterMap read := by
  rw [List.filterMap_filter]
  refine List.filterMap_congr fun p _ => ?_
  cases hp : p.appliesToVulkan with
  | false => rw [h p hp]; rfl
  | true => rfl

namespace TypeElement

theorem fragments_vulkanPart (e : TypeElement) : e.vulkanPart.fragments = e.fragments := by
  refine filterMap_filter_appliesToVulkan (fun p hp => ?_) e.content
  cases p with
  | member m => rfl
  | param p => rfl
  | _ => cases hp

theorem memberElements_vulkanPart (e : TypeElement) :
    e.vulkanPart.memberElements = e.memberElements := by
  refine filterMap_filter_appliesToVulkan (fun p hp => ?_) e.content
  cases p with
  | member m => exact if_neg (Bool.eq_false_iff.1 hp)
  | param p => rfl
  | _ => cases hp

theorem paramElements_vulkanPart (e : TypeElement) :
    e.vulkanPart.paramElements = e.paramElements := by
  refine filterMap_filter_appliesToVulkan (fun p hp => ?_) e.content
  cases p with
  | member m => rfl
  | param p => exact if_neg (Bool.eq_false_iff.1 hp)
  | _ => cases hp

theorem proto?_vulkanPart (e : TypeElement) : e.vulkanPart.proto? = e.proto? := by
  unfold proto?
  rw [← List.head?_filterMap, ← List.head?_filterMap]
  refine congrArg List.head? (filterMap_filter_appliesToVulkan (fun p hp => ?_) e.content)
  cases p with
  | member m => rfl
  | param p => rfl
  | _ => cases hp

theorem members_vulkanPart (e : TypeElement) (owner : String) :
    e.vulkanPart.members owner = e.members owner := by
  rw [members, memberElements_vulkanPart, members]

end TypeElement

theorem Declared.ofElement_vulkanPart (e : TypeElement) :
    Declared.ofElement e.vulkanPart = Declared.ofElement e := by
  unfold Declared.ofElement IncludeType.ofElement Define.ofElement BaseType.ofElement
    BitmaskType.ofElement HandleType.ofElement StructType.ofElement UnionType.ofElement
    FunctionPointerType.ofElement
  simp only [e.fragments_vulkanPart, e.members_vulkanPart, e.paramElements_vulkanPart,
    e.proto?_vulkanPart]
  rfl

theorem TypesSection.add_vulkanPart (s : TypesSection) (e : TypeElement) :
    s.add e.vulkanPart = s.add e := by
  rw [TypesSection.add, Declared.ofElement_vulkanPart]
  rfl

/-! ### Enum blocks and commands -/

theorem addEnumBlock_vulkanPart (types : NameMap RegistryType) (b : EnumBlock) :
    addEnumBlock types b.vulkanPart = addEnumBlock types b := by
  have hentries : b.vulkanPart.vulkanEntries = b.vulkanEntries :=
    filter_filter_self ..
  have hblock : ∀ name, EnumType.ofBlock name b.vulkanPart = EnumType.ofBlock name b := by
    intro name
    rw [EnumType.ofBlock, hentries]
    rfl
  unfold addEnumBlock
  simp only [hentries, hblock]
  rfl

theorem Command.ofElement_vulkanPart (e : CommandElement) :
    Command.ofElement e.vulkanPart = Command.ofElement e := by
  have hparams : e.vulkanPart.vulkanParams = e.vulkanParams :=
    filter_filter_self ..
  unfold Command.ofElement
  simp only [hparams]
  rfl

theorem CommandsSection.add_vulkanPart (s : CommandsSection) (e : CommandElement) :
    s.add e.vulkanPart = s.add e := by
  unfold CommandsSection.add
  rw [Command.ofElement_vulkanPart]
  rfl

/-! ### Versions and extensions -/

theorem RequireElement.features_vulkanPart (b : RequireElement) (owner : String) :
    b.vulkanPart.features owner = b.features owner := by
  have hcounts : ∀ x : RequireEntry, (x.counts && x.appliesToVulkan) = x.counts := by
    intro x
    cases x with
    | comment s => rfl
    | _ => exact Bool.and_self _
  have hentries : b.vulkanPart.entries.filter RequireEntry.counts =
      b.entries.filter RequireEntry.counts := by
    show (b.entries.filter RequireEntry.appliesToVulkan).filter RequireEntry.counts = _
    rw [List.filter_filter]
    exact List.filter_congr fun x _ => hcounts x
  rw [features, hentries]
  rfl

theorem Requirement.ofElement_vulkanPart (owner : String) (b : RequireElement) :
    Requirement.ofElement owner b.vulkanPart = Requirement.ofElement owner b := by
  rw [Requirement.ofElement, RequireElement.features_vulkanPart]
  rfl

/-- The requirements read the same in part. -/
theorem mapM_requirementParts (owner : String) (bs : List RequireElement) :
    (vulkanRequirements (requirementParts bs)).mapM (Requirement.ofElement owner) =
      (vulkanRequirements bs).mapM (Requirement.ofElement owner) := by
  have hparts : vulkanRequirements (requirementParts bs) =
      (vulkanRequirements bs).map RequireElement.vulkanPart := by
    rw [vulkanRequirements, requirementParts, List.filter_map]
    exact congrArg _ (filter_filter_self ..)
  rw [hparts, List.mapM_map]
  exact congrArg (List.mapM · _) (funext (Requirement.ofElement_vulkanPart owner))

theorem CoreVersion.ofElement?_vulkanPart (e : VersionElement) :
    CoreVersion.ofElement? e.vulkanPart = CoreVersion.ofElement? e := by
  unfold CoreVersion.ofElement? VersionElement.vulkanPart
  simp only [mapM_requirementParts]

theorem Extension.ofElement?_vulkanPart (e : ExtensionElement) :
    Extension.ofElement? e.vulkanPart = Extension.ofElement? e := by
  unfold Extension.ofElement? ExtensionElement.vulkanPart ExtensionElement.isSupported
  simp only [mapM_requirementParts]

/-- A version that does not apply to Vulkan is read as nothing, if it has a name. -/
theorem CoreVersion.ofElement?_of_foreign {e : VersionElement} (hname : e.name.isSome = true)
    (hapi : Attribute.supportsVulkan e.api = false) : CoreVersion.ofElement? e = .ok none := by
  obtain ⟨name, hname⟩ := Option.isSome_iff_exists.1 hname
  unfold CoreVersion.ofElement?
  rw [hname, hapi]
  rfl

/-- An extension that is not supported is read as nothing, if it has a name. -/
theorem Extension.ofElement?_of_unsupported {e : ExtensionElement} (hname : e.name.isSome = true)
    (h : e.isSupported = false) : Extension.ofElement? e = .ok none := by
  obtain ⟨name, hname⟩ := Option.isSome_iff_exists.1 hname
  unfold Extension.ofElement?
  rw [hname, h]
  rfl

/-- A section in which elements are left out that declare nothing. -/
theorem declareAll_map_filter {ε α : Type} {kind : String} {name : α → String}
    {ofElement? : ε → Except LoadError (Option α)} {keep : ε → Bool} {part : ε → ε}
    {elements : List ε} (hpart : ∀ e, ofElement? (part e) = ofElement? e)
    (hskip : ∀ e ∈ elements, keep e = false → ofElement? e = .ok none) :
    declareAll kind name ofElement? ((elements.filter keep).map part) =
      declareAll kind name ofElement? elements := by
  rw [declareAll_eq_foldlM, declareAll_eq_foldlM]
  refine foldlM_map_filter (fun map e => ?_) (fun e he hk map => ?_) _
  · rw [declareElement, hpart]
    rfl
  · rw [declareElement, hskip e he hk]
    rfl

/-! ### The document -/

namespace Registry

/-- The sections of a document declare what those of its Vulkan part declare. -/
theorem ofSections_vulkanPart {doc : Document}
    (hversions : ∀ e ∈ doc.versions, e.name.isSome = true)
    (hextensions : ∀ e ∈ doc.extensions, e.name.isSome = true) :
    ofSections doc.vulkanPart = ofSections doc := by
  have htypes : doc.vulkanPart.types.foldlM TypesSection.add {} =
      doc.types.foldlM TypesSection.add {} :=
    foldlM_map_filter TypesSection.add_vulkanPart
      (fun e _ he s => if_neg (Bool.eq_false_iff.1 he)) _
  have hblocks : ∀ types, doc.vulkanPart.enumBlocks.foldlM addEnumBlock types =
      doc.enumBlocks.foldlM addEnumBlock types := by
    intro types
    show (doc.enumBlocks.map EnumBlock.vulkanPart).foldlM addEnumBlock types = _
    rw [List.foldlM_map]
    simp only [addEnumBlock_vulkanPart]
  have hcommands : doc.vulkanPart.commands.foldlM CommandsSection.add {} =
      doc.commands.foldlM CommandsSection.add {} :=
    foldlM_map_filter CommandsSection.add_vulkanPart
      (fun e _ he s => if_neg (Bool.eq_false_iff.1 he)) _
  have hcore : declareAll "feature" (·.name) CoreVersion.ofElement? doc.vulkanPart.versions =
      declareAll "feature" (·.name) CoreVersion.ofElement? doc.versions :=
    declareAll_map_filter CoreVersion.ofElement?_vulkanPart
      fun e he => CoreVersion.ofElement?_of_foreign (hversions e he)
  have hext : declareAll "extension" (·.name) Extension.ofElement? doc.vulkanPart.extensions =
      declareAll "extension" (·.name) Extension.ofElement? doc.extensions :=
    declareAll_map_filter Extension.ofElement?_vulkanPart
      fun e he => Extension.ofElement?_of_unsupported (hextensions e he)
  unfold ofSections
  simp only [htypes, hblocks, hcommands, hcore, hext]
  rfl

/-- **What does not apply to Vulkan does not matter.** A document in which all versions
and extensions are named and the document without what does not apply to Vulkan give
the same registry, or are refused for the same reason. -/
theorem ofDocument_vulkanPart {doc : Document}
    (hversions : ∀ e ∈ doc.versions, e.name.isSome = true)
    (hextensions : ∀ e ∈ doc.extensions, e.name.isSome = true) :
    ofDocument doc.vulkanPart = ofDocument doc := by
  rw [ofDocument, ofSections_vulkanPart hversions hextensions]
  rfl

/-! ### A document with parts for another API -/

/-- A list of APIs that Vulkan is not on. -/
def otherApi : Option String := some "vulkansc,vulkanbase"

/-- A requirement in front of which, and in front of whose entries, others stand that
are for another API and would be refused. -/
def amongOthers (bs : List RequireElement) : List RequireElement :=
  { api := otherApi, entries := [.command {}] } ::
    bs.map fun b => { b with entries := .enum { api := otherApi } :: .type { api := otherApi } ::
      b.entries }

/-- The document `enumDocument` among parts that are not for Vulkan. None of them would
be accepted if it was. -/
def mixedDocument : Document where
  types := { category := some "none", api := otherApi } ::
    enumDocument.types.map fun e => { e with content := .member { api := otherApi } :: e.content }
  enumBlocks := enumDocument.enumBlocks.map fun b =>
    { b with entries := { api := otherApi } :: b.entries }
  commands := [{ api := otherApi }]
  versions := { name := some "VKSC_VERSION_1_0", api := otherApi } ::
    enumDocument.versions.map fun e => { e with requirements := amongOthers e.requirements }
  extensions := { name := some "VK_KHR_red", supported := some "disabled" } ::
    { name := some "VK_KHR_rose", supported := otherApi } ::
    enumDocument.extensions.map fun e => { e with requirements := amongOthers e.requirements }

/-- The parts for another API leave the registry of `enumDocument` as it is. -/
theorem ofDocument_mixedDocument :
    (∀ e ∈ mixedDocument.versions, e.name.isSome = true) ∧
      (∀ e ∈ mixedDocument.extensions, e.name.isSome = true) ∧
      mixedDocument.vulkanPart = enumDocument ∧
      ofDocument mixedDocument.vulkanPart = ofDocument mixedDocument ∧
      ofDocument mixedDocument = .ok enumRegistry := by
  have hversions : ∀ e ∈ mixedDocument.versions, e.name.isSome = true := by decide +kernel
  have hextensions : ∀ e ∈ mixedDocument.extensions, e.name.isSome = true := by decide +kernel
  have hpart : mixedDocument.vulkanPart = enumDocument := by decide +kernel
  have hsame : ofDocument mixedDocument.vulkanPart = ofDocument mixedDocument :=
    ofDocument_vulkanPart hversions hextensions
  refine ⟨hversions, hextensions, hpart, hsame, ?_⟩
  rw [← hsame, hpart]
  exact ofDocument_enumDocument

end Registry
end VulkanFoundry
