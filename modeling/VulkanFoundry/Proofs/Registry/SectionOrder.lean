/-
# Sections in another order

What an element of a section declares is read from the element alone, and then filed
under its name. Whether it can be filed depends on whether the name is free, so two
declarations may be filed in either order: where one order succeeds so does the other,
and the same is filed at the end (`exchangeable_declareValue`). A section is thus as
good in any order of its elements. The enum blocks are no different, although they are
filed among the types and a block of constants declares several of them: a chain over
the blocks is the chain over all that they declare.

So documents with the same elements in their sections give the same registry
(`Registry.ofDocument_eq_ok_iff_of_rearranged`). When they are refused, which fault is
found first may depend on the order.

Key theorems: `Exchangeable.foldlM_perm`, `Reads.foldlM_perm`,
`Registry.ofSections_of_rearranged`.
-/
import Mathlib.Data.List.Perm.Basic
import VulkanFoundry.Proofs.Registry.Loading
import VulkanFoundry.Proofs.Registry.Sections

namespace VulkanFoundry

/-! ### Chains in another order -/

section chains

variable {ε α β δ : Type} {step : β → α → Except ε β} {read : α → Except ε (List δ)}
  {file : β → δ → Except ε β} {l l' : List α} {b c : β}

/-- Two steps that succeed one after the other succeed the other way around, and lead to
the same. -/
def Exchangeable (step : β → α → Except ε β) : Prop :=
  ∀ b b₁ b₂ a a', step b a = .ok b₁ → step b₁ a' = .ok b₂ →
    ∃ b₁', step b a' = .ok b₁' ∧ step b₁' a = .ok b₂

/-- A chain of exchangeable steps may be taken in any order. -/
theorem Exchangeable.foldlM_perm (hstep : Exchangeable step) (h : l.Perm l') :
    ∀ {b : β}, l.foldlM step b = .ok c → l'.foldlM step b = .ok c := by
  induction h with
  | nil => exact id
  | cons a _ ih =>
    intro b hl
    rw [List.foldlM_cons] at hl ⊢
    obtain ⟨b₁, hb₁, hrest⟩ := bind_eq_ok_iff.1 hl
    exact bind_eq_ok_iff.2 ⟨b₁, hb₁, ih hrest⟩
  | swap a a' l =>
    intro b hl
    simp only [List.foldlM_cons, bind_eq_ok_iff] at hl ⊢
    obtain ⟨b₁, hb₁, b₂, hb₂, hrest⟩ := hl
    obtain ⟨b₁', hb₁', hb₂'⟩ := hstep b b₁ b₂ a' a hb₁ hb₂
    exact ⟨b₁', hb₁', b₂, hb₂', hrest⟩
  | trans _ _ ih₁ ih₂ => exact fun hl => ih₂ (ih₁ hl)

/-- A step reads its element by itself and then files, one by one, what it has read. -/
def Reads (step : β → α → Except ε β) (read : α → Except ε (List δ))
    (file : β → δ → Except ε β) : Prop :=
  ∀ b a c, step b a = .ok c ↔ ∃ ds, read a = .ok ds ∧ ds.foldlM file b = .ok c

theorem Reads.of_eq (h : ∀ b a, step b a = read a >>= fun ds => ds.foldlM file b) :
    Reads step read file := by
  intro b a c
  rw [h, bind_eq_ok_iff]

theorem foldlM_one (f : β → δ → Except ε β) (b : β) (d : δ) : [d].foldlM f b = f b d := by
  rw [List.foldlM_cons]
  exact bind_pure _

/-- A chain of such steps reads all elements and files all that it has read. -/
theorem Reads.foldlM_eq_ok_iff (h : Reads step read file) :
    ∀ {l : List α} {b : β}, l.foldlM step b = .ok c ↔
      ∃ dss, l.mapM read = .ok dss ∧ dss.flatten.foldlM file b = .ok c
  | [], b => by
    constructor
    · exact fun hb => ⟨[], rfl, hb⟩
    · rintro ⟨dss, hdss, hb⟩
      obtain rfl := Except.ok.inj hdss
      exact hb
  | a :: l, b => by
    rw [List.foldlM_cons, bind_eq_ok_iff]
    constructor
    · rintro ⟨b₁, hb₁, hrest⟩
      obtain ⟨ds, hds, hfile⟩ := (h b a b₁).1 hb₁
      obtain ⟨dss, hdss, hfiles⟩ := h.foldlM_eq_ok_iff.1 hrest
      refine ⟨ds :: dss, mapM_eq_ok_iff.2 (.cons hds (mapM_eq_ok_iff.1 hdss)), ?_⟩
      rw [List.flatten_cons, List.foldlM_append]
      exact bind_eq_ok_iff.2 ⟨b₁, hfile, hfiles⟩
    · rintro ⟨dss, hdss, hfiles⟩
      obtain ⟨ds, dss', hds, hdss', rfl⟩ :=
        List.forall₂_cons_left_iff.1 (mapM_eq_ok_iff.1 hdss)
      rw [List.flatten_cons, List.foldlM_append] at hfiles
      obtain ⟨b₁, hfile, hrest⟩ := bind_eq_ok_iff.1 hfiles
      exact ⟨b₁, (h b a b₁).2 ⟨ds, hds, hfile⟩,
        h.foldlM_eq_ok_iff.2 ⟨dss', mapM_eq_ok_iff.2 hdss', hrest⟩⟩

/-- Steps that read their elements by themselves may be taken in any order if what they
read may be filed in any order. -/
theorem Reads.foldlM_perm (h : Reads step read file) (hfile : Exchangeable file)
    (hl : l.Perm l') (hc : l.foldlM step b = .ok c) : l'.foldlM step b = .ok c := by
  obtain ⟨dss, hdss, hfiles⟩ := h.foldlM_eq_ok_iff.1 hc
  obtain ⟨dss', hdss', hperm⟩ := List.perm_comp_forall₂ hl.symm (mapM_eq_ok_iff.1 hdss)
  exact h.foldlM_eq_ok_iff.2
    ⟨dss', mapM_eq_ok_iff.2 hdss', hfile.foldlM_perm hperm.symm.flatten hfiles⟩

end chains

/-! ### Declarations in another order -/

theorem NameMap.insert_comm {α : Type} (m : NameMap α) {name name' : String}
    (h : name ≠ name') (value value' : α) :
    (m.insert name value).insert name' value' = (m.insert name' value').insert name value := by
  refine NameMap.ext_get? fun other => ?_
  rw [get?_insert, get?_insert, get?_insert, get?_insert]
  by_cases hn : other = name
  · simp [hn, h]
  · simp [hn]

section declarations

variable {ε α : Type} {kind : String} {name : α → String}

def declareValue (kind : String) (name : α → String) (map : NameMap α) (value : α) :
    Except LoadError (NameMap α) :=
  declare kind map (name value) value

/-- Two names that can be declared in one order can be declared in the other. -/
theorem exchangeable_declareValue : Exchangeable (declareValue kind name) := by
  intro m m₁ m₂ v v' h h'
  obtain ⟨hfree, rfl⟩ := declare_eq_ok_iff.1 h
  obtain ⟨hfree', rfl⟩ := declare_eq_ok_iff.1 h'
  rw [NameMap.get?_insert] at hfree'
  have hne : name v' ≠ name v := fun heq => by
    rw [if_pos heq] at hfree'
    cases hfree'
  rw [if_neg hne] at hfree'
  refine ⟨_, declare_eq_ok_iff.2 ⟨hfree', rfl⟩, declare_eq_ok_iff.2 ⟨?_, ?_⟩⟩
  · rw [NameMap.get?_insert, if_neg hne.symm]
    exact hfree
  · exact NameMap.insert_comm m hne.symm v v'

theorem reads_declareElement {ofElement? : ε → Except LoadError (Option α)} :
    Reads (declareElement kind name ofElement?) (fun e => (ofElement? e).map Option.toList)
      (declareValue kind name) := by
  refine Reads.of_eq fun map e => ?_
  unfold declareElement
  cases ofElement? e with
  | error fault => rfl
  | ok o =>
    cases o with
    | none => rfl
    | some v => exact (foldlM_one (declareValue kind name) map v).symm

/-- A section gives the same map in any order of its elements. -/
theorem declareAll_perm {ofElement? : ε → Except LoadError (Option α)} {elements elements' : List ε}
    {map : NameMap α} (hl : elements.Perm elements')
    (h : declareAll kind name ofElement? elements = .ok map) :
    declareAll kind name ofElement? elements' = .ok map := by
  rw [declareAll_eq_foldlM] at h ⊢
  exact reads_declareElement.foldlM_perm exchangeable_declareValue hl h

end declarations

/-! ### Types and commands -/

namespace TypesSection

def file (s : TypesSection) : Declared → Except LoadError TypesSection
  | .header h => (declareValue "include" (·.name) s.includes h).map ({ s with includes := · })
  | .enumName name => .ok { s with enumNames := s.enumNames.add name }
  | .type t => (declareValue "type" (·.name) s.types t).map ({ s with types := · })

def read (e : TypeElement) : Except LoadError (List Declared) :=
  if Attribute.supportsVulkan e.api then (Declared.ofElement e).map ([·]) else .ok []

theorem add_of_supportsVulkan (s : TypesSection) {e : TypeElement}
    (h : Attribute.supportsVulkan e.api = true) : s.add e = Declared.ofElement e >>= s.file := by
  rw [add, if_pos h]
  refine congrArg (Declared.ofElement e >>= ·) (funext fun d => ?_)
  cases d with
  | header x => exact (map_eq_bind _ _).symm
  | enumName name => rfl
  | type t => exact (map_eq_bind _ _).symm

theorem add_of_not_supportsVulkan (s : TypesSection) {e : TypeElement}
    (h : ¬ Attribute.supportsVulkan e.api = true) : s.add e = .ok s := by
  rw [add, if_neg h]

theorem reads_add : Reads add read file := by
  refine Reads.of_eq fun s e => ?_
  unfold read
  split
  · rename_i h
    rw [add_of_supportsVulkan s h]
    cases Declared.ofElement e with
    | error fault => rfl
    | ok d => exact (foldlM_one file s d).symm
  · rename_i h
    exact add_of_not_supportsVulkan s h

theorem add_add_comm (names : NameSet) (a b : String) :
    (names.add a).add b = (names.add b).add a := by
  by_cases h : a = b
  · rw [h]
  · exact NameMap.insert_comm names h () ()

theorem exchangeable_file : Exchangeable file := by
  intro s s₁ s₂ d d' h h'
  cases d with
  | header x =>
    obtain ⟨m, hm, rfl⟩ := map_eq_ok_iff.1 h
    cases d' with
    | header y =>
      obtain ⟨n, hn, rfl⟩ := map_eq_ok_iff.1 h'
      obtain ⟨m', hm', hn'⟩ := exchangeable_declareValue _ _ _ _ _ hm hn
      exact ⟨_, map_eq_ok_iff.2 ⟨m', hm', rfl⟩, map_eq_ok_iff.2 ⟨n, hn', rfl⟩⟩
    | enumName name =>
      obtain rfl := Except.ok.inj h'
      exact ⟨_, rfl, map_eq_ok_iff.2 ⟨m, hm, rfl⟩⟩
    | type t =>
      obtain ⟨n, hn, rfl⟩ := map_eq_ok_iff.1 h'
      exact ⟨_, map_eq_ok_iff.2 ⟨n, hn, rfl⟩, map_eq_ok_iff.2 ⟨m, hm, rfl⟩⟩
  | enumName name =>
    obtain rfl := Except.ok.inj h
    cases d' with
    | enumName name' =>
      obtain rfl := Except.ok.inj h'
      exact ⟨_, rfl, congrArg Except.ok (by rw [add_add_comm])⟩
    | header y =>
      obtain ⟨n, hn, rfl⟩ := map_eq_ok_iff.1 h'
      exact ⟨_, map_eq_ok_iff.2 ⟨n, hn, rfl⟩, rfl⟩
    | type t =>
      obtain ⟨n, hn, rfl⟩ := map_eq_ok_iff.1 h'
      exact ⟨_, map_eq_ok_iff.2 ⟨n, hn, rfl⟩, rfl⟩
  | type t =>
    obtain ⟨m, hm, rfl⟩ := map_eq_ok_iff.1 h
    cases d' with
    | type u =>
      obtain ⟨n, hn, rfl⟩ := map_eq_ok_iff.1 h'
      obtain ⟨m', hm', hn'⟩ := exchangeable_declareValue _ _ _ _ _ hm hn
      exact ⟨_, map_eq_ok_iff.2 ⟨m', hm', rfl⟩, map_eq_ok_iff.2 ⟨n, hn', rfl⟩⟩
    | enumName name =>
      obtain rfl := Except.ok.inj h'
      exact ⟨_, rfl, map_eq_ok_iff.2 ⟨m, hm, rfl⟩⟩
    | header x =>
      obtain ⟨n, hn, rfl⟩ := map_eq_ok_iff.1 h'
      exact ⟨_, map_eq_ok_iff.2 ⟨n, hn, rfl⟩, map_eq_ok_iff.2 ⟨m, hm, rfl⟩⟩

end TypesSection

namespace CommandsSection

def file (s : CommandsSection) : Alias ⊕ Command → Except LoadError CommandsSection
  | .inl a => (declareValue "command" (·.name) s.aliases a).map ({ s with aliases := · })
  | .inr c => (declareValue "command" (·.name) s.commands c).map ({ s with commands := · })

def read (e : CommandElement) : Except LoadError (List (Alias ⊕ Command)) :=
  if Attribute.supportsVulkan e.api then
    match e.target with
    | some target => (Attribute.required "name" "command alias" e.name).map fun name =>
      [.inl { name, target }]
    | none => (Command.ofElement e).map fun c => [.inr c]
  else .ok []

theorem reads_add : Reads add read file := by
  refine Reads.of_eq fun s e => ?_
  unfold add read
  split
  · cases e.target with
    | some target =>
      cases Attribute.required "name" "command alias" e.name with
      | error fault => rfl
      | ok name =>
        exact (map_eq_bind _ _).symm.trans (foldlM_one file s (.inl { name, target })).symm
    | none =>
      cases Command.ofElement e with
      | error fault => rfl
      | ok c => exact (map_eq_bind _ _).symm.trans (foldlM_one file s (.inr c)).symm
  · rfl

/-- Commands and aliases do not get into each other's way. -/
theorem exchangeable_file : Exchangeable file := by
  intro s s₁ s₂ d d' h h'
  cases d with
  | inl a =>
    obtain ⟨m, hm, rfl⟩ := map_eq_ok_iff.1 h
    cases d' with
    | inl b =>
      obtain ⟨n, hn, rfl⟩ := map_eq_ok_iff.1 h'
      obtain ⟨m', hm', hn'⟩ := exchangeable_declareValue _ _ _ _ _ hm hn
      exact ⟨_, map_eq_ok_iff.2 ⟨m', hm', rfl⟩, map_eq_ok_iff.2 ⟨n, hn', rfl⟩⟩
    | inr c =>
      obtain ⟨n, hn, rfl⟩ := map_eq_ok_iff.1 h'
      exact ⟨_, map_eq_ok_iff.2 ⟨n, hn, rfl⟩, map_eq_ok_iff.2 ⟨m, hm, rfl⟩⟩
  | inr c =>
    obtain ⟨m, hm, rfl⟩ := map_eq_ok_iff.1 h
    cases d' with
    | inl b =>
      obtain ⟨n, hn, rfl⟩ := map_eq_ok_iff.1 h'
      exact ⟨_, map_eq_ok_iff.2 ⟨n, hn, rfl⟩, map_eq_ok_iff.2 ⟨m, hm, rfl⟩⟩
    | inr c' =>
      obtain ⟨n, hn, rfl⟩ := map_eq_ok_iff.1 h'
      obtain ⟨m', hm', hn'⟩ := exchangeable_declareValue _ _ _ _ _ hm hn
      exact ⟨_, map_eq_ok_iff.2 ⟨m', hm', rfl⟩, map_eq_ok_iff.2 ⟨n, hn', rfl⟩⟩

end CommandsSection

/-! ### Enum blocks -/

def declareType : NameMap RegistryType → RegistryType → Except LoadError (NameMap RegistryType) :=
  declareValue "type" RegistryType.name

def declareConstant (types : NameMap RegistryType) (e : EnumElement) :
    Except LoadError (NameMap RegistryType) := do
  let d ← Define.ofConstant e
  declare "type" types d.name (.define d)

namespace EnumBlock

def readConstant (e : EnumElement) : Except LoadError (List RegistryType) :=
  (Define.ofConstant e).map fun d => [.define d]

def read (b : EnumBlock) : Except LoadError (List RegistryType) := do
  let name ← Attribute.required "name" "enums" b.name
  if b.holdsConstants name then (b.vulkanEntries.mapM readConstant).map List.flatten
  else (EnumType.ofBlock name b).map fun e => [.enum e]

theorem reads_declareConstant : Reads declareConstant readConstant declareType := by
  refine Reads.of_eq fun types e => ?_
  unfold declareConstant readConstant
  cases Define.ofConstant e with
  | error fault => rfl
  | ok d => exact (foldlM_one declareType types (.define d)).symm

-- A block of constants files each constant before it reads the next one, so it is only
-- for blocks that are accepted that reading may be done first.
theorem reads_addEnumBlock : Reads addEnumBlock read declareType := by
  intro types b types'
  unfold addEnumBlock read
  simp only [bind_eq_ok_iff]
  cases Attribute.required "name" "enums" b.name with
  | error fault => simp
  | ok name =>
    simp only [Except.ok.injEq, exists_eq_left']
    split
    · show b.vulkanEntries.foldlM declareConstant types = .ok types' ↔ _
      rw [reads_declareConstant.foldlM_eq_ok_iff]
      simp only [map_eq_ok_iff]
      constructor
      · rintro ⟨dss, hdss, hfiles⟩
        exact ⟨_, ⟨dss, hdss, rfl⟩, hfiles⟩
      · rintro ⟨ds, ⟨dss, hdss, rfl⟩, hfiles⟩
        exact ⟨dss, hdss, hfiles⟩
    · simp only [bind_eq_ok_iff, map_eq_ok_iff]
      constructor
      · rintro ⟨e, he, h⟩
        exact ⟨_, ⟨e, he, rfl⟩, (foldlM_one declareType types _).trans h⟩
      · rintro ⟨ds, ⟨e, he, rfl⟩, h⟩
        exact ⟨e, he, (foldlM_one declareType types _).symm.trans h⟩

end EnumBlock

/-! ### The document -/

/-- The two documents have the same elements in their sections, in any order. -/
structure Document.Rearranged (doc doc' : Document) : Prop where
  platforms : doc.platforms.Perm doc'.platforms
  types : doc.types.Perm doc'.types
  enumBlocks : doc.enumBlocks.Perm doc'.enumBlocks
  commands : doc.commands.Perm doc'.commands
  versions : doc.versions.Perm doc'.versions
  extensions : doc.extensions.Perm doc'.extensions
  formats : doc.formats.Perm doc'.formats
  spirvExtensions : doc.spirvExtensions.Perm doc'.spirvExtensions
  spirvCapabilities : doc.spirvCapabilities.Perm doc'.spirvCapabilities

theorem Document.Rearranged.symm {doc doc' : Document} (h : doc.Rearranged doc') :
    doc'.Rearranged doc where
  platforms := h.platforms.symm
  types := h.types.symm
  enumBlocks := h.enumBlocks.symm
  commands := h.commands.symm
  versions := h.versions.symm
  extensions := h.extensions.symm
  formats := h.formats.symm
  spirvExtensions := h.spirvExtensions.symm
  spirvCapabilities := h.spirvCapabilities.symm

def Document.reversed (doc : Document) : Document where
  platforms := doc.platforms.reverse
  types := doc.types.reverse
  enumBlocks := doc.enumBlocks.reverse
  commands := doc.commands.reverse
  versions := doc.versions.reverse
  extensions := doc.extensions.reverse
  formats := doc.formats.reverse
  spirvExtensions := doc.spirvExtensions.reverse
  spirvCapabilities := doc.spirvCapabilities.reverse

theorem Document.rearranged_reversed (doc : Document) : doc.Rearranged doc.reversed where
  platforms := (List.reverse_perm _).symm
  types := (List.reverse_perm _).symm
  enumBlocks := (List.reverse_perm _).symm
  commands := (List.reverse_perm _).symm
  versions := (List.reverse_perm _).symm
  extensions := (List.reverse_perm _).symm
  formats := (List.reverse_perm _).symm
  spirvExtensions := (List.reverse_perm _).symm
  spirvCapabilities := (List.reverse_perm _).symm

namespace Registry

variable {doc doc' : Document} {r : Registry}

theorem ofSections_of_rearranged (h : doc.Rearranged doc') (hs : ofSections doc = .ok r) :
    ofSections doc' = .ok r := by
  obtain ⟨platforms, hplatforms, hs⟩ := bind_eq_ok_iff.1 hs
  obtain ⟨declared, hdeclared, hs⟩ := bind_eq_ok_iff.1 hs
  obtain ⟨blocks, hblocks, hs⟩ := bind_eq_ok_iff.1 hs
  obtain ⟨commands, hcommands, hs⟩ := bind_eq_ok_iff.1 hs
  obtain ⟨versions, hversions, hs⟩ := bind_eq_ok_iff.1 hs
  obtain ⟨extensions, hextensions, hs⟩ := bind_eq_ok_iff.1 hs
  obtain ⟨formats, hformats, hs⟩ := bind_eq_ok_iff.1 hs
  obtain ⟨spirvExtensions, hspirvExtensions, hs⟩ := bind_eq_ok_iff.1 hs
  obtain ⟨spirvCapabilities, hspirvCapabilities, hs⟩ := bind_eq_ok_iff.1 hs
  have hdeclared' : doc'.types.foldlM TypesSection.add {} = .ok declared :=
    TypesSection.reads_add.foldlM_perm TypesSection.exchangeable_file h.types hdeclared
  have hblocks' : doc'.enumBlocks.foldlM addEnumBlock declared.types = .ok blocks :=
    EnumBlock.reads_addEnumBlock.foldlM_perm exchangeable_declareValue h.enumBlocks hblocks
  have hcommands' : doc'.commands.foldlM CommandsSection.add {} = .ok commands :=
    CommandsSection.reads_add.foldlM_perm CommandsSection.exchangeable_file h.commands hcommands
  exact bind_eq_ok_iff.2 ⟨platforms, declareAll_perm h.platforms hplatforms,
    bind_eq_ok_iff.2 ⟨declared, hdeclared', bind_eq_ok_iff.2 ⟨blocks, hblocks',
    bind_eq_ok_iff.2 ⟨commands, hcommands',
    bind_eq_ok_iff.2 ⟨versions, declareAll_perm h.versions hversions,
    bind_eq_ok_iff.2 ⟨extensions, declareAll_perm h.extensions hextensions,
    bind_eq_ok_iff.2 ⟨formats, declareAll_perm h.formats hformats,
    bind_eq_ok_iff.2 ⟨spirvExtensions, declareAll_perm h.spirvExtensions hspirvExtensions,
    bind_eq_ok_iff.2 ⟨spirvCapabilities, declareAll_perm h.spirvCapabilities hspirvCapabilities,
    hs⟩⟩⟩⟩⟩⟩⟩⟩⟩

/-- **The order of a section does not matter.** Of two documents with the same elements
in their sections both are accepted or none is, and they give the same registry. -/
theorem ofDocument_eq_ok_iff_of_rearranged (h : doc.Rearranged doc') :
    ofDocument doc = .ok r ↔ ofDocument doc' = .ok r := by
  rw [ofDocument_eq_ok_iff, ofDocument_eq_ok_iff]
  constructor
  · rintro ⟨s, hs, hrest⟩
    exact ⟨s, ofSections_of_rearranged h hs, hrest⟩
  · rintro ⟨s, hs, hrest⟩
    exact ⟨s, ofSections_of_rearranged h.symm hs, hrest⟩

/-- `enumDocument` gives the same registry when each of its sections is read from its end. -/
theorem ofDocument_reversed_enumDocument :
    enumDocument.Rearranged enumDocument.reversed ∧ enumDocument.reversed ≠ enumDocument ∧
      (ofDocument enumDocument = .ok enumRegistry ↔
        ofDocument enumDocument.reversed = .ok enumRegistry) ∧
      ofDocument enumDocument.reversed = .ok enumRegistry := by
  have hperm : enumDocument.Rearranged enumDocument.reversed := enumDocument.rearranged_reversed
  have hiff := ofDocument_eq_ok_iff_of_rearranged (r := enumRegistry) hperm
  exact ⟨hperm, by decide, hiff, hiff.1 ofDocument_enumDocument⟩

end Registry
end VulkanFoundry
