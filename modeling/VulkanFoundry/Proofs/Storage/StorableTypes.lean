/-
# Which types can be stored

A type is read by its atoms without `const` and `struct`. If they are a name and stars
behind it, at most two, the name and the number of stars say how values of the type are
stored, together with what the name denotes in the registry; types of any other form are
not stored. A name has to denote a type that has values, which an alias of an alias and a
constant have not. Behind a pointer `char` and `void` need not be declared, and `void` has
no values by itself. An array of fixed size has values for its elements and no pointers.

These conditions decide whether a member is stored (`Registry.exists_storedType?_iff`), and
nothing else has a part in how it is (`Registry.storedType?_congr`).

Key theorems: `TypeShape.ofAtoms?_eq_some_iff`, `Registry.exists_storedShape?_iff`,
`Registry.storeAs_ok_iff_storable`.
-/
import VulkanFoundry.Proofs.Factory.Members

namespace VulkanFoundry

variable {r r' : Registry} {shape shape' : TypeShape} {base name name' type type' : String}
  {sizes : List ArraySize} {t : StoredType}

/-! ### The shape of a type -/

/-- The atoms of a type but `const` and `struct`. -/
def TypeText.essentialAtoms (type : String) : List Atom :=
  (atoms type.toList).filter fun a => !a.isQualifier

namespace TypeShape

/-- Apart from qualifiers the type is the base and a star for each pointer level. The
base may be any atom. -/
def IsOf (shape : TypeShape) (type : String) : Prop :=
  ∃ a : Atom, a.text = shape.base ∧
    TypeText.essentialAtoms type = a :: List.replicate shape.pointers .star

theorem ofAtoms?_eq_some_iff :
    ofAtoms? (TypeText.atoms type.toList) = some shape ↔ shape.IsOf type := by
  unfold ofAtoms? IsOf TypeText.essentialAtoms
  cases (TypeText.atoms type.toList).filter fun a => !a.isQualifier with
  | nil => simp
  | cons a stars =>
    have hstars : stars.all (· = .star) = true ↔ stars = List.replicate stars.length .star := by
      simp [List.eq_replicate_iff]
    simp only [hstars]
    constructor
    · intro h
      split at h
      · rename_i hall
        obtain rfl := Option.some.inj h
        exact ⟨a, rfl, congrArg (a :: ·) hall⟩
      · cases h
    · rintro ⟨b, hb, heq⟩
      obtain ⟨rfl, rfl⟩ := List.cons.inj heq
      rw [List.length_replicate, if_pos rfl, hb]

theorem IsOf.unique (h : shape.IsOf type) (h' : shape'.IsOf type) : shape = shape' := by
  rw [← ofAtoms?_eq_some_iff] at h h'
  exact Option.some.inj (h.symm.trans h')

/-- Types that differ in qualifiers, blanks and punctuation alone have one shape. -/
theorem isOf_congr (h : TypeText.essentialAtoms type' = TypeText.essentialAtoms type) :
    shape.IsOf type' ↔ shape.IsOf type := by
  unfold IsOf
  rw [h]

end TypeShape

/-! ### Names of types with values -/

/-- The declared type has values: it is neither an alias nor a constant. -/
def RegistryType.HasValues (x : RegistryType) : Prop :=
  x.isAlias = false ∧ ∀ d, x ≠ .define d

/-- The name denotes a type that has values. -/
def Registry.NamesValues (r : Registry) (base : String) : Prop :=
  ∃ x, r.resolve? base = some x ∧ x.HasValues

namespace Registry

theorem exists_classify?_iff : (∃ k, r.classify? base = some k) ↔ r.NamesValues base := by
  unfold classify? NamesValues
  cases r.resolve? base with
  | none => simp
  | some x => cases x <;> simp [RegistryType.HasValues, RegistryType.isAlias, RegistryType.target?]

theorem exists_struct?_of_classify? (h : r.classify? base = some .nestedFactory) :
    ∃ s, r.struct? base = some s := by
  unfold classify? at h
  unfold struct?
  split at h
  · rename_i s hs
    exact ⟨s, by rw [hs]; rfl⟩
  all_goals first
    | cases h
    | (split at h <;> cases h)

theorem exists_asElement?_of_classify? {k : StorageClass} (h : r.classify? base = some k) :
    ∃ factories, k.asElement? = some factories := by
  unfold classify? at h
  split at h
  all_goals cases h
  all_goals first
    | exact ⟨_, rfl⟩
    | (split <;> exact ⟨_, rfl⟩)

/-! ### How shapes are stored -/

/-- How a pointer is stored: one to characters and one to nothing known in their own ways,
and any other by the class of what it points to. -/
def storedByClass? (r : Registry) (base : String) (text untyped : StoredType)
    (factories : StructType → StoredType) (platform elements : StoredType) :
    Option StoredType :=
  if base = "char" then some text
  else if base = "void" then some untyped
  else match r.classify? base with
    | none => none
    | some .nestedFactory => (r.struct? base).map factories
    | some .platformType => some platform
    | some _ => some elements

section storedByClass

variable {text untyped platform elements : StoredType} {factories : StructType → StoredType}

theorem storedPointer?_eq (r : Registry) (base : String) : r.storedPointer? base =
    r.storedByClass? base ⟨"std::string", .string, base⟩ ⟨"void*", .untypedPointer, base⟩
      (fun s => ⟨"std::vector<" ++ Code.factoryName s.name ++ ">", .factoryVector, s.name⟩)
      ⟨base ++ "*", .untypedPointer, base⟩ ⟨"std::vector<" ++ base ++ ">", .vector, base⟩ := rfl

theorem storedDoublePointer?_eq (r : Registry) (base : String) : r.storedDoublePointer? base =
    r.storedByClass? base ⟨"std::vector<std::string>", .stringArray, base⟩
      ⟨"void**", .untypedDoublePointer, base⟩
      (fun s => ⟨"std::vector<std::vector<" ++ Code.factoryName s.name ++ ">>", .nestedVector true,
        s.name⟩)
      ⟨base ++ "**", .untypedDoublePointer, base⟩
      ⟨"std::vector<std::vector<" ++ base ++ ">>", .nestedVector false, base⟩ := rfl

theorem exists_storedByClass?_iff :
    (∃ t, r.storedByClass? base text untyped factories platform elements = some t) ↔
      base = "char" ∨ base = "void" ∨ r.NamesValues base := by
  unfold storedByClass?
  by_cases hchar : base = "char"
  · simp [hchar]
  by_cases hvoid : base = "void"
  · simp [hvoid]
  rw [if_neg hchar, if_neg hvoid, ← exists_classify?_iff]
  split
  · rename_i hclass
    simp [hclass, hchar, hvoid]
  · rename_i hclass
    obtain ⟨s, hs⟩ := exists_struct?_of_classify? hclass
    exact iff_of_true ⟨factories s, by rw [hs]; rfl⟩ (.inr (.inr ⟨_, hclass⟩))
  · rename_i hclass
    exact iff_of_true ⟨platform, rfl⟩ (.inr (.inr ⟨_, hclass⟩))
  · rename_i hclass
    exact iff_of_true ⟨elements, rfl⟩ (.inr (.inr ⟨_, hclass⟩))

/-- What is stored for a pointer is one of the forms that there are. -/
theorem storedByClass?_of_forms {motive : StoredType → Prop}
    (h : r.storedByClass? base text untyped factories platform elements = some t)
    (hforms : ∀ u ∈ [text, untyped, platform, elements], motive u)
    (hfactories : ∀ s, motive (factories s)) : motive t := by
  simp only [List.forall_mem_cons] at hforms
  obtain ⟨htext, huntyped, hplatform, helements, -⟩ := hforms
  unfold storedByClass? at h
  split at h
  · exact Option.some.inj h ▸ htext
  split at h
  · exact Option.some.inj h ▸ huntyped
  split at h
  · cases h
  · obtain ⟨s, -, rfl⟩ := Option.map_eq_some_iff.1 h
    exact hfactories s
  · exact Option.some.inj h ▸ hplatform
  · exact Option.some.inj h ▸ helements

end storedByClass

theorem exists_storedValue?_iff :
    (∃ t, r.storedValue? base = some t) ↔ base ≠ "void" ∧ r.NamesValues base := by
  unfold storedValue?
  by_cases hvoid : base = "void"
  · simp [hvoid]
  rw [if_neg hvoid, ← exists_classify?_iff]
  split
  · rename_i hclass
    simp [hclass]
  · rename_i hclass
    obtain ⟨s, hs⟩ := exists_struct?_of_classify? hclass
    exact iff_of_true ⟨_, by rw [hs]; rfl⟩ ⟨hvoid, _, hclass⟩
  · rename_i hclass
    exact iff_of_true ⟨_, rfl⟩ ⟨hvoid, _, hclass⟩

theorem exists_asElement?_of_storedValue? (h : r.storedValue? base = some t) :
    ∃ factories, t.storage.asElement? = some factories := by
  unfold storedValue? at h
  split at h
  · cases h
  split at h
  · cases h
  · obtain ⟨s, -, rfl⟩ := Option.map_eq_some_iff.1 h
    exact ⟨true, rfl⟩
  · rename_i hclass
    obtain rfl := Option.some.inj h
    exact exists_asElement?_of_classify? hclass

end Registry

/-- The base of the shape is known: it names a type with values, or is pointed to and
stands for characters or for nothing known, which has no values by itself. -/
def TypeShape.BaseKnown (shape : TypeShape) (r : Registry) : Prop :=
  1 ≤ shape.pointers ∧ (shape.base = "char" ∨ shape.base = "void") ∨
    r.NamesValues shape.base ∧ ¬ (shape.pointers = 0 ∧ shape.base = "void")

structure TypeShape.Storable (shape : TypeShape) (r : Registry) (sizes : List ArraySize) :
    Prop where
  pointers_le : shape.pointers ≤ 2
  no_array_of_pointers : sizes = [] ∨ shape.pointers = 0
  base_known : shape.BaseKnown r

namespace Registry

theorem exists_storedShape?_iff :
    (∃ t, r.storedShape? shape = some t) ↔ shape.pointers ≤ 2 ∧ shape.BaseKnown r := by
  obtain ⟨base, pointers⟩ := shape
  unfold TypeShape.BaseKnown
  match pointers with
  | 0 =>
    show (∃ t, r.storedValue? base = some t) ↔ _
    simp [exists_storedValue?_iff, and_comm]
  | 1 =>
    show (∃ t, r.storedPointer? base = some t) ↔ _
    simp [storedPointer?_eq, exists_storedByClass?_iff, or_assoc]
  | 2 =>
    show (∃ t, r.storedDoublePointer? base = some t) ↔ _
    simp [storedDoublePointer?_eq, exists_storedByClass?_iff, or_assoc]
  | n + 3 => exact iff_of_false (fun ⟨_, h⟩ => nomatch h) fun ⟨h, _⟩ => by simp at h

/-- A pointer is neither the element of an array nor stored as a factory. -/
theorem storedShape?_of_pointers (h : r.storedShape? shape = some t) (hp : shape.pointers ≠ 0) :
    t.storage.asElement? = none ∧ ¬ t.storage.HoldsFactory := by
  obtain ⟨base, pointers⟩ := shape
  match pointers with
  | 0 => exact absurd rfl hp
  | 1 | 2 =>
    exact storedByClass?_of_forms (motive := fun u => u.storage.asElement? = none ∧
      ¬ u.storage.HoldsFactory) h (by simp [StorageClass.asElement?, StorageClass.HoldsFactory])
      fun _ => ⟨rfl, id⟩
  | n + 3 => cases h

theorem storage_ne_chainLink (h : r.storedShape? shape = some t) : t.storage ≠ .chainLink := by
  obtain ⟨base, pointers⟩ := shape
  match pointers with
  | 0 =>
    obtain ⟨factories, hfactories⟩ := exists_asElement?_of_storedValue? h
    intro hchain
    rw [hchain] at hfactories
    cases hfactories
  | 1 | 2 =>
    exact storedByClass?_of_forms (motive := fun u => u.storage ≠ .chainLink) h (by simp)
      fun _ => nofun
  | n + 3 => cases h

theorem exists_asElement?_iff (h : r.storedShape? shape = some t) :
    (∃ factories, t.storage.asElement? = some factories) ↔ shape.pointers = 0 := by
  obtain ⟨base, pointers⟩ := shape
  by_cases hp : pointers = 0
  · subst hp
    exact iff_of_true (exists_asElement?_of_storedValue? h) rfl
  · obtain ⟨hnone, -⟩ := storedShape?_of_pointers h hp
    simp [hnone, hp]

theorem exists_withSizes?_iff : (∃ u, t.withSizes? sizes = some u) ↔
    sizes = [] ∨ ∃ factories, t.storage.asElement? = some factories := by
  unfold StoredType.withSizes?
  cases sizes with
  | nil => simp
  | cons size sizes =>
    constructor
    · rintro ⟨u, hu⟩
      obtain ⟨factories, hfactories, -⟩ := Option.map_eq_some_iff.1 hu
      exact .inr ⟨factories, hfactories⟩
    · rintro (h | ⟨factories, hfactories⟩)
      · cases h
      · exact ⟨_, Option.map_eq_some_iff.2 ⟨factories, hfactories, rfl⟩⟩

/-! ### How members are stored -/

/-- But for the extension chain, what is stored is what a shape of the type gives. -/
theorem storedType?_eq_some_iff (hname : name ≠ chainLinkMember) :
    r.storedType? type name sizes = some t ↔ ∃ shape : TypeShape, shape.IsOf type ∧
      ∃ u, r.storedShape? shape = some u ∧ u.withSizes? sizes = some t := by
  unfold storedType?
  rw [if_neg hname, Option.bind_assoc, Option.bind_eq_some_iff]
  simp only [TypeShape.ofAtoms?_eq_some_iff, Option.bind_eq_some_iff]

/-- Only the extension chain is stored as a chain link. -/
theorem name_eq_of_chainLink (h : r.storedType? type name sizes = some t)
    (ht : t.storage = .chainLink) : name = chainLinkMember := by
  refine Decidable.byContradiction fun hname => ?_
  obtain ⟨shape, -, u, hu, hsizes⟩ := (storedType?_eq_some_iff hname).1 h
  unfold StoredType.withSizes? at hsizes
  split at hsizes
  · obtain rfl := Option.some.inj hsizes
    exact storage_ne_chainLink hu ht
  · obtain ⟨factories, -, rfl⟩ := Option.map_eq_some_iff.1 hsizes
    cases ht

/-- **When a type is stored.** -/
theorem exists_storedType?_iff (hname : name ≠ chainLinkMember) :
    (∃ t, r.storedType? type name sizes = some t) ↔
      ∃ shape : TypeShape, shape.IsOf type ∧ shape.Storable r sizes := by
  simp only [storedType?_eq_some_iff hname]
  constructor
  · rintro ⟨t, shape, hshape, u, hu, ht⟩
    obtain ⟨hpointers, hknown⟩ := exists_storedShape?_iff.1 ⟨u, hu⟩
    have hsizes := exists_withSizes?_iff.1 ⟨t, ht⟩
    rw [exists_asElement?_iff hu] at hsizes
    exact ⟨shape, hshape, hpointers, hsizes, hknown⟩
  · rintro ⟨shape, hshape, hpointers, hsizes, hknown⟩
    obtain ⟨u, hu⟩ := exists_storedShape?_iff.2 ⟨hpointers, hknown⟩
    rw [← exists_asElement?_iff hu] at hsizes
    obtain ⟨t, ht⟩ := exists_withSizes?_iff.2 hsizes
    exact ⟨t, shape, hshape, u, hu, ht⟩

/-- What the base denotes is all of the registry that counts. -/
theorem storedShape?_congr (h : r'.resolve? shape.base = r.resolve? shape.base) :
    r'.storedShape? shape = r.storedShape? shape := by
  have hclass : r'.classify? shape.base = r.classify? shape.base := by
    unfold classify?
    rw [h]
  have hstruct : r'.struct? shape.base = r.struct? shape.base := by
    unfold struct?
    rw [h]
  unfold storedShape? storedValue? storedPointer? storedDoublePointer?
  rw [hclass, hstruct]

/-- **Nothing else counts**: for types of one shape, whose base denotes the same in both
registries, the same is stored with the same dimensions. -/
theorem storedType?_congr (hname : name ≠ chainLinkMember) (hname' : name' ≠ chainLinkMember)
    (hshape : shape.IsOf type) (hshape' : shape.IsOf type')
    (h : r'.resolve? shape.base = r.resolve? shape.base) :
    r'.storedType? type' name' sizes = r.storedType? type name sizes := by
  refine Option.ext fun t => ?_
  -- A type has one shape, so what is stored is what this shape gives.
  have hown : ∀ {q : Registry} {s n : String}, n ≠ chainLinkMember → shape.IsOf s →
      (q.storedType? s n sizes = some t ↔
        ∃ u, q.storedShape? shape = some u ∧ u.withSizes? sizes = some t) := by
    intro q s n hn hs
    rw [storedType?_eq_some_iff hn]
    exact ⟨fun ⟨shape', hs', h⟩ => hs'.unique hs ▸ h, fun h => ⟨shape, hs, h⟩⟩
  rw [hown hname' hshape', hown hname hshape, storedShape?_congr h]

/-- Types with the same essential atoms are stored alike, or neither is. -/
theorem storedType?_of_essentialAtoms (hname : name ≠ chainLinkMember)
    (h : TypeText.essentialAtoms type' = TypeText.essentialAtoms type) :
    r.storedType? type' name sizes = r.storedType? type name sizes := by
  refine Option.ext fun t => ?_
  simp only [storedType?_eq_some_iff hname, TypeShape.isOf_congr h]

theorem storeAs_eq_ok_iff {title : String} :
    r.storeAs title type name sizes = .ok t ↔ r.storedType? type name sizes = some t := by
  unfold storeAs
  cases r.storedType? type name sizes <;> simp

theorem storeAs_eq_error {title : String} (h : r.storedType? type name sizes = none) :
    r.storeAs title type name sizes = .error (.unmappableType title type) := by
  unfold storeAs
  rw [h]

/-- **When a member is stored, and what decides how.** Unless it is the extension chain, a
member is stored if and only if its type has a shape that can be stored with its
dimensions; else the error names the member and its type. How it is stored depends on the
shape, the dimensions and what the base of the shape denotes: nothing else of the registry
counts, nor does the spelling of the type. In particular types that differ in qualifiers,
blanks and punctuation alone are stored alike. -/
theorem storeAs_ok_iff_storable (r : Registry) (title type : String) (sizes : List ArraySize)
    (hname : name ≠ chainLinkMember) :
    ((∃ t, r.storeAs title type name sizes = .ok t) ↔
      ∃ shape : TypeShape, shape.IsOf type ∧ shape.Storable r sizes) ∧
    ((¬ ∃ shape : TypeShape, shape.IsOf type ∧ shape.Storable r sizes) →
      r.storeAs title type name sizes = .error (.unmappableType title type)) ∧
    (∀ (r' : Registry) (title' type' name' : String) (shape : TypeShape),
      name' ≠ chainLinkMember → shape.IsOf type → shape.IsOf type' →
        r'.resolve? shape.base = r.resolve? shape.base → ∀ t,
          r'.storeAs title' type' name' sizes = .ok t ↔
            r.storeAs title type name sizes = .ok t) ∧
    ∀ type', TypeText.essentialAtoms type' = TypeText.essentialAtoms type → ∀ t,
      r.storeAs title type' name sizes = .ok t ↔ r.storeAs title type name sizes = .ok t := by
  have hstored : (∃ t, r.storedType? type name sizes = some t) ↔
      ∃ shape : TypeShape, shape.IsOf type ∧ shape.Storable r sizes := exists_storedType?_iff hname
  refine ⟨?_, fun hnot => ?_, ?_, fun type' h t => ?_⟩
  · simp only [storeAs_eq_ok_iff, hstored]
  · rw [← hstored] at hnot
    exact storeAs_eq_error (Option.eq_none_iff_forall_ne_some.2 fun t ht => hnot ⟨t, ht⟩)
  · intro r' title' type' name' shape hname' hshape hshape' hbase t
    rw [storeAs_eq_ok_iff, storeAs_eq_ok_iff, storedType?_congr hname hname' hshape hshape' hbase]
  · rw [storeAs_eq_ok_iff, storeAs_eq_ok_iff, storedType?_of_essentialAtoms hname h]

end Registry

def infoRegistry : Registry where
  types := NameMap.ofList [
    ("Info", .struct { name := "Info", members := [], extended := [], returnedOnly := false }),
    ("InfoKHR", .structAlias { name := "InfoKHR", target := "Info" })]

/-- Pointers to pointers to a struct are stored as its factories, however they are spelled,
and cannot be the elements of an array. -/
theorem storeAs_infoRegistry :
    (⟨"InfoKHR", 2⟩ : TypeShape).IsOf "const InfoKHR* const*" ∧
      infoRegistry.storeAs "S::p" "struct InfoKHR(**)" "p" [] =
        .ok ⟨"std::vector<std::vector<InfoFactory>>", .nestedVector true, "Info"⟩ ∧
      infoRegistry.storeAs "S::p" "const InfoKHR* const*" "p" [.literal 2] =
        .error (.unmappableType "S::p" "const InfoKHR* const*") := by
  have hshape : (⟨"InfoKHR", 2⟩ : TypeShape).IsOf "const InfoKHR* const*" :=
    ⟨.word "InfoKHR", rfl, by decide +kernel⟩
  have hname : "p" ≠ chainLinkMember := by decide
  refine ⟨hshape, ?_, ?_⟩
  · obtain ⟨-, -, -, hspelling⟩ := Registry.storeAs_ok_iff_storable infoRegistry "S::p"
      "const InfoKHR* const*" [] hname
    exact (hspelling "struct InfoKHR(**)" (by decide +kernel) _).2
      (Registry.storeAs_eq_ok_iff.2 (by decide +kernel))
  · obtain ⟨-, herror, -⟩ := Registry.storeAs_ok_iff_storable infoRegistry "S::p"
      "const InfoKHR* const*" [.literal 2] hname
    refine herror ?_
    rintro ⟨shape, hshape', hstorable⟩
    obtain rfl := hshape.unique hshape'
    rcases hstorable.no_array_of_pointers with h | h <;> cases h

end VulkanFoundry
