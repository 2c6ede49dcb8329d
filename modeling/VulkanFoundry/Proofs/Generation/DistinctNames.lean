/-
# Names in generated classes do not collide

The methods of a factory class are its constructor, a setter and a getter for every member,
and functions whose names are fixed. Accessors start with a small letter and all other
methods with a capital one; the fixed names are different, and no fixed name ends as the
name of a class does. So all these names are different if the members have different names
(`FactoryPlan.nodup_methodNames`).

The handle remapper has three methods for every handle type, which start with a capital
letter, and one or two fields, which start with a small one. The five ways to make these
names are told apart (`HandleRemapper.toldApart_names`), so in the whole class no
two names are the same.

Key theorems: `FactoryPlan.nodup_fieldNames`, `HandleRemapper.nodup_names`,
`names_do_not_collide`.
-/
import VulkanFoundry.Proofs.Code.Naming
import VulkanFoundry.Proofs.Factory.Failure

namespace VulkanFoundry

open Code Text

/-! ### Factory classes -/

namespace FactoryPlan

variable {p : FactoryPlan} {c : Code.Class}

/-- The method that factory classes inherit. -/
def inheritedName : String := "ChainLinkSize"

example : "  size_t " ++ inheritedName ++
    "() const \x7b return AlignToPointer(Size()) + ChainSize(); \x7d" ∈
      Prelude.chainLinkClass := by decide

/-- The names of the methods that are the same in all factory classes. -/
def fixedNames : List String := ["Size", "ChainSize", "Generate", "GenerateChainLink"]

def memberNames (p : FactoryPlan) : List String := p.members.map fun m => m.member.name

theorem Plans.memberNames_eq {r : Registry} {s : StructType} (h : p.Plans r s) :
    p.memberNames = s.members.map Member.name := by
  obtain ⟨-, hmembers⟩ := h
  have hnames : List.Forall₂ (· = ·) (p.members.map fun m => m.member.name)
      (s.members.map Member.name) :=
    List.forall₂_map_left_iff.2 (List.forall₂_map_right_iff.2
      (hmembers.imp fun m d hm => congrArg Member.name hm.1))
  rwa [List.forall₂_eq_eq_eq] at hnames

theorem methodNames_eq (h : p.factoryClass = .ok c) :
    c.methods.map Method.name = p.factory ::
      (p.memberNames.flatMap fun a => [setterName, getterName].map fun f => f a) ++ fixedNames := by
  obtain ⟨defaults, -, rfl⟩ := map_eq_ok_iff.1 h
  have haccessors : (p.members.flatMap fun m => [m.setter, m.getter]).map Method.name =
      p.memberNames.flatMap fun a => [setterName, getterName].map fun f => f a := by
    rw [memberNames, List.map_flatMap, List.flatMap_map]
    rfl
  rw [classWith, List.map_append, List.map_cons, haccessors]
  rfl

theorem mem_methodNames {a x : String} (h : p.factoryClass = .ok c) (ha : a ∈ p.memberNames)
    (hx : x ∈ [setterName, getterName].map fun f => f a) : x ∈ c.methods.map Method.name := by
  rw [methodNames_eq h]
  exact List.mem_append_left _ (List.mem_cons_of_mem _ (List.mem_flatMap.2 ⟨a, ha, hx⟩))

theorem fieldNames_eq (h : p.factoryClass = .ok c) :
    c.fields.map Argument.name = p.memberNames.map fieldName := by
  obtain ⟨defaults, -, rfl⟩ := map_eq_ok_iff.1 h
  rw [classWith, memberNames, List.map_map, List.map_map]
  rfl

/-- No fixed name ends as the name of a factory class does. -/
theorem factoryName_not_mem (struct : String) :
    factoryName struct ∉ fixedNames ++ [inheritedName] := by
  have hends : ∀ x ∈ fixedNames ++ [inheritedName], ¬ "Factory".toList <:+ x.toList := by decide
  intro hmem
  refine hends _ hmem ⟨struct.toList, ?_⟩
  rw [factoryName, String.toList_append]

/-- **Methods of a factory class have different names**, the inherited one included. -/
theorem nodup_methodNames (h : p.factoryClass = .ok c) (hname : StartsUpper p.name)
    (hmembers : ∀ a ∈ p.memberNames, StartsLower a) (hnodup : p.memberNames.Nodup) :
    (c.methods.map Method.name ++ [inheritedName]).Nodup := by
  have haccessors := toldApart_accessors.nodup_flatMap hmembers hnodup
  have hsmall : ∀ x ∈ p.memberNames.flatMap fun a => [setterName, getterName].map fun f => f a,
      StartsLower x := by
    intro x hx
    obtain ⟨a, -, hx⟩ := List.mem_flatMap.1 hx
    exact startsLower_of_mem_accessors hx
  have hfixed : (fixedNames ++ [inheritedName]).Nodup := by decide
  have hcapital : ∀ x ∈ fixedNames ++ [inheritedName], StartsUpper x := by decide
  have hfactory : StartsUpper p.factory := hname.append "Factory"
  rw [methodNames_eq h, List.append_assoc, List.cons_append]
  refine List.nodup_cons.2 ⟨fun hmem => ?_, List.nodup_append.2 ⟨haccessors, hfixed, ?_⟩⟩
  · rcases List.mem_append.1 hmem with hmem | hmem
    · exact ne_of_startsUpper_of_startsLower hfactory (hsmall _ hmem) rfl
    · exact factoryName_not_mem _ hmem
  · intro x hx y hy
    exact (ne_of_startsUpper_of_startsLower (hcapital y hy) (hsmall x hx)).symm

theorem nodup_fieldNames (h : p.factoryClass = .ok c) (hnodup : p.memberNames.Nodup) :
    (c.fields.map Argument.name).Nodup := by
  rw [fieldNames_eq h]
  exact hnodup.map fieldName_injective

end FactoryPlan

/-! ### The handle remapper -/

namespace HandleRemapper

variable {a b : String}

theorem eq_of_around_eq {first last : String} (ha : StartsUpper a) (hb : StartsUpper b)
    (h : first ++ upperFirst a ++ last = first ++ upperFirst b ++ last) : a = b := by
  have hmiddle : upperFirst a = upperFirst b :=
    (String.append_right_inj first).1 ((String.append_left_inj last).1 h)
  rwa [upperFirst_eq_self ha, upperFirst_eq_self hb] at hmiddle

theorem eq_of_front_eq {last : String} (ha : StartsUpper a) (hb : StartsUpper b)
    (h : lowerFirst a ++ last = lowerFirst b ++ last) : a = b :=
  eq_of_lowerFirst_eq ha hb ((String.append_left_inj last).1 h)

theorem startsUpper_of_mem_methodNames {x : String}
    (h : x ∈ [addName, removeName, remapName].map fun f => f a) : StartsUpper x := by
  have hadd : StartsUpper "Add" := by decide
  have hremove : StartsUpper "Remove" := by decide
  have hremap : StartsUpper "Remap" := by decide
  simp only [List.map_cons, List.map_nil, List.mem_cons, List.not_mem_nil, or_false] at h
  rcases h with rfl | rfl | rfl
  · exact (hadd.append _).append _
  · exact (hremove.append _).append _
  · exact (hremap.append _).append _

theorem startsLower_of_mem_fieldNames (ha : StartsUpper a) {x : String}
    (h : x ∈ [handlesField, countsField].map fun f => f a) : StartsLower x := by
  simp only [List.map_cons, List.map_nil, List.mem_cons, List.not_mem_nil, or_false] at h
  rcases h with rfl | rfl
  · exact (startsLower_lowerFirst ha).append _
  · exact (startsLower_lowerFirst ha).append _

theorem methodName_ne {first first' : String} (h : ¬ first.toList <+: first'.toList)
    (h' : ¬ first'.toList <+: first.toList) :
    first ++ upperFirst a ++ "Handle" ≠ first' ++ upperFirst b ++ "Handle" := by
  rw [String.append_assoc, String.append_assoc]
  exact append_ne_append_of_not_prefix h h' _ _

theorem handlesField_ne_countsField : handlesField a ≠ countsField b :=
  append_ne_append_of_not_suffix (by decide) (by decide) _ _

/-- **The names for a handle type are told apart**, those of methods and those of fields. -/
theorem toldApart_names : ToldApart StartsUpper
    ([addName, removeName, remapName] ++ [handlesField, countsField]) where
  injective f hf a b ha hb h := by
    simp only [List.cons_append, List.nil_append, List.mem_cons, List.not_mem_nil, or_false] at hf
    rcases hf with rfl | rfl | rfl | rfl | rfl
    · exact eq_of_around_eq ha hb h
    · exact eq_of_around_eq ha hb h
    · exact eq_of_around_eq ha hb h
    · exact eq_of_front_eq ha hb h
    · exact eq_of_front_eq ha hb h
  apart := by
    refine List.pairwise_append.2 ⟨?_, ?_, fun f hf g hg a b ha hb => ?_⟩
    · refine List.pairwise_cons.2 ⟨fun g hg a b _ _ => ?_, List.pairwise_pair.2 ?_⟩
      · rcases List.mem_cons.1 hg with rfl | hg
        · exact methodName_ne (by decide) (by decide)
        · obtain rfl := List.mem_singleton.1 hg
          exact methodName_ne (by decide) (by decide)
      · exact fun a b _ _ => methodName_ne (by decide) (by decide)
    · exact List.pairwise_pair.2 fun a b _ _ => handlesField_ne_countsField
    · exact ne_of_startsUpper_of_startsLower
        (startsUpper_of_mem_methodNames (List.mem_map_of_mem hf))
        (startsLower_of_mem_fieldNames hb (List.mem_map_of_mem hg))

theorem methodNames_eq (m : HandleRemapper) : m.remapperClass.methods.map Method.name =
    m.handles.flatMap fun h => [addName h.name, removeName h.name, remapName h.name] := by
  rw [remapperClass, List.map_flatMap]
  rfl

theorem fieldNames_eq (m : HandleRemapper) : m.remapperClass.fields.map Argument.name =
    m.handles.flatMap fun h =>
      handlesField h.name :: if h.dispatchable then [] else [countsField h.name] := by
  rw [remapperClass, List.map_flatMap]
  congr 1
  funext h
  rw [fieldsOf, List.map_cons]
  split <;> rfl

theorem fieldNames_sublist (m : HandleRemapper) : (m.remapperClass.fields.map Argument.name).Sublist
    (m.handles.flatMap fun h => [handlesField h.name, countsField h.name]) := by
  rw [fieldNames_eq]
  refine List.Sublist.flatMap_right _ fun h _ => List.Sublist.cons_cons _ ?_
  split
  · exact List.nil_sublist _
  · exact List.Sublist.refl _

/-- **Methods and fields of the remapper have different names.** -/
theorem nodup_names (m : HandleRemapper) (hname : ∀ h ∈ m.handles, StartsUpper h.name)
    (hnodup : (m.handles.map HandleType.name).Nodup) :
    (m.remapperClass.methods.map Method.name ++ m.remapperClass.fields.map Argument.name).Nodup := by
  have hnames : ∀ a ∈ m.handles.map HandleType.name, StartsUpper a := List.forall_mem_map.2 hname
  -- all names of a handle stand together here, and methods before fields in the class
  have hall := toldApart_names.nodup_flatMap hnames hnodup
  rw [List.flatMap_map] at hall
  have hfields := (List.flatMap_append_perm m.handles
    (fun h => [addName h.name, removeName h.name, remapName h.name])
    (fun h => [handlesField h.name, countsField h.name])).nodup_iff.2 hall
  rw [methodNames_eq]
  exact hfields.sublist ((fieldNames_sublist m).append_left _)

end HandleRemapper

/-- **Names in generated classes do not collide.** Let the name of a struct start with a
capital letter, and let its members have different names that start with small ones. Then
the methods of its factory class, which are its constructor, a setter and a getter for every
member and those with fixed names, have different names that the inherited one differs from
too, its fields, one for every member, have different names, and the name of each accessor
tells the member. Let the names of handle types be different and start with capital letters.
Then the methods of the handle remapper, three for each of them, and its fields, which are
the handles and for some types the counts, all have different names. -/
theorem names_do_not_collide :
    (∀ (r : Registry) (guards : List String) (s : StructType) (p : FactoryPlan) (c : Code.Class),
      FactoryPlan.ofStruct r guards s = .ok p → p.factoryClass = .ok c → StartsUpper s.name →
      (∀ m ∈ s.members, StartsLower m.name) → (s.members.map Member.name).Nodup →
        c.methods.map Method.name = factoryName s.name ::
          (s.members.flatMap fun m => [setterName m.name, getterName m.name]) ++
            FactoryPlan.fixedNames ∧
        c.fields.map Argument.name = s.members.map (fun m => fieldName m.name) ∧
        (c.methods.map Method.name ++ [FactoryPlan.inheritedName]).Nodup ∧
        (c.fields.map Argument.name).Nodup ∧
        ∀ m ∈ s.members, ∀ accessor ∈ [setterName m.name, getterName m.name],
          accessor ∈ c.methods.map Method.name ∧ memberOfAccessor? accessor = some m.name) ∧
    ∀ m : HandleRemapper, (∀ h ∈ m.handles, StartsUpper h.name) →
      (m.handles.map HandleType.name).Nodup →
        m.remapperClass.methods.map Method.name = (m.handles.flatMap fun h =>
          [HandleRemapper.addName h.name, HandleRemapper.removeName h.name,
            HandleRemapper.remapName h.name]) ∧
        m.remapperClass.fields.map Argument.name = (m.handles.flatMap fun h =>
          HandleRemapper.handlesField h.name ::
            if h.dispatchable then [] else [HandleRemapper.countsField h.name]) ∧
        (m.remapperClass.methods.map Method.name ++
          m.remapperClass.fields.map Argument.name).Nodup := by
  constructor
  · intro r guards s p c hp hc hname hmembers hnodup
    have hplans : p.Plans r s := FactoryPlan.plans_of_ofStruct hp
    have hfactory : p.factory = factoryName s.name := by rw [FactoryPlan.factory, hplans.1]
    have hnames : p.memberNames = s.members.map Member.name := hplans.memberNames_eq
    have hsmall : ∀ a ∈ p.memberNames, StartsLower a := hnames ▸ List.forall_mem_map.2 hmembers
    have hdifferent : p.memberNames.Nodup := hnames ▸ hnodup
    have hcapital : StartsUpper p.name := by rwa [FactoryPlan.name, hplans.1]
    refine ⟨?_, ?_, FactoryPlan.nodup_methodNames hc hcapital hsmall hdifferent,
      FactoryPlan.nodup_fieldNames hc hdifferent, fun m hm accessor haccessor => ?_⟩
    · rw [FactoryPlan.methodNames_eq hc, hfactory, hnames, List.flatMap_map]
      rfl
    · rw [FactoryPlan.fieldNames_eq hc, hnames, List.map_map]
      rfl
    · have hm' : m.name ∈ p.memberNames := hnames ▸ List.mem_map_of_mem hm
      exact ⟨FactoryPlan.mem_methodNames hc hm' haccessor,
        memberOfAccessor?_of_mem (hmembers m hm) haccessor⟩
  · intro m hname hnodup
    exact ⟨HandleRemapper.methodNames_eq m, HandleRemapper.fieldNames_eq m,
      HandleRemapper.nodup_names m hname hnodup⟩

def pointerMember (name : String) : Member where
  type := "void*"
  name := name
  arraySizes := []
  expectedValue := none
  len := none
  nullTerminated := false
  noAutoValidity := false
  optional := false
  bitFieldWidth := none
  selection := none

/-- A struct with members that are named like methods, or parts of their names. -/
def sizeStruct : StructType where
  name := "Size"
  members := ["size", "chainSize", "generate", "get", "set", "setSize"].map pointerMember
  extended := []
  returnedOnly := false

/-- Handle types that are named like parts of the names made for them. -/
def bufferHandles : List HandleType :=
  [⟨"VkBuffer", true, none, none⟩, ⟨"VkBufferHandle", false, none, none⟩,
    ⟨"VkBufferHandles_", false, none, none⟩, ⟨"HandleVkBuffer", true, none, none⟩]

/-- The names made for `sizeStruct` and for `bufferHandles` do not collide. -/
theorem names_of_sizeStruct :
    (∃ p c, FactoryPlan.ofStruct {} [] sizeStruct = .ok p ∧ p.factoryClass = .ok c ∧
      (c.methods.map Method.name ++ ["ChainLinkSize"]).Nodup ∧
      (c.fields.map Argument.name).Nodup ∧ "getSetSize" ∈ c.methods.map Method.name ∧
      memberOfAccessor? "getSetSize" = some "setSize") ∧
    ∀ codeNamespace, ((HandleRemapper.mk bufferHandles codeNamespace).remapperClass.methods.map
      Method.name ++ (HandleRemapper.mk bufferHandles codeNamespace).remapperClass.fields.map
        Argument.name).Nodup := by
  obtain ⟨p, hp, hclass⟩ : ∃ p, FactoryPlan.ofStruct {} [] sizeStruct = .ok p ∧
      p.factoryClass.toOption.isSome = true := exists_eq_ok_of_check (by decide +kernel)
  obtain ⟨hfactory, hremapper⟩ := names_do_not_collide
  have hcapital : ∀ h ∈ bufferHandles, StartsUpper h.name := by decide
  have hdifferent : (bufferHandles.map HandleType.name).Nodup := by decide
  refine ⟨?_, fun codeNamespace => ?_⟩
  · cases hc : p.factoryClass with
    | error e =>
      rw [hc] at hclass
      cases hclass
    | ok c =>
      obtain ⟨-, -, hmethods, hfields, haccessors⟩ := hfactory {} [] sizeStruct p c hp hc
        (by decide) (by decide) (by decide)
      have hmember : pointerMember "setSize" ∈ sizeStruct.members := by decide
      obtain ⟨hget, hread⟩ := haccessors _ hmember "getSetSize" (by decide)
      exact ⟨p, c, hp, hc, hmethods, hfields, hget, hread⟩
  · obtain ⟨-, -, hnodup⟩ := hremapper ⟨bufferHandles, codeNamespace⟩ hcapital hdifferent
    exact hnodup

end VulkanFoundry
