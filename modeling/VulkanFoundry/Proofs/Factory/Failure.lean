/-
# Where generating factories fails

Factories are generated in three stages. Structs are selected, then every member of
every selected struct is given a stored type, and then the classes are written, where
each member that has to hold a value must be stored as one. A stage begins when the
one before it has ended for all structs, and each goes through the structs in their
order and through the members of a struct in theirs. So a failure is that of the
selection, or else that of the first member that cannot be stored, or else that of the
first member whose default cannot be expressed; and if there is none of these, all
three files are generated (`Registry.generate_factories`).

The first failure of a chain is what `List.findSome?` finds, through nested chains as
well as through one.

Key theorems: `findSome?_eq_some_iff_isFirst`, `Registry.error?_planSelection`,
`FactorySet.error?_header`, `Registry.error?_generate`.
-/
import Mathlib
import VulkanFoundry.Generation.Target
import VulkanFoundry.Proofs.Factory.Plans

namespace VulkanFoundry

/-! ### The first failure of a chain -/

section failures

variable {α β γ : Type}

theorem findSome?_flatMap {f : α → List β} {p : β → Option γ} :
    ∀ l : List α, (l.flatMap f).findSome? p = l.findSome? fun a => (f a).findSome? p
  | [] => rfl
  | a :: l => by
    rw [List.flatMap_cons, List.findSome?_append, List.findSome?_cons, findSome?_flatMap l]
    cases (f a).findSome? p <;> rfl

/-- The element has the property and none before it in the list has. -/
def IsFirst (l : List α) (motive : α → Prop) (a : α) : Prop :=
  ∃ before after, l = before ++ a :: after ∧ motive a ∧ ∀ x ∈ before, ¬ motive x

theorem IsFirst.holds {l : List α} {motive : α → Prop} {a : α} (h : IsFirst l motive a) :
    motive a := by
  obtain ⟨-, -, -, ha, -⟩ := h
  exact ha

/-- What is found first belongs to the first element for which something is found. -/
theorem findSome?_eq_some_iff_isFirst {p : α → Option γ} {motive : α → Prop} {l : List α} {c : γ}
    (h : ∀ a, p a = none ↔ motive a) :
    l.findSome? p = some c ↔ ∃ a, IsFirst l (fun x => ¬ motive x) a ∧ p a = some c := by
  rw [List.findSome?_eq_some_iff]
  constructor
  · rintro ⟨before, a, after, hl, ha, hbefore⟩
    refine ⟨a, ⟨before, after, hl, fun hm => ?_, fun x hx => ?_⟩, ha⟩
    · rw [(h a).2 hm] at ha
      cases ha
    · exact not_not.2 ((h x).1 (hbefore x hx))
  · rintro ⟨a, ⟨before, after, hl, -, hbefore⟩, ha⟩
    exact ⟨before, a, after, hl, ha, fun x hx => (h x).2 (not_not.1 (hbefore x hx))⟩

end failures

/-! ### Members that cannot be stored or defaulted -/

/-- The class is one of those whose members may have to hold a value. -/
def StorageClass.IsValue (k : StorageClass) : Prop :=
  k = .scalar ∨ k = .enum ∨ k = .bitmask ∨ k = .handle

theorem StorageClass.defaultFault?_eq_none_iff {k : StorageClass} :
    PlannedMember.defaultFault? k = none ↔ k.IsValue := by
  cases k <;> simp [PlannedMember.defaultFault?, IsValue]

namespace Registry

variable {r : Registry} {c : Configuration} {s : Selection} {e : GenerationError}

/-- The members of the selected structs, struct by struct in the order in which they are
generated, each with its struct. -/
def selectedMembers (r : Registry) (s : Selection) : List (StructType × Member) :=
  ((r.sequence s.structs).filterMap r.struct?).flatMap fun t => t.members.map fun m => (t, m)

def Stores (r : Registry) (x : StructType × Member) : Prop :=
  ∃ u, r.storeMember x.1.name x.2 = .ok u

/-- The member is stored as a value if it has to hold one. -/
def HoldsDefault (r : Registry) (x : StructType × Member) : Prop :=
  ∀ u, r.storeMember x.1.name x.2 = .ok u → x.2.expectedValue.isSome = true → u.storage.IsValue

/-- Why the default of a member that is stored cannot be expressed, if it cannot. -/
def defaultError? (r : Registry) (x : StructType × Member) : Option GenerationError :=
  (r.storeMember x.1.name x.2).toOption.bind fun u =>
    error? (PlannedMember.defaultStatement x.1.name ⟨x.2, u⟩)

theorem stores_iff {x : StructType × Member} :
    error? (r.storeMember x.1.name x.2) = none ↔ r.Stores x := by
  rw [error?_eq_none_iff]
  rfl

theorem storeMember_eq_error_iff {x : StructType × Member} :
    error? (r.storeMember x.1.name x.2) = some e ↔
      ¬ r.Stores x ∧ e = .unmappableType (x.1.name ++ "::" ++ x.2.name) x.2.type := by
  unfold Stores storeMember storeAs
  cases r.storedType? x.2.type x.2.name x.2.arraySizes with
  | none => simp [error?, eq_comm]
  | some u => simp [error?]

theorem defaultStatement_eq_error_iff {owner : String} {m : PlannedMember} :
    error? (m.defaultStatement owner) = some e ↔
      m.member.expectedValue.isSome = true ∧ ∃ fault,
        PlannedMember.defaultFault? m.stored.storage = some fault ∧
        e = .unsupportedDefault (owner ++ "::" ++ m.member.name) fault := by
  unfold PlannedMember.defaultStatement
  cases m.member.expectedValue with
  | none => simp [error?]
  | some value =>
    cases PlannedMember.defaultFault? m.stored.storage with
    | none => simp [error?]
    | some fault => simp [error?, eq_comm]

theorem defaultError?_eq_some_iff {x : StructType × Member} :
    r.defaultError? x = some e ↔ ∃ u, r.storeMember x.1.name x.2 = .ok u ∧
      x.2.expectedValue.isSome = true ∧ ∃ fault,
        PlannedMember.defaultFault? u.storage = some fault ∧
        e = .unsupportedDefault (x.1.name ++ "::" ++ x.2.name) fault := by
  unfold defaultError?
  cases r.storeMember x.1.name x.2 with
  | error fault => simp [Except.toOption]
  | ok u => simp [Except.toOption, defaultStatement_eq_error_iff]

theorem holdsDefault_iff {x : StructType × Member} :
    r.defaultError? x = none ↔ r.HoldsDefault x := by
  rw [Option.eq_none_iff_forall_ne_some]
  simp only [ne_eq, defaultError?_eq_some_iff, not_exists, not_and]
  constructor
  · intro h u hu hexpected
    rw [← StorageClass.defaultFault?_eq_none_iff, Option.eq_none_iff_forall_ne_some]
    exact fun fault hfault => h _ u hu hexpected fault hfault rfl
  · intro h e u hu hexpected fault hfault
    rw [StorageClass.defaultFault?_eq_none_iff.2 (h u hu hexpected)] at hfault
    cases hfault

end Registry

/-! ### The three stages -/

section stages

variable {r : Registry} {c : Configuration} {s : Selection} {e : GenerationError}

namespace FactoryPlan

theorem error?_ofStruct (guards : List String) (t : StructType) :
    error? (ofStruct r guards t) =
      t.members.findSome? fun m => error? (r.storeMember t.name m) := by
  unfold ofStruct
  rw [error?_bind_of_ok fun _ => rfl, error?_mapM]
  refine findSome?_eq_of_forall₂ (List.forall₂_same.2 fun m _ => ?_)
  exact error?_bind_of_ok fun _ => rfl

/-- The plan of a struct has its members in their order, each with its stored type. -/
def Plans (p : FactoryPlan) (r : Registry) (t : StructType) : Prop :=
  p.source = t ∧ List.Forall₂ (fun (m : PlannedMember) d => m.member = d ∧
    r.storeMember t.name d = .ok m.stored) p.members t.members

theorem plans_of_ofStruct {guards : List String} {t : StructType} {p : FactoryPlan}
    (h : ofStruct r guards t = .ok p) : p.Plans r t := by
  obtain ⟨members, hmembers, h⟩ := bind_eq_ok_iff.1 h
  obtain rfl := Except.ok.inj h
  refine ⟨rfl, List.Forall₂.flip ((mapM_eq_ok_iff.1 hmembers).imp fun d m hm => ?_)⟩
  obtain ⟨stored, hstored, hm⟩ := bind_eq_ok_iff.1 hm
  obtain rfl := Except.ok.inj hm
  exact ⟨rfl, hstored⟩

/-- Writing the class of a plan fails at the first member whose default cannot be
expressed. -/
theorem error?_defaults (p : FactoryPlan) :
    error? p.defaults = p.members.findSome? fun m => error? (m.defaultStatement p.name) := by
  unfold defaults
  rw [error?_bind_of_ok fun _ => rfl, error?_mapM]

theorem Plans.error?_defaults {p : FactoryPlan} {t : StructType} (h : p.Plans r t) :
    error? p.defaults = t.members.findSome? fun m => r.defaultError? (t, m) := by
  obtain ⟨rfl, hmembers⟩ := h
  rw [FactoryPlan.error?_defaults]
  refine findSome?_eq_of_forall₂ (hmembers.imp fun m d hm => ?_)
  obtain ⟨rfl, hstored⟩ := hm
  unfold Registry.defaultError?
  rw [hstored]
  rfl

end FactoryPlan

namespace Registry

theorem filterMap_struct?_eq_map (r : Registry) (s : Selection) (names : List String) :
    names.filterMap r.struct? =
      (names.filterMap fun name => (r.struct? name).map fun t => (s.guardsOf name, t)).map
        Prod.snd := by
  rw [List.map_filterMap]
  simp only [Option.map_map, Function.comp_def, Option.map_id']

/-- Planning fails at the first member that cannot be stored. -/
theorem error?_planSelection (r : Registry) (s : Selection) :
    error? (r.planSelection s) =
      (r.selectedMembers s).findSome? fun x => error? (r.storeMember x.1.name x.2) := by
  unfold planSelection selectedMembers
  rw [error?_mapM, findSome?_flatMap, filterMap_struct?_eq_map r s, List.findSome?_map]
  simp only [FactoryPlan.error?_ofStruct, List.findSome?_map, Function.comp_def]

theorem forall₂_planSelection {plans : List FactoryPlan} (h : r.planSelection s = .ok plans) :
    List.Forall₂ (fun p t => p.Plans r t) plans ((r.sequence s.structs).filterMap r.struct?) := by
  rw [filterMap_struct?_eq_map r s, List.forall₂_map_right_iff]
  exact List.Forall₂.flip ((mapM_eq_ok_iff.1 h).imp fun e p hp => FactoryPlan.plans_of_ofStruct hp)

/-- The classes of all plans fail at the first member whose default cannot be
expressed. -/
theorem findSome?_error?_defaults {plans : List FactoryPlan} (h : r.planSelection s = .ok plans) :
    (plans.findSome? fun p => error? p.defaults) =
      (r.selectedMembers s).findSome? r.defaultError? := by
  unfold selectedMembers
  rw [findSome?_flatMap]
  refine findSome?_eq_of_forall₂ ((forall₂_planSelection h).imp fun p t hp => ?_)
  rw [hp.error?_defaults, List.findSome?_map]
  rfl

end Registry

namespace FactorySet

theorem error?_declarationOf (p : FactoryPlan) : error? (declarationOf p) = error? p.defaults := by
  rw [declarationOf, FactoryPlan.factoryClass, error?_map, error?_map]

theorem error?_definitionsOf (p : FactoryPlan) : error? (definitionsOf p) = error? p.defaults := by
  rw [definitionsOf, FactoryPlan.factoryClass, error?_map, error?_map]

theorem error?_header (f : FactorySet) :
    error? f.header = f.plans.findSome? fun p => error? p.defaults := by
  unfold header
  rw [error?_bind_of_ok fun _ => rfl, error?_mapM]
  simp only [error?_declarationOf]

theorem error?_source (f : FactorySet) : error? f.source = error? f.header := by
  unfold source
  rw [error?_header, error?_bind_of_ok fun _ => rfl, error?_mapM]
  simp only [error?_definitionsOf]

/-- The source file fails where the header does, and the test file never does. -/
theorem error?_ofTarget (f : FactorySet) :
    error? (GeneratedFiles.ofTarget (.factories f)) = error? f.header := by
  show error? (f.header >>= _) = _
  cases hheader : f.header with
  | error e => rfl
  | ok header =>
    obtain ⟨source, hsource⟩ : ∃ source, f.source = .ok source := by
      rw [← error?_eq_none_iff, error?_source, hheader]
      rfl
    show error? (f.source >>= _) = _
    rw [hsource]
    rfl

end FactorySet

namespace Registry

theorem generate_factories_eq (r : Registry) (hc : c.target = FactorySet.targetName) :
    generate r c = r.select c >>= fun s => r.planSelection s >>= fun plans =>
      GeneratedFiles.ofTarget (.factories ⟨r, c.codeNamespace, plans⟩) := by
  have hne : ¬ FactorySet.targetName = HandleRemapper.targetName := by decide
  unfold generate Target.create
  rw [hc, if_neg hne, if_pos rfl]
  unfold FactorySet.ofConfiguration planFactories
  cases r.select c with
  | error e => rfl
  | ok s =>
    show ((r.planSelection s >>= _).map _ >>= _) = r.planSelection s >>= _
    cases r.planSelection s <;> rfl

/-- **Which failure it is.** -/
theorem error?_generate (hc : c.target = FactorySet.targetName) (hs : r.select c = .ok s) :
    error? (generate r c) =
      ((r.selectedMembers s).findSome? fun x => error? (r.storeMember x.1.name x.2)).or
        ((r.selectedMembers s).findSome? r.defaultError?) := by
  rw [generate_factories_eq r hc, hs, ← error?_planSelection]
  show error? (r.planSelection s >>= _) = _
  cases hplans : r.planSelection s with
  | error e => rfl
  | ok plans =>
    show error? (GeneratedFiles.ofTarget _) = _
    rw [FactorySet.error?_ofTarget, FactorySet.error?_header]
    exact findSome?_error?_defaults hplans

theorem mem_selectedMembers_iff (hr : KeyedByName r.types)
    {x : StructType × Member} : x ∈ r.selectedMembers s ↔
      ∃ name, s.structs.contains name = true ∧ r.struct? name = some x.1 ∧ x.2 ∈ x.1.members := by
  simp only [selectedMembers, List.mem_flatMap, List.mem_filterMap, List.mem_map]
  constructor
  · rintro ⟨t, ⟨n, hn, ht⟩, m, hm, rfl⟩
    obtain ⟨name, hname, u, hu, rfl⟩ := (mem_sequence_iff hr).1 hn
    rw [struct?_name hr hu] at ht
    obtain rfl := Option.some.inj ht
    exact ⟨name, hname, hu, hm⟩
  · rintro ⟨name, hname, ht, hm⟩
    exact ⟨x.1, ⟨x.1.name, (mem_sequence_iff hr).2 ⟨name, hname, x.1, ht, rfl⟩,
      struct?_name hr ht⟩, x.2, hm, rfl⟩

/-- The members are those of the structs that are selected, whatever their order. -/
theorem forall_selectedMembers_iff (hr : KeyedByName r.types)
    {motive : StructType × Member → Prop} : (∀ x ∈ r.selectedMembers s, motive x) ↔
      ∀ name t, s.structs.contains name = true → r.struct? name = some t →
        ∀ m ∈ t.members, motive (t, m) := by
  constructor
  · intro h name t hname ht m hm
    exact h _ ((mem_selectedMembers_iff hr).2 ⟨name, hname, ht, hm⟩)
  · intro h x hx
    obtain ⟨name, hname, ht, hm⟩ := (mem_selectedMembers_iff hr).1 hx
    exact h name x.1 hname ht x.2 hm

theorem findSome?_storeMember_eq_none_iff : ((r.selectedMembers s).findSome? fun x =>
    error? (r.storeMember x.1.name x.2)) = none ↔ ∀ x ∈ r.selectedMembers s, r.Stores x := by
  simp only [List.findSome?_eq_none_iff, stores_iff]

theorem findSome?_defaultError?_eq_none_iff :
    (r.selectedMembers s).findSome? r.defaultError? = none ↔
      ∀ x ∈ r.selectedMembers s, r.HoldsDefault x := by
  simp only [List.findSome?_eq_none_iff, holdsDefault_iff]

/-- The first member that cannot be stored is the one that planning complains about. -/
theorem findSome?_storeMember_eq_some_iff : ((r.selectedMembers s).findSome? fun x =>
    error? (r.storeMember x.1.name x.2)) = some e ↔
      ∃ t m, IsFirst (r.selectedMembers s) (fun x => ¬ r.Stores x) (t, m) ∧
        e = .unmappableType (t.name ++ "::" ++ m.name) m.type := by
  rw [findSome?_eq_some_iff_isFirst fun x => stores_iff]
  constructor
  · rintro ⟨⟨t, m⟩, hfirst, he⟩
    exact ⟨t, m, hfirst, (storeMember_eq_error_iff.1 he).2⟩
  · rintro ⟨t, m, hfirst, he⟩
    exact ⟨(t, m), hfirst, storeMember_eq_error_iff.2 ⟨hfirst.holds, he⟩⟩

/-- The first member that would have to hold a value and cannot is the one that the
constructors complain about. -/
theorem findSome?_defaultError?_eq_some_iff :
    (r.selectedMembers s).findSome? r.defaultError? = some e ↔
      ∃ t m, IsFirst (r.selectedMembers s) (fun x => ¬ r.HoldsDefault x) (t, m) ∧
        ∃ u fault, r.storeMember t.name m = .ok u ∧
          PlannedMember.defaultFault? u.storage = some fault ∧
          e = .unsupportedDefault (t.name ++ "::" ++ m.name) fault := by
  rw [findSome?_eq_some_iff_isFirst fun x => holdsDefault_iff]
  constructor
  · rintro ⟨⟨t, m⟩, hfirst, he⟩
    obtain ⟨u, hu, -, fault, hfault, he⟩ := defaultError?_eq_some_iff.1 he
    exact ⟨t, m, hfirst, u, fault, hu, hfault, he⟩
  · rintro ⟨t, m, hfirst, u, fault, hu, hfault, he⟩
    refine ⟨(t, m), hfirst, defaultError?_eq_some_iff.2 ⟨u, hu, ?_, fault, hfault, he⟩⟩
    -- a member that may hold anything is never at fault
    by_contra hexpected
    exact hfirst.holds fun _ _ h => absurd h hexpected

/-- **When factories are generated, and why not.** All files are generated exactly if the
selection succeeds, every member of every selected struct can be stored, and those that
have to hold a value are stored as one. If not, it is the selection that fails; or else
the first member that cannot be stored, in the order of the structs and their members;
or else the first that cannot hold its value. -/
theorem generate_factories {text : String} (h : load text = .ok r)
    (hc : c.target = FactorySet.targetName) :
    ((∃ g, generate r c = .ok g) ↔ ∃ s, r.select c = .ok s ∧
      ∀ name t, s.structs.contains name = true → r.struct? name = some t →
        ∀ m ∈ t.members, r.Stores (t, m) ∧ r.HoldsDefault (t, m)) ∧
    ∀ e, generate r c = .error e ↔ r.select c = .error e ∨ ∃ s, r.select c = .ok s ∧
      ((∃ t m, IsFirst (r.selectedMembers s) (fun x => ¬ r.Stores x) (t, m) ∧
          e = .unmappableType (t.name ++ "::" ++ m.name) m.type) ∨
        (∀ x ∈ r.selectedMembers s, r.Stores x) ∧
          ∃ t m, IsFirst (r.selectedMembers s) (fun x => ¬ r.HoldsDefault x) (t, m) ∧
            ∃ u fault, r.storeMember t.name m = .ok u ∧
              PlannedMember.defaultFault? u.storage = some fault ∧
              e = .unsupportedDefault (t.name ++ "::" ++ m.name) fault) := by
  have hr : KeyedByName r.types := keyedByName_of_load h
  cases hs : r.select c with
  | error e =>
    have hgenerate : generate r c = .error e := by
      rw [generate_factories_eq r hc, hs]
      rfl
    simp [hgenerate]
  | ok s =>
    have herror := error?_generate hc hs
    constructor
    · rw [← error?_eq_none_iff, herror, Option.or_eq_none_iff,
        findSome?_storeMember_eq_none_iff, findSome?_defaultError?_eq_none_iff,
        ← forall₂_and, forall_selectedMembers_iff hr]
      simp
    · intro e
      rw [eq_error_iff, herror, Option.or_eq_some_iff, findSome?_storeMember_eq_some_iff,
        findSome?_storeMember_eq_none_iff, findSome?_defaultError?_eq_some_iff]
      simp

end Registry

end stages

/-! ### Two faults at once -/

/-- A struct that cannot hold the value it has to, and a later one with a member that
cannot be stored. -/
def faultyDocument : String := r#"<registry>
<types>
<type name="void"/>
<type category="union" name="Data"><member><type>void</type>* <name>p</name></member></type>
<type category="struct" name="Early">
<member values="ZERO"><type>Data</type> <name>data</name></member></type>
<type category="struct" name="Late">
<member><type>void</type>*** <name>deep</name></member></type>
</types>
<feature name="VK_VERSION_1_0" number="1.0">
<require><type name="Early"/><type name="Late"/></require></feature>
</registry>"#

def heldUnion : Member :=
  { Member.plain "Data" "data" with expectedValue := some "ZERO" }

def deepPointer : Member := .plain "void***" "deep"

def earlyStruct : StructType where
  name := "Early"
  members := [heldUnion]
  extended := []
  returnedOnly := false

def lateStruct : StructType where
  name := "Late"
  members := [deepPointer]
  extended := []
  returnedOnly := false

def faultyRegistry : Registry where
  types := NameMap.ofList [
    ("void", .external { name := "void", header := none, isCType := true }),
    ("Data", .union { name := "Data", members := [.plain "void*" "p"], returnedOnly := false }),
    ("Early", .struct earlyStruct), ("Late", .struct lateStruct)]
  coreVersions := NameMap.ofList [firstVersion ["Early", "Late"]]

set_option maxRecDepth 20000 in
theorem load_faultyDocument : Registry.load faultyDocument = .ok faultyRegistry := by
  rw [Registry.load_eq_loadChars (rfl : faultyDocument = _)]
  decide +kernel

/-- Defaults are looked at when all members have been stored, so it is the later struct
that is complained about. -/
theorem generate_faultyRegistry :
    Registry.load faultyDocument = .ok faultyRegistry ∧
      ¬ faultyRegistry.HoldsDefault (earlyStruct, heldUnion) ∧
      generate faultyRegistry {} = .error (.unmappableType "Late::deep" "void***") := by
  have hcheck : (faultyRegistry.select {}).toOption.any (fun s =>
      decide (faultyRegistry.selectedMembers s =
        [(earlyStruct, heldUnion), (lateStruct, deepPointer)])) = true := by decide_cbv
  obtain ⟨s, hs, hmembers⟩ := exists_eq_ok_of_check hcheck
  have hearly : faultyRegistry.storeMember "Early" heldUnion = .ok ⟨"Data", .union, "Data"⟩ := by
    decide +kernel
  have hlate : faultyRegistry.storeMember "Late" deepPointer =
      .error (.unmappableType "Late::deep" "void***") := by decide +kernel
  have hfirst : IsFirst (faultyRegistry.selectedMembers s)
      (fun x => ¬ faultyRegistry.Stores x) (lateStruct, deepPointer) := by
    refine ⟨[(earlyStruct, heldUnion)], [], hmembers, ?_, fun x hx => ?_⟩
    · rintro ⟨u, hu⟩
      cases hlate.symm.trans hu
    · rw [List.mem_singleton.1 hx, not_not]
      exact ⟨_, hearly⟩
  refine ⟨load_faultyDocument, fun hholds => ?_, ?_⟩
  · obtain h | h | h | h := hholds _ hearly rfl <;> cases h
  · exact ((Registry.generate_factories load_faultyDocument rfl).2 _).2
      (.inr ⟨s, hs, .inl ⟨_, _, hfirst, rfl⟩⟩)

end VulkanFoundry
