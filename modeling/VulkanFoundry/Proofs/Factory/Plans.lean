/-
# What is planned

A factory is planned for every selected struct, in the order of the traversal. A
plan keeps what the selection knows of its struct: the macros under which the
struct stands, and the struct itself with each of its members as the registry has
it stored.

The selected names are the structs' own names, so the plans are a permutation of
them, and each stands behind the plans of the structs that its struct depends on,
but for those that lead back to it (`Registry.sequence_ordered`).

Key theorems: `FactorySet.follows_of_ofConfiguration`,
`FactorySet.mem_structNames_iff`.
-/
import VulkanFoundry.Factory.Files
import VulkanFoundry.Proofs.Factory.Members
import VulkanFoundry.Proofs.Selection.Order

namespace VulkanFoundry

/-- The plan is that of the struct that stands under its name, with the macros that
the selection has for it. -/
structure FactoryPlan.Follows (p : FactoryPlan) (r : Registry) (s : Selection) : Prop where
  source : r.struct? p.name = some p.source
  planned : FactoryPlan.ofStruct r (s.guardsOf p.name) p.source = .ok p

variable {r : Registry} {c : Configuration} {s : Selection} {f : FactorySet}
variable {text : String}

theorem FactoryPlan.ofStruct_ok {guards : List String} {t : StructType} {p : FactoryPlan}
    (h : ofStruct r guards t = .ok p) :
    p.source = t ∧ p.guards = guards ∧
      ∀ m ∈ p.members, m.member ∈ t.members ∧ r.storeMember t.name m.member = .ok m.stored := by
  obtain ⟨members, hmembers, h⟩ := bind_eq_ok_iff.1 h
  obtain rfl := Except.ok.inj h
  refine ⟨rfl, rfl, fun m hm => ?_⟩
  obtain ⟨declared, hdeclared, hm⟩ := (mem_iff_of_mapM_eq_ok hmembers).1 hm
  obtain ⟨stored, hstored, hm⟩ := bind_eq_ok_iff.1 hm
  obtain rfl := Except.ok.inj hm
  exact ⟨hdeclared, hstored⟩

namespace Registry

/-- The plans for a selection stand in the order of its structs. -/
theorem planSelection_ok (hr : KeyedByName r.types) {plans : List FactoryPlan}
    (h : r.planSelection s = .ok plans) :
    plans.map FactoryPlan.name = r.sequence s.structs ∧ ∀ p ∈ plans, p.Follows r s := by
  have hfound : ∀ n ∈ r.sequence s.structs, ∃ t, r.struct? n = some t ∧ t.name = n := by
    intro n hn
    obtain ⟨name, -, t, ht, rfl⟩ := (mem_sequence_iff hr).1 hn
    exact ⟨t, struct?_name hr ht, rfl⟩
  have hplans := mapM_eq_ok_iff.1 h
  clear h
  generalize r.sequence s.structs = names at hfound hplans
  induction names generalizing plans with
  | nil =>
    rw [List.filterMap_nil, List.forall₂_nil_left_iff] at hplans
    rw [hplans]
    exact ⟨rfl, fun p hp => absurd hp List.not_mem_nil⟩
  | cons n names ih =>
    obtain ⟨t, ht, htn⟩ := hfound n List.mem_cons_self
    rw [List.filterMap_cons, ht] at hplans
    obtain ⟨p, rest, hp, hrest, rfl⟩ := List.forall₂_cons_left_iff.1 hplans
    obtain ⟨hsource, -, -⟩ := FactoryPlan.ofStruct_ok hp
    obtain ⟨hnames, hfollows⟩ :=
      ih (fun m hm => hfound m (List.mem_cons_of_mem n hm)) hrest
    have hname : p.name = n := by
      rw [FactoryPlan.name, hsource, htn]
    refine ⟨?_, fun q hq => ?_⟩
    · rw [List.map_cons, hname, hnames]
    · rcases List.mem_cons.1 hq with rfl | hq
      · refine ⟨?_, ?_⟩
        · rw [hname, ht, hsource]
        · rw [hname, hsource]
          exact hp
      · exact hfollows q hq

theorem contains_of_dependsOn (hs : r.select c = .ok s) {a b : String}
    (ha : s.structs.contains a = true) (hab : r.DependsOn a b) :
    s.structs.contains b = true := by
  have hclosure := isClosure_of_select hs
  obtain ⟨root, hroot, hreach⟩ := (hclosure.structs a).1 ha
  exact (hclosure.structs b).2 ⟨root, hroot, hreach.tail hab⟩

/-- What is selected stands under its own name. -/
theorem denotes_self_of_select (hr : KeyedByName r.types) (hs : r.select c = .ok s) {n : String}
    (hn : s.structs.contains n = true) : r.Denotes n n := by
  obtain ⟨root, hroot, hreach⟩ := ((isClosure_of_select hs).structs n).1 hn
  rcases Relation.ReflTransGen.cases_tail hreach with rfl | ⟨a, -, t, ht, hdep⟩
  · obtain ⟨features, feature, -, -, t, ht, rfl⟩ : ∃ features, r.Requires features n := by
      rcases hroot.1 with (⟨-, -, v, -, h⟩ | ⟨x, -, -, h⟩) | ⟨-, x, -, -, h⟩
      · exact ⟨_, h⟩
      · exact ⟨_, h⟩
      · exact ⟨_, h⟩
    exact ⟨t, struct?_name hr ht, rfl⟩
  · exact struct?_of_mem_dependencies hr hdep

end Registry

/-- A struct with a member that is stored by way of a factory depends on the struct of
that factory, unless it is the struct itself. -/
theorem FactoryPlan.Follows.dependsOn {p : FactoryPlan} (hp : p.Follows r s)
    (hstar : r.get? "*" = none) {m : PlannedMember} (hm : m ∈ p.members)
    (hf : m.stored.storage.NamesFactory) (hne : m.stored.base ≠ p.name) :
    r.DependsOn p.name m.stored.base := by
  obtain ⟨-, -, hmembers⟩ := ofStruct_ok hp.planned
  obtain ⟨hin, hstored⟩ := hmembers m hm
  have hrefers := referredStruct?_of_storeMember hstar hstored hf
  exact ⟨p.source, hp.source, Registry.mem_dependencies_iff.2 ⟨hne, m.member, hin, hrefers⟩⟩

namespace FactorySet

/-- The factories of a configuration are planned for what it selects. -/
theorem follows_of_ofConfiguration (hr : KeyedByName r.types)
    (hf : ofConfiguration r c = .ok f) :
    f.registry = r ∧ ∃ s, r.select c = .ok s ∧ f.structNames = r.sequence s.structs ∧
      ∀ p ∈ f.plans, p.Follows r s := by
  obtain ⟨plans, hplans, hf⟩ := bind_eq_ok_iff.1 hf
  obtain rfl := Except.ok.inj hf
  obtain ⟨s, hs, hplans⟩ := bind_eq_ok_iff.1 hplans
  obtain ⟨hnames, hfollows⟩ := Registry.planSelection_ok hr hplans
  exact ⟨rfl, s, hs, hnames, hfollows⟩

/-- A struct has a factory exactly if it is selected. -/
theorem mem_structNames_iff (hr : KeyedByName r.types) (hs : r.select c = .ok s)
    (hf : f.structNames = r.sequence s.structs) {n : String} :
    n ∈ f.structNames ↔ s.structs.contains n = true := by
  rw [hf, Registry.mem_sequence_iff hr]
  constructor
  · rintro ⟨name, hname, t, ht, rfl⟩
    obtain ⟨u, hu, hun⟩ := Registry.denotes_self_of_select hr hs hname
    rw [ht] at hu
    rwa [Option.some.inj hu, hun]
  · intro hn
    exact ⟨n, hn, Registry.denotes_self_of_select hr hs hn⟩

end FactorySet

namespace Registry

/-- **The order of the traversal**, for any selected names: each struct that they
denote stands in it once, behind the selected structs that it depends on, but for
those that lead back to it. The factories of a configuration stand in such an
order, one for each struct that is selected. -/
theorem sequence_ordered (h : load text = .ok r) :
    (∀ selected : NameSet,
      (r.sequence selected).Nodup ∧
      (∀ x, x ∈ r.sequence selected ↔ ∃ n, selected.contains n = true ∧ r.Denotes n x) ∧
      ∀ a ∈ r.sequence selected, ∀ d ∈ r.sequence selected, selected.contains d = true →
        r.DependsOn a d → ¬ r.ReachesWithin (fun n => selected.contains n = true) d a →
        Precedes (r.sequence selected) d a) ∧
    ∀ c f, FactorySet.ofConfiguration r c = .ok f → ∃ s, r.select c = .ok s ∧
      f.structNames.Perm s.structs.names ∧
      ∀ a ∈ f.structNames, ∀ d ∈ f.structNames, r.DependsOn a d →
        ¬ r.ReachesWithin (fun n => n ∈ f.structNames) d a → Precedes f.structNames d a := by
  have hr := keyedByName_of_load h
  have hordered : ∀ {selected : NameSet} {a d : String}, a ∈ r.sequence selected →
      selected.contains d = true → r.DependsOn a d →
      ¬ r.ReachesWithin (fun n => selected.contains n = true) d a →
      Precedes (r.sequence selected) d a := by
    intro selected a d ha hsel hd hback
    refine (precedes_sequence_iff hr ha hd hsel).2 fun hpath => ?_
    exact hback (hpath.mono fun _ hy => hy.1)
  refine ⟨fun selected => ⟨nodup_sequence hr, fun x => mem_sequence_iff hr, ?_⟩, ?_⟩
  · intro a ha d _ hsel hd hback
    exact hordered ha hsel hd hback
  · intro c f hf
    obtain ⟨-, s, hs, hnames, -⟩ := FactorySet.follows_of_ofConfiguration hr hf
    have hmem : ∀ {n : String}, n ∈ f.structNames ↔ s.structs.contains n = true :=
      FactorySet.mem_structNames_iff hr hs hnames
    refine ⟨s, hs, ?_, fun a ha d hd hdep hback => ?_⟩
    · refine (List.perm_ext_iff_of_nodup ?_ (NameMap.nodup_names _)).2 fun n => ?_
      · rw [hnames]
        exact nodup_sequence hr
      · rw [hmem, NameMap.mem_names_iff]
    · rw [hnames] at ha ⊢
      refine hordered ha (hmem.1 hd) hdep fun hpath => ?_
      exact hback (hpath.mono fun n hn => hmem.2 hn)

/-- A struct that another one holds comes before it wherever both are selected. -/
theorem shared_precedes_xlibLink :
    load platformDocument = .ok platformRegistry ∧ ∀ selected : NameSet,
      selected.contains "Shared" = true → selected.contains "XlibLink" = true →
      Precedes (platformRegistry.sequence selected) "Shared" "XlibLink" := by
  refine ⟨load_platformDocument, fun selected hshared hlink => ?_⟩
  obtain ⟨-, hmem, hordered⟩ := (sequence_ordered load_platformDocument).1 selected
  have hstructs : ((platformRegistry.struct? "Shared").map fun s =>
        (s.name, platformRegistry.dependencies s)) = some ("Shared", []) ∧
      ((platformRegistry.struct? "XlibLink").map fun s =>
        (s.name, platformRegistry.dependencies s)) = some ("XlibLink", ["Shared"]) := by
    decide +kernel
  obtain ⟨⟨s, hs, hsn⟩, ⟨t, ht, htn⟩⟩ :=
    hstructs.imp Option.map_eq_some_iff.1 Option.map_eq_some_iff.1
  rw [Prod.mk.injEq] at hsn htn
  have hdep : platformRegistry.DependsOn "XlibLink" "Shared" :=
    ⟨t, ht, htn.2 ▸ List.mem_singleton_self _⟩
  have hin : "XlibLink" ∈ platformRegistry.sequence selected :=
    (hmem _).2 ⟨_, hlink, t, ht, htn.1⟩
  refine hordered _ hin _ ((hmem _).2 ⟨_, hshared, s, hs, hsn.1⟩) hshared hdep fun hpath => ?_
  rcases Relation.ReflTransGen.cases_head hpath with heq | ⟨b, ⟨hb, -⟩, -⟩
  · exact absurd heq (by decide)
  · rw [dependsOn_iff hs, hsn.2] at hb
    cases hb

end Registry
end VulkanFoundry
