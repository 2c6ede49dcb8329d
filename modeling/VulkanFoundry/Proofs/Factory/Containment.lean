/-
# Factories that hold factories

A factory that holds another one in place needs it to be declared in full before.
The order of the factories comes from the dependencies of the structs, and these
do not tell a struct that is held from one that is pointed to. In a cycle of both
kinds the order may therefore put the holder first, even though containment alone
has no cycle.

It does so exactly if the held struct leads back to its holder along structs that
the traversal enters after the held one (`held_precedes_iff`).
-/
import Mathlib
import VulkanFoundry.Proofs.Factory.Plans

namespace VulkanFoundry

/-- A member of the struct, other than the extension chain, is stored as a factory of
the other struct or as an array of these. -/
def FactoryPlan.Holds (p : FactoryPlan) (b : String) : Prop :=
  ∃ m ∈ p.members, m.member.name ≠ chainLinkMember ∧ m.stored.storage.HoldsFactory ∧
    m.stored.base = b

instance (p : FactoryPlan) (b : String) : Decidable (p.Holds b) :=
  inferInstanceAs (Decidable (∃ m ∈ p.members, m.member.name ≠ chainLinkMember ∧
    m.stored.storage.HoldsFactory ∧ m.stored.base = b))

/-- No planned struct holds itself, directly or by way of others. -/
def FactorySet.ContainmentAcyclic (f : FactorySet) : Prop :=
  ∀ name, ¬ Relation.TransGen (fun a b => ∃ p ∈ f.plans, p.name = a ∧ p.Holds b) name name

variable {r : Registry} {c : Configuration} {s : Selection} {f : FactorySet} {p : FactoryPlan}
variable {text b : String}

/-- **A held factory comes first unless its struct leads back to the holder**, along
structs that the traversal enters after the held one. -/
theorem held_precedes_iff (h : Registry.load text = .ok r) (hstar : r.get? "*" = none)
    (hs : r.select c = .ok s) (hf : FactorySet.ofConfiguration r c = .ok f) (hp : p ∈ f.plans)
    (hb : p.Holds b) :
    Precedes f.structNames b p.name ↔ ¬ r.ReachesWithin
      (fun n => n ∈ f.structNames ∧ Precedes (r.entryOrder s.structs) b n) b p.name := by
  have hr := Registry.keyedByName_of_load h
  obtain ⟨-, s', hs', hnames, hfollows⟩ := FactorySet.follows_of_ofConfiguration hr hf
  obtain rfl : s = s' := Except.ok.inj (hs.symm.trans hs')
  have hmem : ∀ {n : String}, n ∈ f.structNames ↔ s.structs.contains n = true :=
    FactorySet.mem_structNames_iff hr hs hnames
  obtain ⟨m, hm, -, hholds, rfl⟩ := hb
  by_cases hself : m.stored.base = p.name
  · rw [hself]
    have hn : f.structNames.Nodup := hnames ▸ Registry.nodup_sequence hr
    exact iff_of_false (fun hbefore => hbefore.asymm hn hbefore) fun hpath => hpath .refl
  · have hin : p.name ∈ f.structNames := List.mem_map_of_mem hp
    have hdep := (hfollows p hp).dependsOn hstar hm hholds.namesFactory hself
    have hsel := Registry.contains_of_dependsOn hs (hmem.1 hin) hdep
    simp only [hmem]
    rw [hnames] at hin ⊢
    exact Registry.precedes_sequence_iff hr hin hdep hsel

/-! ### A holder that comes first -/

/-- The two plans of `cycleRegistry`, of which only that of `B` holds the other. -/
theorem plans_cycleRegistry :
    ∃ s f, cycleRegistry.select {} = .ok s ∧ FactorySet.ofConfiguration cycleRegistry {} = .ok f ∧
      f.structNames = ["B", "A"] ∧ (∃ p ∈ f.plans, p.name = "B" ∧ p.Holds "A") ∧
      ∀ p ∈ f.plans, ∀ m ∈ p.members, m.stored.storage.HoldsFactory →
        p.name = "B" ∧ m.stored.base = "A" := by
  have hcheck : (FactorySet.ofConfiguration cycleRegistry {}).toOption.any (fun f =>
      decide (f.structNames = ["B", "A"] ∧ (∃ p ∈ f.plans, p.name = "B" ∧ p.Holds "A") ∧
        ∀ p ∈ f.plans, ∀ m ∈ p.members, m.stored.storage.HoldsFactory →
          p.name = "B" ∧ m.stored.base = "A")) = true := by decide_cbv
  obtain ⟨f, hf, hplans⟩ := exists_eq_ok_of_check hcheck
  have hr := Registry.keyedByName_of_load load_cycleDocument
  obtain ⟨-, s, hs, -⟩ := FactorySet.follows_of_ofConfiguration hr hf
  exact ⟨s, f, hs, hf, hplans⟩

/-- The holder of `cycleRegistry` comes first, because the struct that it holds leads
back to it. -/
theorem held_leads_back :
    ∃ s f, cycleRegistry.select {} = .ok s ∧ FactorySet.ofConfiguration cycleRegistry {} = .ok f ∧
      cycleRegistry.ReachesWithin (fun n => n ∈ f.structNames ∧
        Precedes (cycleRegistry.entryOrder s.structs) "A" n) "A" "B" := by
  obtain ⟨s, f, hs, hf, hnames, ⟨p, hp, hname, hb⟩, -⟩ := plans_cycleRegistry
  have hiff := held_precedes_iff load_cycleDocument (by decide +kernel) hs hf hp hb
  refine ⟨s, f, hs, hf, ?_⟩
  rw [hname, hnames] at hiff
  by_contra hback
  rw [hnames] at hback
  have hfirst : ¬ Precedes ["B", "A"] "A" "B" := by
    unfold Precedes
    decide
  exact hfirst (hiff.2 hback)

/-- Containment without cycles does not put what is held first. -/
theorem holder_precedes_held :
    Registry.load cycleDocument = .ok cycleRegistry ∧
      ∃ f, FactorySet.ofConfiguration cycleRegistry {} = .ok f ∧ f.ContainmentAcyclic ∧
        ∃ p ∈ f.plans, p.name = "B" ∧ p.Holds "A" ∧ ¬ Precedes f.structNames "A" p.name := by
  obtain ⟨s, f, -, hf, hnames, ⟨p, hp, hname, hb⟩, hedges⟩ := plans_cycleRegistry
  have hedge : ∀ {a b : String}, (∃ p ∈ f.plans, p.name = a ∧ p.Holds b) → a = "B" ∧ b = "A" := by
    rintro a b ⟨q, hq, rfl, m, hm, -, hholds, rfl⟩
    exact hedges q hq m hm hholds
  refine ⟨load_cycleDocument, f, hf, fun n hcycle => ?_, p, hp, hname, hb, ?_⟩
  · obtain ⟨a, hfirst, -⟩ := Relation.TransGen.head'_iff.1 hcycle
    obtain ⟨b, -, hlast⟩ := Relation.TransGen.tail'_iff.1 hcycle
    have hne : "B" = "A" := (hedge hfirst).1.symm.trans (hedge hlast).2
    exact absurd hne (by decide)
  · rw [hname, hnames]
    unfold Precedes
    decide

end VulkanFoundry
