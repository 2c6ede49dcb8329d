/-
# What a struct leads to

Dependencies span a graph over the names of structs, which may have cycles. A
struct reaches all that it leads to along dependencies, itself included. Where a
path has to keep to some structs, the condition is asked of every struct behind
the first one.
-/
import Mathlib.Logic.Relation
import VulkanFoundry.Proofs.Registry.Keys
import VulkanFoundry.Selection.Dependency

namespace VulkanFoundry
namespace Registry

def DependsOn (r : Registry) (a b : String) : Prop :=
  ∃ s, r.struct? a = some s ∧ b ∈ r.dependencies s

/-- The first struct leads to the second along dependencies. -/
def Reaches (r : Registry) : String → String → Prop := Relation.ReflTransGen r.DependsOn

/-- The first struct leads to the second along dependencies on structs of a kind. -/
def ReachesWithin (r : Registry) (inside : String → Prop) : String → String → Prop :=
  Relation.ReflTransGen fun a b => r.DependsOn a b ∧ inside b

variable {r : Registry}

theorem dependsOn_iff {a b : String} {s : StructType} (h : r.struct? a = some s) :
    r.DependsOn a b ↔ b ∈ r.dependencies s := by
  constructor
  · rintro ⟨t, ht, hb⟩
    rw [h] at ht
    exact Option.some.inj ht ▸ hb
  · intro hb
    exact ⟨s, h, hb⟩

theorem ReachesWithin.mono {inside inside' : String → Prop} (h : ∀ n, inside n → inside' n)
    {a b : String} (hab : r.ReachesWithin inside a b) : r.ReachesWithin inside' a b :=
  Relation.ReflTransGen.mono (fun _ _ e => ⟨e.1, h _ e.2⟩) _ _ hab

theorem ReachesWithin.reaches {inside : String → Prop} {a b : String}
    (hab : r.ReachesWithin inside a b) : r.Reaches a b :=
  Relation.ReflTransGen.mono (fun _ _ e => e.1) _ _ hab

theorem mem_dependencies_iff {s : StructType} {b : String} :
    b ∈ r.dependencies s ↔ b ≠ s.name ∧ ∃ m ∈ s.members, r.referredStruct? m = some b := by
  rw [dependencies, List.mem_eraseDups, List.mem_filter, List.mem_filterMap, decide_eq_true_eq,
    and_comm]

theorem struct?_of_referredStruct? (hr : KeyedByName r.types) {m : Member} {b : String}
    (h : r.referredStruct? m = some b) : ∃ t, r.struct? b = some t ∧ t.name = b := by
  unfold referredStruct? at h
  split at h
  · cases h
  · obtain ⟨t, ht, rfl⟩ := Option.map_eq_some_iff.1 h
    exact ⟨t, struct?_name hr ht, rfl⟩

theorem struct?_of_mem_dependencies (hr : KeyedByName r.types) {s : StructType} {b : String}
    (h : b ∈ r.dependencies s) : ∃ t, r.struct? b = some t ∧ t.name = b := by
  obtain ⟨-, m, -, hm⟩ := mem_dependencies_iff.1 h
  exact struct?_of_referredStruct? hr hm

end Registry
end VulkanFoundry
