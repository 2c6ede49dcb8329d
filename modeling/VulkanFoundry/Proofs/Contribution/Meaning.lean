/-
# What a name means in an enum

In an enum a name stands for a value, or as an alias for another name. An entry says
what its own name means, and an entry that fits says nothing else than the enum says
already. So after a list of entries that is taken, an enum means by a name what it
meant before, and what any of the entries says (`EnumType.meaning?_withEntries`).
-/
import VulkanFoundry.Proofs.Contribution.Merging

namespace VulkanFoundry

/-- What a name of an enum stands for. -/
inductive Meaning where
  /-- The name is an alias of another one. -/
  | target (name : String)
  | value (v : Int64)
  deriving DecidableEq

def EnumType.meaning? (e : EnumType) (name : String) : Option Meaning :=
  match e.field? name with
  | some f => some (.value f.value)
  | none => (e.aliases.get? name).map fun a => .target a.target

def Entry.meaning? (key name : String) : Entry → Option Meaning
  | .field k f => if k = key ∧ f.name = name then some (.value f.value) else none
  | .fieldAlias k a => if k = key ∧ a.name = name then some (.target a.target) else none
  | .constant _ _ => none

variable {r : Registry} {e : EnumType} {x : Entry} {key name : String} {m m' : Meaning}

namespace Entry

theorem meaning?_field_eq_some_iff {k : String} {f : EnumField} :
    (Entry.field k f).meaning? key name = some m ↔
      key = k ∧ name = f.name ∧ m = .value f.value := by
  simp only [meaning?, Option.ite_some_none_eq_some, and_assoc]
  rw [eq_comm, @eq_comm _ f.name, @eq_comm _ m]

theorem meaning?_fieldAlias_eq_some_iff {k : String} {a : EnumFieldAlias} :
    (Entry.fieldAlias k a).meaning? key name = some m ↔
      key = k ∧ name = a.name ∧ m = .target a.target := by
  simp only [meaning?, Option.ite_some_none_eq_some, and_assoc]
  rw [eq_comm, @eq_comm _ a.name, @eq_comm _ m]

end Entry

/-- An entry that fits says nothing else than the enum does. -/
theorem Entry.FitsIn.meaning?_eq (hx : x.FitsIn r) (he : r.types.get? key = some (.enum e))
    (hm : x.meaning? key name = some m) (hm' : e.meaning? name = some m') : m' = m := by
  cases x with
  | constant n v => cases hm
  | field k f =>
    obtain ⟨rfl, rfl, rfl⟩ := Entry.meaning?_field_eq_some_iff.1 hm
    obtain ⟨hnone, hvalue⟩ := hx.acceptsField he
    rw [EnumType.meaning?] at hm'
    cases hf : e.field? f.name with
    | none => simp [hf, hnone] at hm'
    | some g =>
      rw [hf] at hm'
      rw [← Option.some.inj hm', hvalue g hf]
  | fieldAlias k a =>
    obtain ⟨rfl, rfl, rfl⟩ := Entry.meaning?_fieldAlias_eq_some_iff.1 hm
    obtain ⟨hnone, htarget⟩ := hx.acceptsAlias he
    rw [EnumType.meaning?, hnone] at hm'
    obtain ⟨b, hb, rfl⟩ := Option.map_eq_some_iff.1 hm'
    rw [htarget b hb]

namespace EnumType

theorem meaning?_withField {f : EnumField} (hf : e.AcceptsField f) :
    (e.withField f).meaning? name =
      (e.meaning? name).or (if f.name = name then some (.value f.value) else none) := by
  rw [meaning?, meaning?, field?_withField, aliases_withField]
  cases hg : e.field? name with
  | some g => simp
  | none =>
    by_cases hn : f.name = name
    · subst hn
      simp [hf.1]
    · simp [hn]

theorem meaning?_withAlias {a : EnumFieldAlias} :
    (e.withAlias a).meaning? name =
      (e.meaning? name).or (if a.name = name then some (.target a.target) else none) := by
  rw [meaning?, meaning?, field?_withAlias, get?_aliases_withAlias]
  cases hf : e.field? name with
  | some f => simp
  | none =>
    by_cases hn : a.name = name
    · cases hb : e.aliases.get? name <;> simp [hn]
    · simp [hn]

/-- What an entry that fits says joins what the enum says. -/
theorem meaning?_withEntry (hx : x.FitsIn r) (he : r.types.get? key = some (.enum e)) :
    (e.withEntry key x).meaning? name = (e.meaning? name).or (x.meaning? key name) := by
  cases x with
  | constant n v => exact Option.or_none.symm
  | field k f =>
    by_cases hk : k = key
    · subst hk
      simp [withEntry, Entry.meaning?, meaning?_withField (hx.acceptsField he)]
    · simp [withEntry, Entry.meaning?, hk]
  | fieldAlias k a =>
    by_cases hk : k = key
    · simp [withEntry, Entry.meaning?, hk, meaning?_withAlias]
    · simp [withEntry, Entry.meaning?, hk]

theorem meaning?_withEntry_eq_some_iff (hx : x.FitsIn r)
    (he : r.types.get? key = some (.enum e)) :
    (e.withEntry key x).meaning? name = some m ↔
      e.meaning? name = some m ∨ x.meaning? key name = some m := by
  rw [meaning?_withEntry hx he]
  cases he' : e.meaning? name with
  | none => simp
  | some m' =>
    rw [Option.some_or]
    refine (or_iff_left_of_imp fun hm => ?_).symm
    rw [hx.meaning?_eq he hm he']

/-- **What a name means with all entries made** is what it meant before, and what any
of the entries says. -/
theorem meaning?_withEntries : ∀ {xs : List Entry} {r : Registry} {e : EnumType}, r.Takes xs →
    r.types.get? key = some (.enum e) →
    ((e.withEntries key xs).meaning? name = some m ↔
      e.meaning? name = some m ∨ ∃ x ∈ xs, x.meaning? key name = some m)
  | [], _, _, _, _ => by simp [withEntries]
  | x :: xs, r, e, htakes, he => by
    obtain ⟨hx, hrest⟩ := Registry.takes_cons_iff.1 htakes
    have he' := Registry.get?_withEntry_of_enum he x
    rw [withEntries_cons, meaning?_withEntries hrest he', meaning?_withEntry_eq_some_iff hx he,
      List.exists_mem_cons_iff, or_assoc]

end EnumType
end VulkanFoundry
