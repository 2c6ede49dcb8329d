/-
# Aliases of enum fields lead to fields or run on

Following aliases from a name either comes to a field or it does not, however far one
goes. A name that comes to a field after some steps and not before has walked over
aliases that all differ, each nearer to the field than the one before. So there are at
least as many aliases as steps, and looking as far as there are aliases finds every
field that can be found (`EnumType.resolveAlias?_eq_some_iff`).

So what a name denotes is told by the path of targets that starts from it, however long
that is and wherever it goes: it is the first field of the first name on the path that a
field has (`EnumType.exists_fieldWithin?_iff_isFirstOnPath`). Circles and aliases of names
that nothing has need no care, as such paths come to no field.

Key theorems: `EnumType.fieldWithin?_mono`, `EnumType.NeedsSteps.exists_aliases`,
`EnumType.resolveAlias?_first_on_path`.
-/
import Mathlib.Data.List.Perm.Subperm
import VulkanFoundry.Registry.Basic

namespace VulkanFoundry
namespace EnumType

variable {e : EnumType} {name : String} {f : EnumField} {n m : Nat}

/-- More steps find what fewer do. -/
theorem fieldWithin?_succ : ∀ {n : Nat} {name : String}, e.fieldWithin? n name = some f →
    e.fieldWithin? (n + 1) name = some f
  | 0, _, h => nomatch h
  | n + 1, name, h => by
    rw [fieldWithin?] at h ⊢
    cases hf : e.field? name with
    | some g =>
      rw [hf] at h
      exact h
    | none =>
      rw [hf] at h
      cases ha : e.aliases.get? name with
      | none =>
        rw [ha] at h
        cases h
      | some a =>
        rw [ha] at h
        exact fieldWithin?_succ h

theorem fieldWithin?_mono (hnm : n ≤ m) (h : e.fieldWithin? n name = some f) :
    e.fieldWithin? m name = some f := by
  induction hnm with
  | refl => exact h
  | step _ ih => exact fieldWithin?_succ ih

/-- The name comes to a field after a number of steps along aliases and not before. -/
def NeedsSteps (e : EnumType) (n : Nat) (name : String) : Prop :=
  (∃ f, e.fieldWithin? (n + 1) name = some f) ∧ e.fieldWithin? n name = none

theorem NeedsSteps.unique (hn : e.NeedsSteps n name) (hm : e.NeedsSteps m name) : n = m := by
  have hle : ∀ {n m}, e.NeedsSteps n name → e.NeedsSteps m name → n ≤ m := by
    intro n m hn hm
    obtain ⟨⟨f, hf⟩, -⟩ := hm
    by_contra hlt
    have hsome : e.fieldWithin? n name = some f := fieldWithin?_mono (by omega) hf
    rw [hn.2] at hsome
    cases hsome
  exact Nat.le_antisymm (hle hn hm) (hle hm hn)

theorem exists_needsSteps : ∀ {n : Nat} {f : EnumField}, e.fieldWithin? n name = some f →
    ∃ k < n, e.NeedsSteps k name
  | 0, _, h => nomatch h
  | n + 1, f, h => by
    cases hn : e.fieldWithin? n name with
    | none => exact ⟨n, Nat.lt_succ_self n, ⟨f, h⟩, hn⟩
    | some g =>
      obtain ⟨k, hk, hneeds⟩ := exists_needsSteps hn
      exact ⟨k, Nat.lt_succ_of_lt hk, hneeds⟩

/-- A name that needs a step is an alias of one that needs a step less. -/
theorem NeedsSteps.exists_target (h : e.NeedsSteps (n + 1) name) :
    ∃ a, e.aliases.get? name = some a ∧ e.NeedsSteps n a.target := by
  obtain ⟨⟨f, hf⟩, hnone⟩ := h
  rw [fieldWithin?] at hf hnone
  cases hfield : e.field? name with
  | some g =>
    rw [hfield] at hnone
    cases hnone
  | none =>
    rw [hfield] at hf hnone
    cases ha : e.aliases.get? name with
    | none =>
      rw [ha] at hf
      cases hf
    | some a =>
      rw [ha] at hf hnone
      exact ⟨a, rfl, ⟨f, hf⟩, hnone⟩

/-- **The aliases on the way to a field all differ**, so there are as many of them as
there are steps. -/
theorem NeedsSteps.exists_aliases : ∀ {n : Nat} {name : String}, e.NeedsSteps n name →
    ∃ path : List String, path.Nodup ∧ path.length = n ∧
      ∀ a ∈ path, a ∈ e.aliases.names ∧ ∃ k ≤ n, e.NeedsSteps k a
  | 0, _, _ => ⟨[], List.nodup_nil, rfl, fun _ h => absurd h List.not_mem_nil⟩
  | n + 1, name, h => by
    obtain ⟨a, ha, htarget⟩ := h.exists_target
    obtain ⟨path, hnodup, hlength, hpath⟩ := htarget.exists_aliases
    refine ⟨name :: path, List.nodup_cons.2 ⟨fun hmem => ?_, hnodup⟩, ?_, ?_⟩
    · -- the names further on need fewer steps
      obtain ⟨-, k, hk, hneeds⟩ := hpath name hmem
      have hkn : k = n + 1 := hneeds.unique h
      omega
    · rw [List.length_cons, hlength]
    · refine List.forall_mem_cons.2 ⟨⟨?_, n + 1, Nat.le_refl _, h⟩, fun b hb => ?_⟩
      · exact NameMap.mem_names_iff.2 (NameMap.contains_iff.2 ⟨a, ha⟩)
      · obtain ⟨hname, k, hk, hneeds⟩ := hpath b hb
        exact ⟨hname, k, Nat.le_succ_of_le hk, hneeds⟩

/-- No name needs more steps than there are aliases. -/
theorem NeedsSteps.le_size (h : e.NeedsSteps n name) : n ≤ e.aliases.size := by
  obtain ⟨path, hnodup, hlength, hpath⟩ := h.exists_aliases
  have hsub : path.Subperm e.aliases.names :=
    List.subperm_of_subset hnodup fun a ha => (hpath a ha).1
  have hle := hsub.length_le
  rw [hlength, NameMap.names, List.length_map] at hle
  exact hle

/-- **What can be found at all is found** within as many steps as there are aliases. -/
theorem resolveAlias?_eq_some_iff :
    e.resolveAlias? name = some f ↔ ∃ n, e.fieldWithin? n name = some f := by
  constructor
  · intro h
    exact ⟨_, h⟩
  · rintro ⟨n, hn⟩
    obtain ⟨k, hkn, hneeds⟩ := exists_needsSteps hn
    have hsize : k ≤ e.aliases.size := hneeds.le_size
    obtain ⟨⟨g, hg⟩, -⟩ := hneeds
    have hgn : e.fieldWithin? n name = some g := fieldWithin?_mono hkn hg
    obtain rfl : f = g := Option.some.inj (hn.symm.trans hgn)
    exact fieldWithin?_mono (Nat.succ_le_succ hsize) hg

theorem resolveAlias?_of_target {a : EnumFieldAlias} (hnone : e.field? name = none)
    (ha : e.aliases.get? name = some a) (h : e.resolveAlias? a.target = some f) :
    e.resolveAlias? name = some f := by
  refine resolveAlias?_eq_some_iff.2 ⟨e.aliases.size + 1 + 1, ?_⟩
  rw [fieldWithin?, hnone, ha]
  exact h

/-! ### Paths of aliases -/

/-- Following the targets of aliases from the first name, that many times, leads to the
second. -/
inductive LeadsTo (e : EnumType) : Nat → String → String → Prop
  | here (name : String) : LeadsTo e 0 name name
  | hop {n : Nat} {name last : String} {a : EnumFieldAlias} (ha : e.aliases.get? name = some a)
      (h : LeadsTo e n a.target last) : LeadsTo e (n + 1) name last

def HasField (e : EnumType) (name : String) : Prop := ∃ f ∈ e.fields, f.name = name

/-- The field is the first one of its name. -/
def IsFirstOfName (e : EnumType) (f : EnumField) : Prop :=
  ∃ before after, e.fields = before ++ f :: after ∧ ∀ g ∈ before, g.name ≠ f.name

/-- The field is the first one of its name, and on the path from the given name no name
before that is a field's. -/
structure IsFirstOnPath (e : EnumType) (name : String) (f : EnumField) : Prop where
  first : e.IsFirstOfName f
  path : ∃ n, e.LeadsTo n name f.name ∧
    ∀ k < n, ∀ other, e.LeadsTo k name other → ¬ e.HasField other

theorem field?_eq_none_iff : e.field? name = none ↔ ¬ e.HasField name := by
  simp [field?, HasField]

theorem field?_eq_some_iff_isFirstOfName :
    e.field? name = some f ↔ e.IsFirstOfName f ∧ f.name = name := by
  simp only [field?, IsFirstOfName, List.find?_eq_some_iff_append, decide_eq_true_eq,
    Bool.not_eq_true', decide_eq_false_iff_not]
  constructor
  · rintro ⟨rfl, before, after, hfields, hbefore⟩
    exact ⟨⟨before, after, hfields, hbefore⟩, rfl⟩
  · rintro ⟨⟨before, after, hfields, hbefore⟩, rfl⟩
    exact ⟨rfl, before, after, hfields, hbefore⟩

theorem IsFirstOfName.hasField (h : e.IsFirstOfName f) : e.HasField f.name := by
  obtain ⟨before, after, hfields, -⟩ := h
  have hmem : f ∈ before ++ f :: after := List.mem_append_right before List.mem_cons_self
  exact ⟨f, hfields ▸ hmem, rfl⟩

/-- What is found in some number of steps is the first field on the path. -/
theorem isFirstOnPath_of_fieldWithin? : ∀ {n : Nat} {name : String},
    e.fieldWithin? n name = some f → e.IsFirstOnPath name f
  | 0, _, h => nomatch h
  | n + 1, name, h => by
    rw [fieldWithin?] at h
    cases hfield : e.field? name with
    | some g =>
      rw [hfield] at h
      obtain rfl : g = f := Option.some.inj h
      obtain ⟨hfirst, rfl⟩ := field?_eq_some_iff_isFirstOfName.1 hfield
      exact ⟨hfirst, 0, .here _, fun k hk => absurd hk (Nat.not_lt_zero k)⟩
    | none =>
      rw [hfield] at h
      cases ha : e.aliases.get? name with
      | none =>
        rw [ha] at h
        cases h
      | some a =>
        rw [ha] at h
        obtain ⟨hfirst, m, hpath, hbefore⟩ := isFirstOnPath_of_fieldWithin? h
        refine ⟨hfirst, m + 1, .hop ha hpath, fun k hk other hother => ?_⟩
        -- the path goes through the target of the one alias of the name
        cases hother with
        | here => exact field?_eq_none_iff.1 hfield
        | hop hb hrest =>
          obtain rfl : a = _ := Option.some.inj (ha.symm.trans hb)
          exact hbefore _ (Nat.lt_of_succ_lt_succ hk) other hrest

theorem LeadsTo.exists_fieldWithin? {last : String} (h : e.LeadsTo n name last)
    (hlast : e.HasField last) : ∃ k f, e.fieldWithin? k name = some f := by
  induction h with
  | here name =>
    cases hfield : e.field? name with
    | some f => exact ⟨1, f, by rw [fieldWithin?, hfield]⟩
    | none => exact absurd hlast (field?_eq_none_iff.1 hfield)
  | @hop n name last a ha _ ih =>
    cases hfield : e.field? name with
    | some f => exact ⟨1, f, by rw [fieldWithin?, hfield]⟩
    | none =>
      obtain ⟨k, f, hk⟩ := ih hlast
      exact ⟨k + 1, f, by rw [fieldWithin?, hfield, ha]; exact hk⟩

theorem LeadsTo.unique {last last' : String} (h : e.LeadsTo n name last)
    (h' : e.LeadsTo n name last') : last = last' := by
  induction h with
  | here => cases h'; rfl
  | hop ha _ ih =>
    cases h' with
    | hop hb hrest =>
      obtain rfl := Option.some.inj (ha.symm.trans hb)
      exact ih hrest

theorem IsFirstOnPath.unique {g : EnumField} (hf : e.IsFirstOnPath name f)
    (hg : e.IsFirstOnPath name g) : f = g := by
  obtain ⟨hfirst, n, hpath, hbefore⟩ := hf
  obtain ⟨hfirst', m, hpath', hbefore'⟩ := hg
  have hnm : ¬ n < m := fun h => hbefore' n h _ hpath hfirst.hasField
  have hmn : ¬ m < n := fun h => hbefore m h _ hpath' hfirst'.hasField
  obtain rfl : n = m := by omega
  have hname : f.name = g.name := hpath.unique hpath'
  have hf := field?_eq_some_iff_isFirstOfName.2 ⟨hfirst, hname⟩
  have hg := field?_eq_some_iff_isFirstOfName.2 ⟨hfirst', rfl⟩
  exact Option.some.inj (hf.symm.trans hg)

/-- **What is found at all is the first field on the path**, and that is found. -/
theorem exists_fieldWithin?_iff_isFirstOnPath :
    (∃ n, e.fieldWithin? n name = some f) ↔ e.IsFirstOnPath name f := by
  constructor
  · rintro ⟨n, hn⟩
    exact isFirstOnPath_of_fieldWithin? hn
  · intro h
    obtain ⟨n, hpath, -⟩ := h.path
    obtain ⟨k, g, hk⟩ := hpath.exists_fieldWithin? h.first.hasField
    obtain rfl := (isFirstOnPath_of_fieldWithin? hk).unique h
    exact ⟨k, hk⟩

/-- **What a name of an enum denotes.** Whatever aliases there are, a name denotes a field
if and only if the path of targets from it comes to a field's name, and then it denotes
the first field of the first such name on the path. Looking along more aliases than there
are finds nothing else. -/
theorem resolveAlias?_first_on_path (e : EnumType) (name : String) :
    ((e.resolveAlias? name).isSome ↔ ∃ n last, e.LeadsTo n name last ∧ e.HasField last) ∧
      (∀ f, e.resolveAlias? name = some f ↔ e.IsFirstOnPath name f) ∧
      ∀ steps, e.aliases.size < steps → e.fieldWithin? steps name = e.resolveAlias? name := by
  have hfirst : ∀ f, e.resolveAlias? name = some f ↔ e.IsFirstOnPath name f := fun f =>
    resolveAlias?_eq_some_iff.trans exists_fieldWithin?_iff_isFirstOnPath
  refine ⟨⟨fun h => ?_, ?_⟩, hfirst, fun steps hsteps => Option.ext fun f => ⟨fun h => ?_, ?_⟩⟩
  · obtain ⟨f, hf⟩ := Option.isSome_iff_exists.1 h
    obtain ⟨hname, n, hpath, -⟩ := (hfirst f).1 hf
    exact ⟨n, f.name, hpath, hname.hasField⟩
  · rintro ⟨n, last, hpath, hlast⟩
    obtain ⟨k, f, hk⟩ := hpath.exists_fieldWithin? hlast
    exact Option.isSome_iff_exists.2 ⟨f, resolveAlias?_eq_some_iff.2 ⟨k, hk⟩⟩
  · exact resolveAlias?_eq_some_iff.2 ⟨steps, h⟩
  · exact fieldWithin?_mono hsteps

/-- Two aliases in a chain, the second of which points at the field. -/
def chainedEnum : EnumType where
  name := "E"
  fields := [⟨"C", 1, "1", false⟩]
  aliases := NameMap.ofList [("A", ⟨"A", "B", false⟩), ("B", ⟨"B", "C", false⟩)]
  bitmask := false
  bit64 := false

-- the path over all aliases is as long as the bound allows, and one step less is too few
example : chainedEnum.resolveAlias? "A" = some ⟨"C", 1, "1", false⟩ ∧
    chainedEnum.fieldWithin? chainedEnum.aliases.size "A" = none := by
  decide

end EnumType
end VulkanFoundry
