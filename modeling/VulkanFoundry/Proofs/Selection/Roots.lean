/-
# Which structs are roots

A root is a struct that a configured version or an included extension requires,
under its own name or an alias, unless it is excluded. It is open if a version
requires it or an extension that no declared macro protects; otherwise it stands
under the macros of the extensions that require it.

The roots are computed by taking in one demand after the other, each a struct
with a macro or without one. A demand without a macro settles the struct for
good; the macros of all others add up.

Key theorems: `standsUnder_takeDemands_none`, `standsUnder_takeDemands_some`,
`Registry.mem_of_roots`.
-/
import Mathlib.Tactic.Tauto
import VulkanFoundry.Proofs.Success
import VulkanFoundry.Selection.Policy

namespace VulkanFoundry

/-- Every version and extension that a configuration names exists. -/
structure Configuration.KnownTo (c : Configuration) (r : Registry) : Prop where
  versions : ∀ name ∈ c.versions, r.coreVersions.contains name = true
  included : ∀ name ∈ c.extensions.included, name ≠ allExtensions →
    r.extensions.contains name = true
  excluded : ∀ name ∈ c.extensions.excluded, r.extensions.contains name = true

instance (c : Configuration) (r : Registry) : Decidable (c.KnownTo r) :=
  decidable_of_iff
    ((∀ name ∈ c.versions, r.coreVersions.contains name = true) ∧
      (∀ name ∈ c.extensions.included, name ≠ allExtensions →
        r.extensions.contains name = true) ∧
      ∀ name ∈ c.extensions.excluded, r.extensions.contains name = true)
    ⟨fun h => ⟨h.1, h.2.1, h.2.2⟩, fun h => ⟨h.versions, h.included, h.excluded⟩⟩

variable {r : Registry} {c : Configuration}

namespace Registry

/-- The features name the struct as a type, directly or by an alias. -/
def Requires (r : Registry) (features : List Feature) (name : String) : Prop :=
  ∃ f ∈ features, f.kind = .type ∧ ∃ s, r.struct? f.name = some s ∧ s.name = name

/-- The extension is one of those that the policy includes. -/
def Includes (r : Registry) (p : ExtensionPolicy) (x : Extension) : Prop :=
  ∃ xs, r.includedExtensions p = .ok xs ∧ x ∈ xs

/-- A configured version requires the struct, or an included extension that no
declared macro protects. -/
def RequiredOpenly (r : Registry) (c : Configuration) (name : String) : Prop :=
  (∃ v ∈ c.versions, ∃ version, r.coreVersions.get? v = some version ∧
    r.Requires version.features.values name) ∨
  ∃ x, r.Includes c.extensions x ∧ r.guardOf x = none ∧ r.Requires x.features name

/-- An included extension that the macro protects requires the struct. -/
def RequiredUnder (r : Registry) (c : Configuration) (condition name : String) : Prop :=
  ∃ x, r.Includes c.extensions x ∧ r.guardOf x = some condition ∧ r.Requires x.features name

def IsExcluded (r : Registry) (c : Configuration) (name : String) : Prop :=
  ∃ e ∈ c.excludedStructs, r.structName e = name

/-- A root that is there whatever macros are defined. -/
def IsOpenRoot (r : Registry) (c : Configuration) (name : String) : Prop :=
  r.RequiredOpenly c name ∧ ¬ r.IsExcluded c name

/-- A root that the macro brings with it. -/
def IsRootUnder (r : Registry) (c : Configuration) (condition name : String) : Prop :=
  r.RequiredUnder c condition name ∧ ¬ r.RequiredOpenly c name ∧ ¬ r.IsExcluded c name

/-- A struct that is required and not excluded. -/
def IsRoot (r : Registry) (c : Configuration) (name : String) : Prop :=
  (r.RequiredOpenly c name ∨ ∃ condition, r.RequiredUnder c condition name) ∧
    ¬ r.IsExcluded c name

/-- A root is open or stands under a macro. -/
theorem isRoot_iff {name : String} :
    r.IsRoot c name ↔ r.IsOpenRoot c name ∨ ∃ condition, r.IsRootUnder c condition name := by
  unfold IsRoot IsOpenRoot IsRootUnder
  rw [exists_and_right]
  tauto

theorem contains_excludedNames {name : String} :
    (r.excludedNames c).contains name = true ↔ r.IsExcluded c name := by
  rw [excludedNames, NameSet.contains_ofNames, List.mem_map]
  rfl

theorem mem_requiredStructs {features : List Feature} {name : String} :
    name ∈ r.requiredStructs features ↔ r.Requires features name := by
  rw [requiredStructs, List.mem_filterMap]
  refine exists_congr fun f => and_congr_right fun _ => ?_
  by_cases hk : f.kind = .type
  · rw [if_pos hk, Option.map_eq_some_iff]
    exact (and_iff_right hk).symm
  · rw [if_neg hk]
    exact ⟨fun h => (nomatch h), fun h => absurd h.1 hk⟩

end Registry

/-! ### Taking in demands -/

namespace Root

/-- What a demand, with a macro or without, makes of a root that may be new. -/
def demand : Option String → Option Root → Root
  | none, _ => always
  | some _, some always => always
  | some condition, some (guarded macros) => guarded (macros.add condition)
  | some condition, none => guarded (NameSet.add ∅ condition)

/-- The root is open, or stands under the macro. -/
def StandsUnder (root : Option Root) : Option String → Prop
  | none => root = some always
  | some condition => ∃ macros, root = some (guarded macros) ∧ macros.contains condition = true

theorem standsUnder_demand_none {guard : Option String} {root : Option Root} :
    StandsUnder (some (demand guard root)) none ↔ StandsUnder root none ∨ guard = none := by
  cases guard with
  | none => simp [StandsUnder, demand]
  | some condition => rcases root with _ | _ | macros <;> simp [StandsUnder, demand]

theorem standsUnder_demand_some {guard : Option String} {root : Option Root}
    {condition : String} : StandsUnder (some (demand guard root)) (some condition) ↔
      ¬ StandsUnder (some (demand guard root)) none ∧
        (StandsUnder root (some condition) ∨ guard = some condition) := by
  cases guard with
  | none => simp [StandsUnder, demand]
  | some other =>
    rcases root with _ | _ | macros <;>
      simp [StandsUnder, demand, NameSet.contains_add, eq_comm (a := condition), or_comm]

theorem not_standsUnder_none {root : Option Root} {condition : String}
    (h : StandsUnder root (some condition)) : ¬ StandsUnder root none := by
  obtain ⟨macros, rfl, -⟩ := h
  exact fun ho => nomatch ho

end Root

theorem get?_requireRoot {guard : Option String} {roots : NameMap Root} {name n : String} :
    (requireRoot guard roots name).get? n =
      if n = name then some (Root.demand guard (roots.get? name)) else roots.get? n := by
  unfold requireRoot
  split
  · rw [NameMap.get?_insert]
    rfl
  · rename_i hroot
    rw [hroot]
    by_cases hn : n = name
    · rw [if_pos hn, hn, hroot]
      rfl
    · rw [if_neg hn]
  · rename_i hroot
    rw [NameMap.get?_insert, hroot]
    rfl
  · rename_i hroot
    rw [NameMap.get?_insert, hroot]
    rfl

open Root (StandsUnder)

theorem standsUnder_requireRoot_none {guard : Option String} {roots : NameMap Root}
    {name n : String} : StandsUnder ((requireRoot guard roots name).get? n) none ↔
      StandsUnder (roots.get? n) none ∨ (guard = none ∧ n = name) := by
  rw [get?_requireRoot]
  by_cases hn : n = name
  · rw [if_pos hn, Root.standsUnder_demand_none, hn, and_iff_left rfl]
  · rw [if_neg hn, or_iff_left fun h => hn h.2]

theorem standsUnder_requireRoot_some {guard : Option String} {roots : NameMap Root}
    {condition name n : String} :
    StandsUnder ((requireRoot guard roots name).get? n) (some condition) ↔
      ¬ StandsUnder ((requireRoot guard roots name).get? n) none ∧
        (StandsUnder (roots.get? n) (some condition) ∨ (guard = some condition ∧ n = name)) := by
  rw [get?_requireRoot]
  by_cases hn : n = name
  · rw [if_pos hn, Root.standsUnder_demand_some, hn, and_iff_left rfl]
  · rw [if_neg hn, or_iff_left fun h => hn h.2]
    exact ⟨fun h => ⟨Root.not_standsUnder_none h, h⟩, And.right⟩

def takeDemands (demands : List (Option String × String)) (roots : NameMap Root) :
    NameMap Root :=
  demands.foldl (fun roots d => requireRoot d.1 roots d.2) roots

/-- A root is open exactly if it was, or a demand without a macro names it. -/
theorem standsUnder_takeDemands_none {n : String} :
    ∀ {demands : List (Option String × String)} {roots : NameMap Root},
      StandsUnder ((takeDemands demands roots).get? n) none ↔
        StandsUnder (roots.get? n) none ∨ (none, n) ∈ demands
  | [], roots => by simp [takeDemands]
  | d :: rest, roots => by
    rw [takeDemands, List.foldl_cons, ← takeDemands, standsUnder_takeDemands_none,
      standsUnder_requireRoot_none, List.mem_cons, Prod.ext_iff, or_assoc]
    simp only [eq_comm]

/-- What is not open stands under the macros of all demands that name it. -/
theorem standsUnder_takeDemands_some {condition n : String} :
    ∀ {demands : List (Option String × String)} {roots : NameMap Root},
      StandsUnder ((takeDemands demands roots).get? n) (some condition) ↔
        ¬ StandsUnder ((takeDemands demands roots).get? n) none ∧
          (StandsUnder (roots.get? n) (some condition) ∨ (some condition, n) ∈ demands)
  | [], roots => by simpa [takeDemands] using Root.not_standsUnder_none
  | d :: rest, roots => by
    rw [takeDemands, List.foldl_cons, ← takeDemands, standsUnder_takeDemands_some,
      standsUnder_takeDemands_none, standsUnder_requireRoot_some, List.mem_cons, Prod.ext_iff,
      eq_comm (a := some condition), eq_comm (a := n)]
    tauto

/-! ### The roots of a configuration -/

namespace Registry

/-- The structs that versions and extensions demand, in the order in which they
are taken in. -/
def demands (r : Registry) (versions : List CoreVersion) (extensions : List Extension) :
    List (Option String × String) :=
  versions.flatMap (fun v => (r.requiredStructs v.features.values).map fun n => (none, n)) ++
    extensions.flatMap fun x => (r.requiredStructs x.features).map fun n => (r.guardOf x, n)

theorem rootsOf_eq_takeDemands {versions : List CoreVersion} {extensions : List Extension} :
    r.rootsOf versions extensions = takeDemands (r.demands versions extensions) NameMap.empty := by
  rw [takeDemands, demands, List.foldl_append, List.foldl_flatMap, List.foldl_flatMap]
  simp only [List.foldl_map]
  rfl

theorem mem_demands {versions : List CoreVersion} {extensions : List Extension}
    {guard : Option String} {n : String} : (guard, n) ∈ r.demands versions extensions ↔
      (guard = none ∧ ∃ v ∈ versions, r.Requires v.features.values n) ∨
        ∃ x ∈ extensions, r.guardOf x = guard ∧ r.Requires x.features n := by
  rw [demands, List.mem_append, List.mem_flatMap, List.mem_flatMap]
  simp only [List.mem_map, mem_requiredStructs, Prod.ext_iff]
  constructor
  · rintro (⟨v, hv, m, hm, rfl, rfl⟩ | ⟨x, hx, m, hm, rfl, rfl⟩)
    · exact .inl ⟨rfl, v, hv, hm⟩
    · exact .inr ⟨x, hx, rfl, hm⟩
  · rintro (⟨rfl, v, hv, hn⟩ | ⟨x, hx, rfl, hn⟩)
    · exact .inl ⟨v, hv, n, hn, rfl, rfl⟩
    · exact .inr ⟨x, hx, n, hn, rfl, rfl⟩

theorem mem_alwaysRoots {roots : List (String × Root)} {n : String} :
    n ∈ alwaysRoots roots ↔ (n, Root.always) ∈ roots := by
  rw [alwaysRoots, List.mem_filterMap]
  constructor
  · rintro ⟨⟨m, _ | macros⟩, he, h⟩
    · exact Option.some.inj h ▸ he
    · cases h
  · intro h
    exact ⟨(n, .always), h, rfl⟩

theorem mem_guardedRoots {roots : List (String × Root)} {n condition : String} :
    (n, condition) ∈ guardedRoots roots ↔
      ∃ macros, (n, Root.guarded macros) ∈ roots ∧ macros.contains condition = true := by
  rw [guardedRoots, List.mem_flatMap]
  constructor
  · rintro ⟨⟨m, _ | macros⟩, he, h⟩
    · cases h
    · obtain ⟨x, hx, heq⟩ := List.mem_map.1 h
      cases heq
      exact ⟨macros, he, NameMap.mem_names_iff.1 hx⟩
  · rintro ⟨macros, he, hm⟩
    exact ⟨(n, .guarded macros), he, List.mem_map.2 ⟨condition, NameMap.mem_names_iff.2 hm, rfl⟩⟩

theorem includedExtensions_of_knownTo (h : c.KnownTo r) :
    ∃ xs, r.includedExtensions c.extensions = .ok xs := by
  have hexcluded : (c.extensions.excluded.forM fun name =>
      (r.knownExtension name).map fun _ => ()) = .ok () := by
    refine forM_eq_ok_iff.2 fun name hname => ?_
    obtain ⟨x, hx⟩ := NameMap.contains_iff.1 (h.excluded name hname)
    rw [knownExtension, hx]
    rfl
  have hnamed : ∃ named, r.namedExtensions c.extensions = .ok named := by
    unfold namedExtensions
    by_cases hall : c.extensions.included.contains allExtensions = true
    · exact ⟨r.extensions, by rw [if_pos hall]⟩
    · rw [if_neg hall]
      obtain ⟨xs, hxs⟩ : ∃ xs, c.extensions.included.mapM r.knownExtension = .ok xs := by
        refine exists_mapM_eq_ok fun name hname => ?_
        have hne : name ≠ allExtensions := fun he => hall (by simpa [he] using hname)
        obtain ⟨x, hx⟩ := NameMap.contains_iff.1 (h.included name hname hne)
        exact ⟨x, by rw [knownExtension, hx]⟩
      rw [hxs]
      exact ⟨_, rfl⟩
  obtain ⟨named, hnamed⟩ := hnamed
  unfold includedExtensions
  rw [hexcluded, hnamed]
  exact ⟨_, rfl⟩

theorem configuredVersions_of_knownTo (h : c.KnownTo r) :
    ∃ versions, r.configuredVersions c.versions = .ok versions := by
  refine exists_mapM_eq_ok fun name hname => ?_
  obtain ⟨v, hv⟩ := NameMap.contains_iff.1 (h.versions name hname)
  exact ⟨v, by rw [hv]⟩

theorem mem_configuredVersions {names : List String} {versions : List CoreVersion}
    (h : r.configuredVersions names = .ok versions) {v : CoreVersion} :
    v ∈ versions ↔ ∃ name ∈ names, r.coreVersions.get? name = some v := by
  rw [mem_iff_of_mapM_eq_ok h]
  refine exists_congr fun name => and_congr_right fun _ => ?_
  cases r.coreVersions.get? name with
  | none => simp
  | some w => simp

theorem exists_roots_of_knownTo (h : c.KnownTo r) : ∃ roots, r.roots c = .ok roots := by
  obtain ⟨versions, hversions⟩ := configuredVersions_of_knownTo h
  obtain ⟨extensions, hextensions⟩ := includedExtensions_of_knownTo h
  rw [Registry.roots, hversions, hextensions]
  exact ⟨_, rfl⟩

/-- What the versions and extensions of a configuration require, all demands taken
in. -/
theorem standsUnder_rootsOf {versions : List CoreVersion} {extensions : List Extension}
    (hv : r.configuredVersions c.versions = .ok versions)
    (hx : r.includedExtensions c.extensions = .ok extensions) (n : String) :
    (StandsUnder ((r.rootsOf versions extensions).get? n) none ↔ r.RequiredOpenly c n) ∧
      ∀ condition, StandsUnder ((r.rootsOf versions extensions).get? n) (some condition) ↔
        r.RequiredUnder c condition n ∧ ¬ r.RequiredOpenly c n := by
  have hincludes : ∀ x, r.Includes c.extensions x ↔ x ∈ extensions := by
    intro x
    simp [Includes, hx]
  have hopen : StandsUnder ((r.rootsOf versions extensions).get? n) none ↔
      r.RequiredOpenly c n := by
    rw [rootsOf_eq_takeDemands, standsUnder_takeDemands_none, mem_demands, RequiredOpenly]
    simp only [mem_configuredVersions hv, hincludes]
    constructor
    · rintro (h | ⟨-, v, ⟨name, hname, hv⟩, hn⟩ | h)
      · cases h
      · exact .inl ⟨name, hname, v, hv, hn⟩
      · exact .inr h
    · rintro (⟨name, hname, v, hv, hn⟩ | h)
      · exact .inr (.inl ⟨trivial, v, ⟨name, hname, hv⟩, hn⟩)
      · exact .inr (.inr h)
  refine ⟨hopen, fun condition => ?_⟩
  rw [← hopen, rootsOf_eq_takeDemands, standsUnder_takeDemands_some, mem_demands, RequiredUnder,
    and_comm]
  refine and_congr_left fun _ => ?_
  simp only [hincludes]
  constructor
  · rintro (⟨macros, h, -⟩ | ⟨h, -⟩ | h)
    · cases h
    · cases h
    · exact h
  · exact fun h => .inr (.inr h)

/-- The roots that are computed are the roots, each with the macros that it stands
under. -/
theorem mem_of_roots {roots : List (String × Root)} (h : r.roots c = .ok roots) :
    (∀ n, n ∈ alwaysRoots roots ↔ r.IsOpenRoot c n) ∧
      ∀ n condition, (n, condition) ∈ guardedRoots roots ↔ r.IsRootUnder c condition n := by
  obtain ⟨versions, hv, h⟩ := bind_eq_ok_iff.1 h
  obtain ⟨extensions, hx, h⟩ := bind_eq_ok_iff.1 h
  obtain rfl := Except.ok.inj h
  have hkept : ∀ {n : String} {root : Root},
      (n, root) ∈ (r.rootsOf versions extensions).entries.filter
          (fun e => !(r.excludedNames c).contains e.1) ↔
        (r.rootsOf versions extensions).get? n = some root ∧ ¬ r.IsExcluded c n := by
    intro n root
    rw [List.mem_filter, NameMap.mem_entries_iff, ← contains_excludedNames, Bool.not_eq_true,
      Bool.not_eq_true']
  refine ⟨fun n => ?_, fun n condition => ?_⟩
  · rw [mem_alwaysRoots, hkept, IsOpenRoot, ← (standsUnder_rootsOf hv hx n).1]
    rfl
  · rw [mem_guardedRoots, IsRootUnder, ← and_assoc, ← (standsUnder_rootsOf hv hx n).2 condition]
    simp only [hkept, StandsUnder]
    constructor
    · rintro ⟨macros, ⟨hm, he⟩, hc⟩
      exact ⟨⟨macros, hm, hc⟩, he⟩
    · rintro ⟨⟨macros, hm, hc⟩, he⟩
      exact ⟨macros, ⟨hm, he⟩, hc⟩

end Registry
end VulkanFoundry
