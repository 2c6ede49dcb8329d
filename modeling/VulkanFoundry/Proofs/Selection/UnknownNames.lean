/-
# Names that a configuration must not invent

Versions are looked up first, then the extensions to be left out, then those to be
included. The first name that nothing is declared under ends the selection, and it is the
one that is reported. But where all extensions are included, the names of extensions that
stand beside that mark are not looked up, so an unknown one among them is passed over.

A selection therefore fails at an unknown name if and only if a version is unknown, or an
extension to be left out, or, without the mark for all, one to be included
(`Registry.select_unknown_iff`).

Key theorems: `Registry.error?_includedExtensions`, `Registry.error?_roots`,
`Registry.unknown_beside_all_is_passed_over`.
-/
import VulkanFoundry.Proofs.Selection.Selected

namespace VulkanFoundry

/-- The extensions that a policy asks for by their names, in the order in which they are
looked up. -/
def ExtensionPolicy.lookedUp (p : ExtensionPolicy) : List String :=
  p.excluded ++ if p.included.contains allExtensions then [] else p.included

theorem ExtensionPolicy.mem_lookedUp_iff {p : ExtensionPolicy} {name : String} :
    name ∈ p.lookedUp ↔
      name ∈ p.excluded ∨ allExtensions ∉ p.included ∧ name ∈ p.included := by
  unfold lookedUp
  by_cases hall : allExtensions ∈ p.included <;> simp [hall]

namespace Registry

variable {r : Registry} {c : Configuration}

/-! ### The first name that is unknown -/

/-- Among names that are looked up in turn the first unknown one decides. -/
theorem findSome?_unknown {α : Type} {known : NameMap α} {e : String → GenerationError}
    {look : String → Option GenerationError}
    (hlook : ∀ name, look name = if known.contains name then none else some (e name))
    (names : List String) :
    names.findSome? look = (names.find? fun name => !known.contains name).map e := by
  induction names with
  | nil => rfl
  | cons name names ih =>
    rw [List.findSome?_cons, List.find?_cons, hlook name, ih]
    cases known.contains name <;> rfl

theorem error?_configuredVersions (names : List String) :
    error? (r.configuredVersions names) =
      (names.find? fun name => !r.coreVersions.contains name).map .unknownVersion := by
  rw [configuredVersions, error?_mapM]
  refine findSome?_unknown (fun name => ?_) names
  unfold NameMap.contains
  cases r.coreVersions.get? name <;> rfl

theorem error?_knownExtension (name : String) : error? (r.knownExtension name) =
    if r.extensions.contains name then none else some (.unknownExtension name) := by
  unfold knownExtension NameMap.contains
  cases r.extensions.get? name <;> rfl

theorem error?_namedExtensions (p : ExtensionPolicy) :
    error? (r.namedExtensions p) =
      ((if p.included.contains allExtensions then [] else p.included).find? fun name =>
        !r.extensions.contains name).map .unknownExtension := by
  unfold namedExtensions
  split
  · rfl
  · rw [error?_bind_of_ok fun _ => rfl, error?_mapM]
    exact findSome?_unknown error?_knownExtension p.included

/-- The extensions fail at the first unknown name that is looked up. -/
theorem error?_includedExtensions (p : ExtensionPolicy) :
    error? (r.includedExtensions p) =
      (p.lookedUp.find? fun name => !r.extensions.contains name).map .unknownExtension := by
  have hexcluded : error? (p.excluded.forM fun name =>
      (r.knownExtension name).map fun _ => ()) =
      (p.excluded.find? fun name => !r.extensions.contains name).map .unknownExtension := by
    rw [error?_forM]
    refine findSome?_unknown (fun name => ?_) p.excluded
    rw [error?_map, error?_knownExtension]
  have hrest : ∀ _ : Unit, error? (r.namedExtensions p >>= fun named =>
      pure ((named.entries.filter fun e => !leavesOut p e.1 e.2).map (·.2))) = _ := fun _ =>
    (error?_bind_of_ok fun _ => rfl).trans (error?_namedExtensions p)
  rw [includedExtensions, error?_bind_eq_or hrest, hexcluded, ExtensionPolicy.lookedUp,
    List.find?_append, Option.map_or]

/-- The roots fail at the first unknown version, or else at the first unknown
extension. -/
theorem error?_roots : error? (r.roots c) =
    ((c.versions.find? fun name => !r.coreVersions.contains name).map .unknownVersion).or
      ((c.extensions.lookedUp.find? fun name =>
        !r.extensions.contains name).map .unknownExtension) := by
  have hrest : ∀ versions : List CoreVersion, error? (r.includedExtensions c.extensions >>=
      fun extensions => pure ((r.rootsOf versions extensions).entries.filter fun e =>
        !(r.excludedNames c).contains e.1)) = _ := fun _ =>
    (error?_bind_of_ok fun _ => rfl).trans (error?_includedExtensions c.extensions)
  rw [roots, error?_bind_eq_or hrest, error?_configuredVersions]

/-- Once the roots are there, a selection fails at no unknown name. -/
theorem select_eq_error_iff_of_ne {e : GenerationError}
    (hne : ∀ a b, e ≠ .excludedDependency a b) :
    r.select c = .error e ↔ error? (r.roots c) = some e := by
  rw [← eq_error_iff]
  constructor
  · intro hs
    rcases bind_eq_error_iff.1 hs with hroots | ⟨roots, hroots, -⟩
    · exact hroots
    · obtain ⟨-, a, b, he⟩ := leadsToExcluded_of_roots hroots hs
      exact absurd he (hne a b)
  · intro hroots
    rw [select, hroots]
    rfl

theorem exists_find?_unknown_iff {α : Type} {known : NameMap α} {names : List String} :
    (∃ name, names.find? (fun n => !known.contains n) = some name) ↔
      ∃ name ∈ names, known.contains name = false := by
  rw [← Option.isSome_iff_exists, List.find?_isSome]
  simp

/-! ### When a selection fails at an unknown name -/

/-- **A selection fails at an unknown name** if and only if there is one among the versions,
the extensions to be left out, and those to be included unless all are. It reports the
first, versions before extensions. -/
theorem select_unknown_iff :
    ((∃ name, r.select c = .error (.unknownVersion name) ∨
        r.select c = .error (.unknownExtension name)) ↔
      (∃ name ∈ c.versions, r.coreVersions.contains name = false) ∨
      (∃ name ∈ c.extensions.excluded, r.extensions.contains name = false) ∨
      (allExtensions ∉ c.extensions.included ∧
        ∃ name ∈ c.extensions.included, r.extensions.contains name = false)) ∧
    (∀ name, r.select c = .error (.unknownVersion name) ↔
      c.versions.find? (fun n => !r.coreVersions.contains n) = some name) ∧
    ∀ name, r.select c = .error (.unknownExtension name) ↔
      c.versions.find? (fun n => !r.coreVersions.contains n) = none ∧
      c.extensions.lookedUp.find? (fun n => !r.extensions.contains n) = some name := by
  have hversion : ∀ name, r.select c = .error (.unknownVersion name) ↔
      c.versions.find? (fun n => !r.coreVersions.contains n) = some name := by
    intro name
    rw [select_eq_error_iff_of_ne (by simp), error?_roots, Option.or_eq_some_iff]
    simp
  have hextension : ∀ name, r.select c = .error (.unknownExtension name) ↔
      c.versions.find? (fun n => !r.coreVersions.contains n) = none ∧
      c.extensions.lookedUp.find? (fun n => !r.extensions.contains n) = some name := by
    intro name
    rw [select_eq_error_iff_of_ne (by simp), error?_roots, Option.or_eq_some_iff]
    simp
  refine ⟨?_, hversion, hextension⟩
  have hnamed : (∃ name ∈ c.extensions.lookedUp, r.extensions.contains name = false) ↔
      (∃ name ∈ c.extensions.excluded, r.extensions.contains name = false) ∨
      (allExtensions ∉ c.extensions.included ∧
        ∃ name ∈ c.extensions.included, r.extensions.contains name = false) := by
    simp only [ExtensionPolicy.mem_lookedUp_iff, or_and_right, exists_or, and_assoc,
      exists_and_left]
  simp only [hversion, hextension]
  rw [← hnamed, ← exists_find?_unknown_iff, ← exists_find?_unknown_iff]
  cases hv : c.versions.find? (fun n => !r.coreVersions.contains n) with
  | some version => simp
  | none => simp

/-! ### An unknown name beside the mark for all -/

/-- The configuration that includes all extensions and one more, and no version. -/
def allAndMissing : Configuration :=
  { versions := [], extensions := { included := [allExtensions, "VK_KHR_missing"] } }

/-- **An unknown extension is passed over** where all are included beside it. -/
theorem unknown_beside_all_is_passed_over :
    load emptyDocument = .ok {} ∧ "VK_KHR_missing" ∈ allAndMissing.extensions.included ∧
      "VK_KHR_missing" ≠ allExtensions ∧
      ({} : Registry).extensions.contains "VK_KHR_missing" = false ∧
      ∃ s, select {} allAndMissing = .ok s := by
  have hroots : roots {} allAndMissing = .ok [] := by decide +kernel
  have hselect : select {} allAndMissing = .ok {} := by
    rw [select_eq hroots]
    show (closeOver {} _ none [] [] {} >>= fun s => Except.ok s) = _
    rw [closeOver]
    rfl
  exact ⟨load_emptyDocument, by decide, by decide, by decide, {}, hselect⟩

end Registry
end VulkanFoundry
