/-
# Code that only platforms bring

A struct to which neither a version leads nor an extension without a platform is selected
for the sake of platforms alone. It should exist only where the macro of one of them is
defined. The macro of an extension is looked up under the name of its platform, and no
check asks whether a platform of that name is declared: an extension of a platform that is
not declared brings its structs without any macro, as if it had no platform, and so it
does with all that they depend on.

This is the only way for such a struct to stand without macros. It has one if and only if
no extension of an undeclared platform leads to it (`guarded_iff_of_platforms_only`).

Key theorems: `Registry.requiredOpenly_iff`, `Registry.exists_hasUnder_iff`,
`undeclared_platform_is_not_guarded`.
-/
import VulkanFoundry.Proofs.Factory.Guards

namespace VulkanFoundry

open Code

namespace Registry

/-- A configured version requires the struct, or an included extension that belongs to no
platform. -/
def RequiredApartFromPlatforms (r : Registry) (c : Configuration) (name : String) : Prop :=
  (∃ v ∈ c.versions, ∃ version, r.coreVersions.get? v = some version ∧
    r.Requires version.features.values name) ∨
  ∃ x, r.Includes c.extensions x ∧ x.platform = none ∧ r.Requires x.features name

/-- An included extension requires the struct, of a platform that is not declared. -/
def RequiredByUndeclaredPlatform (r : Registry) (c : Configuration) (name : String) : Prop :=
  ∃ x platform, r.Includes c.extensions x ∧ x.platform = some platform ∧
    r.platforms.get? platform = none ∧ r.Requires x.features name

/-- A struct that is required in the given way, and that is not excluded, reaches the
named one. -/
def LeadsTo (r : Registry) (c : Configuration) (required : String → Prop) (name : String) : Prop :=
  ∃ root, required root ∧ ¬ r.IsExcluded c root ∧ r.Reaches root name

variable {r : Registry} {c : Configuration} {s : Selection} {name : String}

/-- No macro protects an extension without a platform, or of one that is not declared. -/
theorem guardOf_eq_none_iff {x : Extension} : r.guardOf x = none ↔ x.platform = none ∨
    ∃ platform, x.platform = some platform ∧ r.platforms.get? platform = none := by
  unfold guardOf
  rw [Option.map_eq_none_iff]
  cases x.platform with
  | none => simp
  | some platform => simp

/-- What is required without macros is required apart from platforms, or by a platform
that is not declared. -/
theorem requiredOpenly_iff : r.RequiredOpenly c name ↔
    r.RequiredApartFromPlatforms c name ∨ r.RequiredByUndeclaredPlatform c name := by
  unfold RequiredOpenly
  simp only [guardOf_eq_none_iff]
  constructor
  · rintro (hversion | ⟨x, hx, hnone | ⟨platform, hsome, hundeclared⟩, hrequires⟩)
    · exact .inl (.inl hversion)
    · exact .inl (.inr ⟨x, hx, hnone, hrequires⟩)
    · exact .inr ⟨x, platform, hx, hsome, hundeclared, hrequires⟩
  · rintro ((hversion | ⟨x, hx, hnone, hrequires⟩) | hundeclared)
    · exact .inl hversion
    · exact .inr ⟨x, hx, .inl hnone, hrequires⟩
    · obtain ⟨x, platform, hx, hsome, hundeclared, hrequires⟩ := hundeclared
      exact .inr ⟨x, hx, .inr ⟨platform, hsome, hundeclared⟩, hrequires⟩

/-- An open root leads to a struct exactly if something required apart from platforms does,
or something that a platform requires that is not declared. -/
theorem exists_isOpenRoot_iff : (∃ root, r.IsOpenRoot c root ∧ r.Reaches root name) ↔
    r.LeadsTo c (r.RequiredApartFromPlatforms c) name ∨
      r.LeadsTo c (r.RequiredByUndeclaredPlatform c) name := by
  simp only [IsOpenRoot, requiredOpenly_iff, LeadsTo, or_and_right, exists_or, and_assoc]

/-- **Which selected structs stand under macros:** those that no open root leads to. -/
theorem exists_hasUnder_iff (hs : r.select c = .ok s) (hin : s.structs.contains name = true) :
    (∃ condition, s.HasUnder (some condition) name) ↔
      ¬ ∃ root, r.IsOpenRoot c root ∧ r.Reaches root name := by
  obtain ⟨hclosed, -, -⟩ := closed_of_select hs
  rw [← hclosed.coherent.guards, (isClosure_of_select hs).guards, and_iff_right hin]

end Registry

open Registry (LeadsTo RequiredApartFromPlatforms RequiredByUndeclaredPlatform)

variable {r : Registry} {c : Configuration} {s : Selection} {text name : String}

/-- A struct does not exist where no macro is defined exactly if it stands under one. -/
theorem Selection.enabled_nowhere_iff (hs : s.Coherent) (hin : s.structs.contains name = true) :
    enabled (fun _ => false) (s.guardsOf name) = false ↔
      ∃ condition, s.HasUnder (some condition) name := by
  have hnone : ¬ ∃ condition, s.HasUnder (some condition) name ∧ false = true := by simp
  rw [← Bool.not_eq_true, enabled_guardsOf_iff hs hin, or_iff_left hnone, ← hs.guards, HasUnder,
    and_iff_right hin, not_not]

/-- **What only platforms bring has a macro,** and its factory does not exist where no
macro is defined, unless an extension of a platform that is not declared leads to it. -/
theorem guarded_iff_of_platforms_only (h : Registry.load text = .ok r) (hs : r.select c = .ok s)
    (hin : s.structs.contains name = true)
    (hplatforms : ¬ r.LeadsTo c (r.RequiredApartFromPlatforms c) name) :
    ((∃ macros, s.guards.get? name = some macros ∧
        ∃ condition, macros.contains condition = true) ↔
      ¬ r.LeadsTo c (r.RequiredByUndeclaredPlatform c) name) ∧
    ∀ f, FactorySet.ofConfiguration r c = .ok f → ∀ p ∈ f.plans, p.name = name →
      (enabled (fun _ => false) p.guards = false ↔
        ¬ r.LeadsTo c (r.RequiredByUndeclaredPlatform c) name) := by
  have hunder : (∃ condition, s.HasUnder (some condition) name) ↔
      ¬ r.LeadsTo c (r.RequiredByUndeclaredPlatform c) name := by
    rw [Registry.exists_hasUnder_iff hs hin, Registry.exists_isOpenRoot_iff,
      or_iff_right hplatforms]
  refine ⟨?_, fun f hf p hp hname => ?_⟩
  · rw [← hunder]
    constructor
    · rintro ⟨macros, hmacros, condition, hcondition⟩
      exact ⟨condition, macros, hmacros, hcondition⟩
    · rintro ⟨condition, macros, hmacros, hcondition⟩
      exact ⟨macros, hmacros, condition, hcondition⟩
  · obtain ⟨-, s', hs', -, hfollows⟩ :=
      FactorySet.follows_of_ofConfiguration (Registry.keyedByName_of_load h) hf
    obtain rfl : s' = s := Except.ok.inj (hs'.symm.trans hs)
    obtain ⟨-, hguards, -⟩ := FactoryPlan.ofStruct_ok (hfollows p hp).planned
    obtain ⟨hclosed, -, -⟩ := Registry.closed_of_select hs
    rw [hguards, hname, Selection.enabled_nowhere_iff hclosed.coherent hin, hunder]

/-! ### A platform that is declared, and one that is not -/

theorem mem_of_includes_platformRegistry {x : Extension}
    (hx : platformRegistry.Includes everything.extensions x) :
    x = (platformExtension "VK_KHR_win32" 6 "win32" ["Win32Link"]).2 ∨
      x = (platformExtension "VK_KHR_xlib" 5 "xlib" ["XlibLink"]).2 := by
  obtain ⟨xs, hxs, hx⟩ := hx
  have hall : platformRegistry.includedExtensions everything.extensions =
      .ok [(platformExtension "VK_KHR_win32" 6 "win32" ["Win32Link"]).2,
        (platformExtension "VK_KHR_xlib" 5 "xlib" ["XlibLink"]).2] := by decide +kernel
  obtain rfl := Except.ok.inj (hall.symm.trans hxs)
  simpa using hx

/-- Apart from platforms only `Info` is required in `platformRegistry`, and it depends on
nothing. -/
theorem not_leadsTo_shared : ¬ platformRegistry.LeadsTo everything
    (platformRegistry.RequiredApartFromPlatforms everything) "Shared" := by
  rintro ⟨root, hroot, -, hreach⟩
  have hinfo : root = "Info" := by
    rcases hroot with ⟨v, hv, version, hversion, hrequires⟩ | ⟨x, hx, hnone, -⟩
    · obtain rfl := List.mem_singleton.1 hv
      have hfirst : platformRegistry.coreVersions.get? "VK_VERSION_1_0" =
          some (firstVersion ["Info"]).2 := by decide +kernel
      obtain rfl : (firstVersion ["Info"]).2 = version := Option.some.inj (hfirst ▸ hversion)
      have honly : platformRegistry.requiredStructs (firstVersion ["Info"]).2.features.values =
          ["Info"] := by decide +kernel
      rw [← Registry.mem_requiredStructs, honly] at hrequires
      exact List.mem_singleton.1 hrequires
    · rcases mem_of_includes_platformRegistry hx with rfl | rfl <;> cases hnone
  subst hinfo
  rcases Relation.ReflTransGen.cases_head hreach with heq | ⟨b, hdepends, -⟩
  · exact absurd heq (by decide)
  · have hsource : platformRegistry.struct? "Info" = some
        { name := "Info", members := [.plain "void*" "pNext"], extended := [],
          returnedOnly := false } := by decide +kernel
    have hnone : platformRegistry.dependencies
        { name := "Info", members := [.plain "void*" "pNext"], extended := [],
          returnedOnly := false } = [] := by decide +kernel
    rw [Registry.dependsOn_iff hsource, hnone] at hdepends
    exact List.not_mem_nil hdepends

/-- The struct that two declared platforms share stands under a macro. -/
theorem shared_guarded : ∃ s, platformRegistry.select everything = .ok s ∧
    s.structs.contains "Shared" = true ∧
    ∃ macros, s.guards.get? "Shared" = some macros ∧
      ∃ condition, macros.contains condition = true := by
  have hselect : ∃ s, platformRegistry.select everything = .ok s ∧
      s.structs.contains "Shared" = true := exists_eq_ok_of_check (by decide_cbv)
  obtain ⟨s, hs, hin⟩ := hselect
  obtain ⟨hguarded, -⟩ :=
    guarded_iff_of_platforms_only load_platformDocument hs hin not_leadsTo_shared
  refine ⟨s, hs, hin, hguarded.2 ?_⟩
  rintro ⟨root, ⟨x, platform, hx, hplatform, hundeclared, -⟩, -⟩
  have hdeclared : ∀ name ∈ ["win32", "xlib"], platformRegistry.platforms.get? name ≠ none := by
    decide +kernel
  rcases mem_of_includes_platformRegistry hx with rfl | rfl
  · exact hdeclared "win32" (by simp) (Option.some.inj hplatform ▸ hundeclared)
  · exact hdeclared "xlib" (by simp) (Option.some.inj hplatform ▸ hundeclared)

/-- An extension of a platform that the document does not declare. -/
def undeclaredDocument : String := r#"<registry>
<types><type category="struct" name="S"></type></types>
<extensions>
<extension name="VK_KHR_x" number="1" supported="vulkan" platform="p">
<require><type name="S"/></require></extension>
</extensions>
</registry>"#

def undeclaredRegistry : Registry where
  types := NameMap.ofList [structEntry "S" [] []]
  extensions := NameMap.ofList [platformExtension "VK_KHR_x" 1 "p" ["S"]]

set_option maxRecDepth 20000 in
theorem load_undeclaredDocument : Registry.load undeclaredDocument = .ok undeclaredRegistry := by
  rw [Registry.load_eq_loadChars (rfl : undeclaredDocument = _)]
  decide +kernel

def extensionsAlone : Configuration :=
  { versions := [], extensions := { included := [allExtensions] } }

/-- **What only an undeclared platform brings has no macro.** No version and no extension
without a platform requires anything, and the struct of the extension is selected without
macros. -/
theorem undeclared_platform_is_not_guarded :
    Registry.load undeclaredDocument = .ok undeclaredRegistry ∧
      ∃ s, undeclaredRegistry.select extensionsAlone = .ok s ∧
        s.structs.contains "S" = true ∧
        ¬ undeclaredRegistry.LeadsTo extensionsAlone
          (undeclaredRegistry.RequiredApartFromPlatforms extensionsAlone) "S" ∧
        s.guards.get? "S" = none := by
  have hselect : ∃ s, undeclaredRegistry.select extensionsAlone = .ok s ∧
      s.structs.contains "S" = true ∧ s.guards.get? "S" = none :=
    exists_eq_ok_of_check (by decide_cbv)
  obtain ⟨s, hs, hin, hguards⟩ := hselect
  refine ⟨load_undeclaredDocument, s, hs, hin, ?_, hguards⟩
  rintro ⟨root, ⟨v, hv, -⟩ | ⟨x, ⟨xs, hxs, hx⟩, hnone, -⟩, -⟩
  · exact List.not_mem_nil hv
  · have hall : undeclaredRegistry.includedExtensions extensionsAlone.extensions =
        .ok [(platformExtension "VK_KHR_x" 1 "p" ["S"]).2] := by decide +kernel
    obtain rfl := Except.ok.inj (hall.symm.trans hxs)
    obtain rfl := List.mem_singleton.1 hx
    cases hnone

end VulkanFoundry
