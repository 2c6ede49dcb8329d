/-
# A selection is the closure of its roots

The open roots are closed over first. Then one closing follows for every other
root and each of its macros, all on the same selection. After each of them the
selection is closed in every way at once (`Selection.ClosedIn`): what is selected
without macros has its dependencies selected without macros, and what is selected
under a macro has them selected under that macro or without any. Closing under
one macro cannot spoil the others, because it adds nothing but that macro.

A closed selection has everything that its roots reach, and each closing adds
nothing else, so the selection does not depend on the order of the roots, on
cycles or on platforms that share structs (`Registry.select_eq_closure`).

Key theorems: `Selection.ClosedIn.hasUnder_of_reaches`,
`Registry.foldlM_closeOver_ok`.
-/
import Mathlib
import VulkanFoundry.Proofs.Registry.Loading
import VulkanFoundry.Proofs.Selection.Closure
import VulkanFoundry.Proofs.Selection.Roots

namespace VulkanFoundry

/-- What is selected depends on no excluded struct, and each dependency is selected
in the same way or without macros. -/
structure Selection.ClosedIn (s : Selection) (r : Registry) (excluded : NameSet) : Prop where
  coherent : s.Coherent
  led : ∀ g a b, s.HasUnder g a → r.DependsOn a b → ¬ excluded.contains b = true ∧
    (s.HasUnder none b ∨ s.HasUnder g b)

namespace Registry

/-- The second selection is the first with guarded roots, and structs that they
reach, added under the macros of the roots. -/
structure Widens (r : Registry) (roots : List (String × String)) (s s' : Selection) : Prop where
  keeps : ∀ g n, s.HasUnder g n → s'.HasUnder g n
  others : ∀ n, s'.HasUnder none n → s.HasUnder none n
  entered : ∀ root condition, (root, condition) ∈ roots →
    s'.HasUnder none root ∨ s'.HasUnder (some condition) root
  reached : ∀ condition n, s'.HasUnder (some condition) n →
    s.HasUnder (some condition) n ∨ ∃ root, (root, condition) ∈ roots ∧ r.Reaches root n

/-- A root leads to an excluded struct, through structs that are not excluded. -/
def LeadsToExcluded (r : Registry) (c : Configuration) : Prop :=
  ∃ root a b, r.IsRoot c root ∧ r.ReachesWithin (fun n => ¬ r.IsExcluded c n) root a ∧
    r.DependsOn a b ∧ r.IsExcluded c b

/-- The selection has what the roots reach. Macros stand at what no open root
reaches: those of all roots that reach it. -/
structure IsClosure (r : Registry) (c : Configuration) (s : Selection) : Prop where
  structs : ∀ n, s.structs.contains n = true ↔ ∃ root, r.IsRoot c root ∧ r.Reaches root n
  guards : ∀ n, s.guards.contains n = true ↔
    s.structs.contains n = true ∧ ¬ ∃ root, r.IsOpenRoot c root ∧ r.Reaches root n
  macros : ∀ n macros, s.guards.get? n = some macros → ∀ condition,
    macros.contains condition = true ↔ ∃ root, r.IsRootUnder c condition root ∧ r.Reaches root n

end Registry

variable {r : Registry} {c : Configuration} {excluded : NameSet} {s s' : Selection}

/-- A closed selection has, with a struct, all that it reaches. -/
theorem Selection.ClosedIn.hasUnder_of_reaches {g : Option String} {a b : String}
    (hs : s.ClosedIn r excluded) (ha : s.HasUnder none a ∨ s.HasUnder g a)
    (hab : r.Reaches a b) : s.HasUnder none b ∨ s.HasUnder g b := by
  induction hab with
  | refl => exact ha
  | tail _ hbc ih =>
    rcases ih with h | h
    · exact .inl ((hs.led none _ _ h hbc).2.elim id id)
    · exact (hs.led g _ _ h hbc).2

namespace Registry

/-! ### One closing after the other -/

/-- A closing under a macro keeps the selection closed in every way. -/
theorem closeOver_guarded_ok {condition root : String} (hs : s.ClosedIn r excluded)
    (h : r.closeOver excluded (some condition) [] [root] s = .ok s') :
    s'.ClosedIn r excluded ∧ r.Extends (some condition) [root] s s' := by
  have hp : r.Pursues excluded (some condition) [root] s := by
    refine ⟨hs.coherent, (fun ho => nomatch ho), fun a b ha hab => ?_⟩
    obtain ⟨hb, hled⟩ := hs.led _ a b ha hab
    exact ⟨hb, hled.imp_right .inl⟩
  obtain ⟨he, hdone⟩ := closeOver_ok hp (by simp) h
  refine ⟨⟨hdone.coherent, fun g a b ha hab => ?_⟩, he⟩
  by_cases hg : g = some condition
  · subst hg
    obtain ⟨hb, hled⟩ := hdone.led a b ha hab
    refine ⟨hb, hled.imp_right fun h1 => ?_⟩
    exact h1.resolve_right List.not_mem_nil
  · -- what stands in another way stood so before, with its dependencies
    obtain ⟨hb, hled⟩ := hs.led g a b (he.others g a hg ha) hab
    exact ⟨hb, hled.imp (he.keeps none b) (he.keeps g b)⟩

theorem Widens.refl (s : Selection) : r.Widens [] s s :=
  ⟨fun _ _ h => h, fun _ h => h, fun _ _ h => absurd h List.not_mem_nil, fun _ _ h => .inl h⟩

theorem Widens.cons {condition root : String} {roots : List (String × String)}
    {s₁ : Selection} (he : r.Extends (some condition) [root] s s₁) (hw : r.Widens roots s₁ s') :
    r.Widens ((root, condition) :: roots) s s' := by
  refine
    { keeps := fun g n h => hw.keeps g n (he.keeps g n h)
      others := fun n h => he.others none n (fun ho => nomatch ho) (hw.others n h)
      entered := fun root' condition' h => ?_
      reached := fun condition' n h => ?_ }
  · rcases List.mem_cons.1 h with heq | h
    · cases heq
      have hroot := he.entered root List.mem_cons_self
      exact hroot.imp (hw.keeps none root) (hw.keeps _ root)
    · exact hw.entered root' condition' h
  · rcases hw.reached condition' n h with h1 | ⟨root', hmem, hreach⟩
    · by_cases hc : condition' = condition
      · subst hc
        rcases he.reached n h1 with h2 | ⟨p, hp, hreach⟩
        · exact .inl h2
        · obtain rfl := List.mem_singleton.1 hp
          exact .inr ⟨p, List.mem_cons_self, hreach⟩
      · exact .inl (he.others _ n (fun ho => hc (Option.some.inj ho)) h1)
    · exact .inr ⟨root', List.mem_cons_of_mem _ hmem, hreach⟩

/-- **Closing over all guarded roots.** At its end the selection is closed in every
way. -/
theorem foldlM_closeOver_ok :
    ∀ {roots : List (String × String)} {s : Selection}, s.ClosedIn r excluded →
      roots.foldlM (fun s e => r.closeOver excluded (some e.2) [] [e.1] s) s = .ok s' →
      s'.ClosedIn r excluded ∧ r.Widens roots s s'
  | [], s, hs, h => by
    obtain rfl := Except.ok.inj h
    exact ⟨hs, .refl s⟩
  | (root, condition) :: roots, s, hs, h => by
    rw [List.foldlM_cons] at h
    obtain ⟨s₁, h₁, hrest⟩ := bind_eq_ok_iff.1 h
    obtain ⟨hs₁, he⟩ := closeOver_guarded_ok hs h₁
    obtain ⟨hs', hw⟩ := foldlM_closeOver_ok hs₁ hrest
    exact ⟨hs', .cons he hw⟩

/-- The closing over the open roots selects what they reach. -/
theorem closeOver_open_ok {roots : List String}
    (h : r.closeOver excluded none [] roots {} = .ok s) :
    s.ClosedIn r excluded ∧ s.guards = ∅ ∧
      ∀ n, s.HasUnder none n ↔ ∃ root ∈ roots, r.Reaches root n := by
  have hnone : ∀ g n, ¬ Selection.HasUnder {} g n := by
    rintro (_ | condition) n h
    · simp [Selection.HasUnder] at h
    · simp [Selection.HasUnder] at h
  have hp : r.Pursues excluded none roots {} :=
    ⟨Selection.coherent_empty, fun _ => rfl, fun a b ha _ => absurd ha (hnone none a)⟩
  obtain ⟨he, hdone⟩ := closeOver_ok hp (by simp) h
  have hclosed : s.ClosedIn r excluded := by
    refine ⟨hdone.coherent, fun g a b ha hab => ?_⟩
    cases g with
    | none =>
      obtain ⟨hb, hled⟩ := hdone.led a b ha hab
      exact ⟨hb, hled.imp_right fun h1 => h1.resolve_right List.not_mem_nil⟩
    | some condition =>
      exact absurd (he.others (some condition) a (Option.some_ne_none condition) ha) (hnone _ a)
  refine ⟨hclosed, hdone.open_alone rfl, fun n => ⟨fun hn => ?_, ?_⟩⟩
  · exact (he.reached n hn).resolve_left (hnone none n)
  · rintro ⟨root, hroot, hreach⟩
    exact (hclosed.hasUnder_of_reaches (he.entered root hroot) hreach).elim id id

/-! ### The selection of a configuration -/

theorem isExcluded_iff {n : String} :
    r.IsExcluded c n ↔ (r.excludedNames c).contains n = true := contains_excludedNames.symm

/-- Selecting is a closing over the open roots, then one over the guarded roots. -/
theorem select_eq {roots : List (String × Root)} (h : r.roots c = .ok roots) :
    r.select c =
      (r.closeOver (r.excludedNames c) none [] (alwaysRoots roots).reverse {} >>= fun s =>
        (guardedRoots roots).foldlM
          (fun s e => r.closeOver (r.excludedNames c) (some e.2) [] [e.1] s) s) := by
  rw [select, h]
  rfl

/-- A selection that has its roots fails only at an excluded struct that a root leads
to. -/
theorem leadsToExcluded_of_roots {roots : List (String × Root)} {e : GenerationError}
    (hroots : r.roots c = .ok roots) (hs : r.select c = .error e) :
    r.LeadsToExcluded c ∧ ∃ a b, e = .excludedDependency a b := by
  obtain ⟨halways, hguarded⟩ := mem_of_roots hroots
  rw [select_eq hroots] at hs
  -- in either case the closing that fails starts at roots
  obtain ⟨root, hroot, a, b, hpath, hab, hb, rfl⟩ : ∃ root, r.IsRoot c root ∧
      ∃ a b, r.ReachesWithin (fun n => ¬ (r.excludedNames c).contains n = true) root a ∧
        r.DependsOn a b ∧ (r.excludedNames c).contains b = true ∧
        e = .excludedDependency (r.structName a) b := by
    rcases bind_eq_error_iff.1 hs with hfail | ⟨s, -, hfail⟩
    · obtain ⟨root, hmem, hculprit⟩ := closeOver_error hfail
      have hopen := (halways root).1 (List.mem_reverse.1 hmem)
      exact ⟨root, isRoot_iff.2 (.inl hopen), hculprit⟩
    · obtain ⟨⟨root, condition⟩, hmem, t, hfail⟩ := exists_of_foldlM_eq_error hfail
      obtain ⟨p, hp, hculprit⟩ := closeOver_error hfail
      obtain rfl := List.mem_singleton.1 hp
      exact ⟨p, isRoot_iff.2 (.inr ⟨condition, (hguarded p condition).1 hmem⟩), hculprit⟩
  simp only [← isExcluded_iff] at hpath hb
  exact ⟨⟨root, a, b, hroot, hpath, hab, hb⟩, _, _, rfl⟩

theorem leadsToExcluded_of_select {e : GenerationError} (h : c.KnownTo r)
    (hs : r.select c = .error e) :
    r.LeadsToExcluded c ∧ ∃ a b, e = .excludedDependency a b := by
  obtain ⟨roots, hroots⟩ := exists_roots_of_knownTo h
  exact leadsToExcluded_of_roots hroots hs

/-- How a selection that succeeds stands to the roots. -/
theorem closed_of_select (hs : r.select c = .ok s) :
    s.ClosedIn r (r.excludedNames c) ∧
      (∀ n, s.HasUnder none n ↔ ∃ root, r.IsOpenRoot c root ∧ r.Reaches root n) ∧
      ∀ n condition, s.HasUnder (some condition) n ↔
        ¬ s.HasUnder none n ∧ ∃ root, r.IsRootUnder c condition root ∧ r.Reaches root n := by
  obtain ⟨roots, hroots, -⟩ := bind_eq_ok_iff.1 hs
  obtain ⟨halways, hguarded⟩ := mem_of_roots hroots
  rw [select_eq hroots] at hs
  obtain ⟨s₀, hs₀, hs⟩ := bind_eq_ok_iff.1 hs
  obtain ⟨hclosed₀, hguards₀, hopen₀⟩ := closeOver_open_ok hs₀
  obtain ⟨hclosed, hw⟩ := foldlM_closeOver_ok hclosed₀ hs
  have hopen : ∀ n, s.HasUnder none n ↔ ∃ root, r.IsOpenRoot c root ∧ r.Reaches root n := by
    intro n
    have hn : s.HasUnder none n ↔ s₀.HasUnder none n := ⟨hw.others n, hw.keeps none n⟩
    rw [hn, hopen₀]
    simp only [List.mem_reverse, halways]
  refine ⟨hclosed, hopen, fun n condition => ⟨fun hn => ?_, ?_⟩⟩
  · refine ⟨Selection.not_hasUnder_none hn, ?_⟩
    rcases hw.reached condition n hn with h1 | ⟨root, hroot, hreach⟩
    · simp [Selection.HasUnder, hguards₀] at h1
    · exact ⟨root, (hguarded root condition).1 hroot, hreach⟩
  · rintro ⟨hnone, root, hroot, hreach⟩
    have hin := hw.entered root condition ((hguarded root condition).2 hroot)
    exact (hclosed.hasUnder_of_reaches hin hreach).resolve_left hnone

theorem isClosure_of_select (hs : r.select c = .ok s) : r.IsClosure c s := by
  obtain ⟨hclosed, hopen, hunder⟩ := closed_of_select hs
  have hstructs : ∀ n, s.structs.contains n = true ↔
      ∃ root, r.IsRoot c root ∧ r.Reaches root n := by
    intro n
    rw [hclosed.coherent.structs]
    constructor
    · rintro ⟨_ | condition, hn⟩
      · obtain ⟨root, hroot, hreach⟩ := (hopen n).1 hn
        exact ⟨root, isRoot_iff.2 (.inl hroot), hreach⟩
      · obtain ⟨-, root, hroot, hreach⟩ := (hunder n condition).1 hn
        exact ⟨root, isRoot_iff.2 (.inr ⟨condition, hroot⟩), hreach⟩
    · rintro ⟨root, hroot, hreach⟩
      by_cases hn : s.HasUnder none n
      · exact ⟨none, hn⟩
      rcases isRoot_iff.1 hroot with hroot | ⟨condition, hroot⟩
      · exact absurd ((hopen n).2 ⟨root, hroot, hreach⟩) hn
      · exact ⟨some condition, (hunder n condition).2 ⟨hn, root, hroot, hreach⟩⟩
  refine ⟨hstructs, fun n => ?_, fun n macros hm condition => ?_⟩
  · rw [← hopen]
    constructor
    · intro hg
      obtain ⟨condition, hn⟩ := (hclosed.coherent.guards n).1 hg
      exact ⟨(hclosed.coherent.structs n).2 ⟨_, hn⟩, Selection.not_hasUnder_none hn⟩
    · rintro ⟨hin, hn⟩
      by_contra hg
      exact hn ⟨hin, hg⟩
  · have hn : ¬ s.HasUnder none n := fun hn => hn.2 (NameMap.contains_iff.2 ⟨macros, hm⟩)
    rw [← and_iff_right hn (b := ∃ root, _), ← hunder, Selection.hasUnder_some_iff, hm,
      Option.getD_some]

/-- A closed selection contains no struct that an excluded one would have to
join. -/
theorem not_leadsToExcluded_of_select (hs : r.select c = .ok s) : ¬ r.LeadsToExcluded c := by
  obtain ⟨hclosed, -, -⟩ := closed_of_select hs
  rintro ⟨root, a, b, hroot, hpath, hab, hb⟩
  have hin := ((isClosure_of_select hs).structs a).2 ⟨root, hroot, hpath.reaches⟩
  obtain ⟨g, ha⟩ := (hclosed.coherent.structs a).1 hin
  exact (hclosed.led g a b ha hab).1 (isExcluded_iff.1 hb)

/-- **A selection is the closure of its roots**, for all graphs of dependencies and
all mixes of versions, extensions and platforms. It fails exactly if a root leads
to an excluded struct. -/
theorem select_eq_closure (h : c.KnownTo r) :
    ((∃ name dependency, r.select c = .error (.excludedDependency name dependency)) ↔
        r.LeadsToExcluded c) ∧
      (¬ r.LeadsToExcluded c → ∃ s, r.select c = .ok s ∧ r.IsClosure c s) := by
  cases hs : r.select c with
  | error e =>
    obtain ⟨hleads, a, b, rfl⟩ := leadsToExcluded_of_select h hs
    exact ⟨iff_of_true ⟨a, b, rfl⟩ hleads, fun hn => absurd hleads hn⟩
  | ok s =>
    have hn := not_leadsToExcluded_of_select hs
    refine ⟨iff_of_false ?_ hn, fun _ => ⟨s, rfl, isClosure_of_select hs⟩⟩
    rintro ⟨a, b, he⟩
    cases he

end Registry

/-- The configuration that includes all extensions and excludes no struct. -/
def everything : Configuration :=
  { extensions := { included := [allExtensions] }, excludedStructs := [] }

/-- The structs of two platforms are selected with what they share, which stands under the
macros of both. -/
theorem select_platformRegistry :
    Registry.load platformDocument = .ok platformRegistry ∧ everything.KnownTo platformRegistry ∧
      ∃ s, platformRegistry.select everything = .ok s ∧
        platformRegistry.IsClosure everything s ∧
        s.structs.names = ["Info", "Shared", "Win32Link", "XlibLink"] ∧
        s.guards.entries.map (fun e => (e.1, e.2.names)) =
          [("Shared", ["WIN32", "XLIB"]), ("Win32Link", ["WIN32"]), ("XlibLink", ["XLIB"])] := by
  have hknown : everything.KnownTo platformRegistry := by decide +kernel
  have hnone : ¬ platformRegistry.LeadsToExcluded everything := by
    rintro ⟨root, a, b, -, -, -, e, he, -⟩
    cases he
  have hselected : ∃ s, platformRegistry.select everything = .ok s ∧
      s.structs.names = ["Info", "Shared", "Win32Link", "XlibLink"] ∧
      s.guards.entries.map (fun e => (e.1, e.2.names)) =
        [("Shared", ["WIN32", "XLIB"]), ("Win32Link", ["WIN32"]), ("XlibLink", ["XLIB"])] :=
    exists_eq_ok_of_check (by decide_cbv)
  obtain ⟨s, hs, hclosure⟩ := (Registry.select_eq_closure hknown).2 hnone
  obtain ⟨s', hs', hnames, hguards⟩ := hselected
  obtain rfl : s = s' := Except.ok.inj (hs.symm.trans hs')
  exact ⟨load_platformDocument, hknown, s, hs, hclosure, hnames, hguards⟩

end VulkanFoundry
