/-
# Factories that exist together

A set of defined macros decides which factories exist: those without macros, and
those with one of the defined ones. The macros of a struct go to all that it
depends on, unless the dependency stands without macros. So wherever a factory
exists, the factories that its members are stored by exist too, and each is the one
plan of its name. A chain test is in the test file where the factories of its three
structs exist.

Key theorems: `Selection.ClosedIn.enabled_guardsOf`, `exists_enabled_plan`,
`plans_enabled_together`.
-/
import Mathlib
import VulkanFoundry.Proofs.Factory.Plans
import VulkanFoundry.Proofs.Factory.Tests
import VulkanFoundry.Proofs.Storage.StorableTypes

namespace VulkanFoundry

open Code
open TypeText (IsWord OfWordChars)

/-- All types are named by characters of identifiers. -/
def Registry.NamesAreWords (r : Registry) : Prop := ∀ name ∈ r.types.names, OfWordChars name

instance (r : Registry) : Decidable r.NamesAreWords :=
  inferInstanceAs (Decidable (∀ name ∈ r.types.names, OfWordChars name))

variable {r : Registry} {c : Configuration} {s : Selection} {f : FactorySet} {p : FactoryPlan}
variable {text : String} {defined : String → Bool}

theorem Registry.NamesAreWords.star (h : r.NamesAreWords) : r.get? "*" = none := by
  cases hget : r.get? "*" with
  | none => rfl
  | some t =>
    have hin : "*" ∈ r.types.names := List.mem_map_of_mem (NameMap.mem_entries_iff.2 hget)
    have hstar : ¬ OfWordChars "*" := by decide
    exact absurd (h "*" hin) hstar

theorem FactoryPlan.Follows.ofWordChars (hp : p.Follows r s) (h : r.NamesAreWords) :
    OfWordChars p.name :=
  h p.name (Registry.mem_names_of_struct? hp.source)

/-! ### The macros of a selected struct -/

namespace Selection

theorem mem_guardsOf_iff {name condition : String} :
    condition ∈ s.guardsOf name ↔ s.HasUnder (some condition) name := by
  unfold guardsOf HasUnder
  cases hmacros : s.guards.get? name with
  | none => simp [hmacros]
  | some macros => simp [hmacros, NameMap.mem_names_iff]

/-- The struct exists if it stands without macros, or under a defined one. -/
theorem enabled_guardsOf_iff (hs : s.Coherent) {name : String}
    (hin : s.structs.contains name = true) : enabled defined (s.guardsOf name) = true ↔
      s.HasUnder none name ∨ ∃ condition, s.HasUnder (some condition) name ∧
        defined condition = true := by
  rw [enabled, Bool.or_eq_true, List.any_eq_true, List.isEmpty_iff]
  simp only [mem_guardsOf_iff]
  refine or_congr_left ?_
  constructor
  · intro hnil
    refine ⟨hin, fun hg => ?_⟩
    obtain ⟨condition, hc⟩ := (hs.guards name).1 hg
    have hmem := mem_guardsOf_iff.2 hc
    rw [hnil] at hmem
    cases hmem
  · intro hnone
    refine List.eq_nil_iff_forall_not_mem.2 fun condition hc => ?_
    exact not_hasUnder_none (mem_guardsOf_iff.1 hc) hnone

/-- **Where a struct exists, its dependencies exist.** -/
theorem ClosedIn.enabled_guardsOf {excluded : NameSet} (hs : s.ClosedIn r excluded)
    {a b : String} (ha : enabled defined (s.guardsOf a) = true)
    (hin : s.structs.contains a = true) (hab : r.DependsOn a b) :
    enabled defined (s.guardsOf b) = true := by
  have hb : ∀ {g : Option String}, s.HasUnder g b → s.structs.contains b = true := fun h =>
    (hs.coherent.structs b).2 ⟨_, h⟩
  rcases (enabled_guardsOf_iff hs.coherent hin).1 ha with hnone | ⟨condition, hc, hdefined⟩
  · have hopen : s.HasUnder none b := (hs.led none a b hnone hab).2.elim id id
    exact (enabled_guardsOf_iff hs.coherent (hb hopen)).2 (.inl hopen)
  · rcases (hs.led _ a b hc hab).2 with hopen | hunder
    · exact (enabled_guardsOf_iff hs.coherent (hb hopen)).2 (.inl hopen)
    · exact (enabled_guardsOf_iff hs.coherent (hb hunder)).2 (.inr ⟨condition, hunder, hdefined⟩)

end Selection

/-! ### Plans by their names -/

theorem exists_filter_name_eq :
    ∀ {plans : List FactoryPlan} {name : String}, (plans.map FactoryPlan.name).Nodup →
      name ∈ plans.map FactoryPlan.name →
      ∃ q ∈ plans, q.name = name ∧ plans.filter (fun q => q.name = name) = [q]
  | [], _, _, h => absurd h List.not_mem_nil
  | p :: plans, name, hn, h => by
    obtain ⟨hnew, hrest⟩ := List.nodup_cons.1 hn
    by_cases hp : p.name = name
    · refine ⟨p, List.mem_cons_self, hp, ?_⟩
      rw [List.filter_cons_of_pos (by simpa using hp)]
      refine congrArg (p :: ·) (List.filter_eq_nil_iff.2 fun q hq hname => hnew ?_)
      rw [hp, ← of_decide_eq_true hname]
      exact List.mem_map_of_mem hq
    · have hin : name ∈ plans.map FactoryPlan.name :=
        (List.mem_cons.1 h).resolve_left fun he => hp he.symm
      obtain ⟨q, hq, hname, hfilter⟩ := exists_filter_name_eq hrest hin
      refine ⟨q, List.mem_cons_of_mem p hq, hname, ?_⟩
      rw [List.filter_cons_of_neg (by simpa using hp), hfilter]

/-- A member that is stored by way of a factory has its factory where its own plan
exists. -/
theorem exists_enabled_plan (h : Registry.load text = .ok r) (hw : r.NamesAreWords)
    (hf : FactorySet.ofConfiguration r c = .ok f) (hp : p ∈ f.plans)
    (henabled : enabled defined p.guards = true) {m : PlannedMember} (hm : m ∈ p.members)
    (hstored : m.stored.storage.NamesFactory) :
    ∃ q, f.plans.filter (fun q => q.name = m.stored.base) = [q] ∧
      enabled defined q.guards = true := by
  have hr := Registry.keyedByName_of_load h
  obtain ⟨-, s, hs, hnames, hfollows⟩ := FactorySet.follows_of_ofConfiguration hr hf
  obtain ⟨hclosed, -, -⟩ := Registry.closed_of_select hs
  have hmem : ∀ {n : String}, n ∈ f.structNames ↔ s.structs.contains n = true :=
    FactorySet.mem_structNames_iff hr hs hnames
  have hnodup : f.structNames.Nodup := hnames ▸ Registry.nodup_sequence hr
  have hin : s.structs.contains p.name = true := hmem.1 (List.mem_map_of_mem hp)
  have hguards : ∀ q ∈ f.plans, q.guards = s.guardsOf q.name := fun q hq =>
    (FactoryPlan.ofStruct_ok (hfollows q hq).planned).2.1
  rw [hguards p hp] at henabled
  by_cases hself : m.stored.base = p.name
  · obtain ⟨q, hq, hname, hfilter⟩ :=
      exists_filter_name_eq hnodup (hmem.2 (hself ▸ hin : s.structs.contains _ = true))
    refine ⟨q, hfilter, ?_⟩
    rw [hguards q hq, hname, hself]
    exact henabled
  · have hdep := (hfollows p hp).dependsOn hw.star hm hstored hself
    obtain ⟨q, hq, hname, hfilter⟩ :=
      exists_filter_name_eq hnodup (hmem.2 (Registry.contains_of_dependsOn hs hin hdep))
    refine ⟨q, hfilter, ?_⟩
    rw [hguards q hq, hname]
    exact hclosed.enabled_guardsOf henabled hin hdep

theorem FactoryPlan.Follows.readable (hp : p.Follows r s) (hw : r.NamesAreWords)
    (hvalues : p.OneLineValues) (hguards : ∀ g ∈ p.guards, IsWord g) : p.Readable where
  name := hp.ofWordChars hw
  values := hvalues
  links m hm hlink := by
    obtain ⟨-, -, hmembers⟩ := FactoryPlan.ofStruct_ok hp.planned
    obtain ⟨-, hstored⟩ := hmembers m hm
    exact Registry.name_eq_of_chainLink (Registry.storeAs_eq_ok_iff.1 hstored) hlink
  guards := hguards

/-- **Factories exist together with what they need.** For any defined macros, a factory
that exists has the factories of its members. The tests of a plan are that of its defaults,
and a chain test if it has links, which are planned too. The chain test stands under
conditions that all hold exactly where the factories of its struct and of both links exist.
So a preprocessor leaves it in the test file there and nowhere else. -/
theorem plans_enabled_together (h : Registry.load text = .ok r) (hw : r.NamesAreWords)
    (hf : FactorySet.ofConfiguration r c = .ok f) (defined : String → Bool) :
    (∀ p ∈ f.plans, enabled defined p.guards = true → ∀ m ∈ p.members,
      m.stored.storage.NamesFactory →
      ∃ q, f.plans.filter (fun q => q.name = m.stored.base) = [q] ∧
        enabled defined q.guards = true) ∧
    (∀ p ∈ f.plans,
      (chainTestLinks? f.registry f.plans p = none →
        f.testsOf p = "\n" ++ protect p.guards p.defaultsTest) ∧
      ∀ first second, chainTestLinks? f.registry f.plans p = some (first, second) →
        first ∈ f.plans ∧ second ∈ f.plans ∧ ∃ conditions,
          f.testsOf p = "\n" ++ protect p.guards p.defaultsTest ++
            ("\n" ++ nest conditions (p.chainTest first second)) ∧
          (conditions.all (enabled defined) = true ↔ enabled defined p.guards = true ∧
            enabled defined first.guards = true ∧ enabled defined second.guards = true)) ∧
    ((∀ p ∈ f.plans, p.OneLineValues ∧ ∀ g ∈ p.guards, IsWord g) →
      '\n' ∉ f.codeNamespace.toList →
      preprocess defined f.tests = sourceLines f.testsOpening ++
        f.plans.flatMap (f.keptTestsOf defined) ++ sourceLines ("\n" ++ testMain)) := by
  obtain ⟨-, s, -, -, hfollows⟩ :=
    FactorySet.follows_of_ofConfiguration (Registry.keyedByName_of_load h) hf
  refine ⟨fun p hp henabled m hm hstored =>
    exists_enabled_plan h hw hf hp henabled hm hstored, fun p hp => ⟨fun hnone => ?_, ?_⟩,
    fun hplain hname => FactorySet.preprocess_tests (fun p hp => ?_) hname⟩
  · rw [FactorySet.testsOf, hnone, String.append_empty]
  · intro first second hlinks
    obtain ⟨hfirst, hsecond, hsame⟩ := mem_of_chainTestLinks? hlinks
    obtain ⟨conditions, hnest, hmem⟩ := guardedChainTest_eq_nest (p := p) hsame
    refine ⟨hfirst, hsecond, conditions, by rw [FactorySet.testsOf, hlinks, ← hnest], ?_⟩
    rw [List.all_eq_true]
    simp only [hmem, List.mem_cons, List.not_mem_nil, or_false, forall_eq_or_imp, forall_eq]
  · obtain ⟨hvalues, hguards⟩ := hplain p hp
    exact (hfollows p hp).readable hw hvalues hguards

/-! ### One platform without the other -/

/-- The factories of `platformRegistry`: a link holds the struct that both platforms
share, and the chain test needs a link of each platform. -/
theorem plans_platformRegistry :
    ∃ f, FactorySet.ofConfiguration platformRegistry everything = .ok f ∧
      (∀ p ∈ f.plans, p.expectedValues = [] ∧ ∀ g ∈ p.guards, IsWord g) ∧
      '\n' ∉ f.codeNamespace.toList ∧
      (∃ p ∈ f.plans, enabled (· = "XLIB") p.guards = true ∧
        ∃ m ∈ p.members, m.stored.base = "Shared" ∧ m.stored.storage = .nestedFactory) ∧
      ∃ p ∈ f.plans, p.name = "Info" ∧ p.guards = [] ∧ ∃ first second,
        chainTestLinks? f.registry f.plans p = some (first, second) ∧
        enabled (· = "XLIB") first.guards = false := by
  have hcheck : (FactorySet.ofConfiguration platformRegistry everything).toOption.any (fun f =>
      decide ((∀ p ∈ f.plans, p.expectedValues = [] ∧ ∀ g ∈ p.guards, IsWord g) ∧
        '\n' ∉ f.codeNamespace.toList ∧
        (∃ p ∈ f.plans, enabled (· = "XLIB") p.guards = true ∧
          ∃ m ∈ p.members, m.stored.base = "Shared" ∧ m.stored.storage = .nestedFactory) ∧
        ∃ p ∈ f.plans, p.name = "Info" ∧ p.guards = [] ∧
          (chainTestLinks? f.registry f.plans p).any
            (fun links : FactoryPlan × FactoryPlan =>
              !enabled (· = "XLIB") links.1.guards) = true)) = true := by decide_cbv
  obtain ⟨f, hf, hplain, hname, hheld, p, hp, hinfo, hguards, htest⟩ :=
    exists_eq_ok_of_check hcheck
  obtain ⟨⟨first, second⟩, hlinks, hmissing⟩ := (Option.any_eq_true _ _).1 htest
  exact ⟨f, hf, hplain, hname, hheld, p, hp, hinfo, hguards, first, second, hlinks,
    by simpa using hmissing⟩

/-- With the macro of one platform defined, the struct that its link holds exists, and of
the tests of `Info` only that of its defaults is left, as the link of the other platform
does not exist. -/
theorem shared_enabled_with_xlibLink :
    ∃ f, FactorySet.ofConfiguration platformRegistry everything = .ok f ∧
      (∃ q, f.plans.filter (fun q => q.name = "Shared") = [q] ∧
        enabled (· = "XLIB") q.guards = true) ∧
      (∃ p ∈ f.plans, p.name = "Info" ∧
        (∃ first second conditions, f.testsOf p = "\n" ++ protect p.guards p.defaultsTest ++
          ("\n" ++ nest conditions (p.chainTest first second))) ∧
        f.keptTestsOf (· = "XLIB") p = [] :: sourceLines p.defaultsTest ++ [[]]) ∧
      preprocess (· = "XLIB") f.tests = sourceLines f.testsOpening ++
        f.plans.flatMap (f.keptTestsOf (· = "XLIB")) ++ sourceLines ("\n" ++ testMain) := by
  obtain ⟨f, hf, hplain, hname, ⟨q, hq, henabled, m, hm, hbase, hstored⟩, p, hp, hinfo,
    hguards, first, second, hlinks, hmissing⟩ := plans_platformRegistry
  obtain ⟨htogether, htests, hkept⟩ :=
    plans_enabled_together load_platformDocument (by decide +kernel) hf (· = "XLIB")
  have hvalues : ∀ {p : FactoryPlan}, p.expectedValues = [] → p.OneLineValues := fun hp e he =>
    absurd (hp ▸ he) List.not_mem_nil
  refine ⟨f, hf, ?_, ⟨p, hp, hinfo, ?_, ?_⟩,
    hkept (fun p hp => (hplain p hp).imp_left hvalues) hname⟩
  · rw [← hbase]
    exact htogether q hq henabled m hm (hstored ▸ trivial)
  · obtain ⟨-, -, conditions, htext, -⟩ := (htests p hp).2 first second hlinks
    exact ⟨first, second, conditions, htext⟩
  · have hopen : enabled (· = "XLIB") p.guards = true := by rw [hguards]; rfl
    rw [FactorySet.keptTestsOf, hlinks, if_pos hopen]
    simp only [hmissing, Bool.and_false, Bool.false_and]
    rfl

end VulkanFoundry
