/-
# Closing a selection over dependencies

A selection has a struct without any macro, or under each of some macros. One
closing adds structs in one of these ways, under one macro or without. It leaves
all other ways as they are (`Extends.others`), adds nothing but what the pending
structs lead to (`Extends.reached`), and at its end every struct selected in this
way has its dependencies selected in the same way or without any macro, none of
them excluded (`closeOver_ok`). It fails only where a struct that is reached
without entering an excluded one depends on an excluded one (`closeOver_error`).

While the closing runs, the dependencies that are still missing are pending; this
is the invariant `Pursues`, which each visit keeps.

Key theorems: `Registry.closeOver_ok`, `Registry.closeOver_error`.
-/
import VulkanFoundry.Proofs.Selection.Reachability
import VulkanFoundry.Selection.Closure

namespace VulkanFoundry

namespace Selection

/-- The struct is selected under the macro, or without any. -/
def HasUnder (s : Selection) : Option String → String → Prop
  | none, name => s.structs.contains name = true ∧ ¬ s.guards.contains name = true
  | some condition, name =>
    ∃ macros, s.guards.get? name = some macros ∧ macros.contains condition = true

/-- Every selected struct is selected in some way, and what has macros has at
least one. -/
structure Coherent (s : Selection) : Prop where
  structs : ∀ name, s.structs.contains name = true ↔ ∃ guard, s.HasUnder guard name
  guards : ∀ name, s.guards.contains name = true ↔ ∃ condition, s.HasUnder (some condition) name

variable {s s' : Selection}

theorem hasUnder_some_iff {condition name : String} :
    s.HasUnder (some condition) name ↔
      ((s.guards.get? name).getD ∅).contains condition = true := by
  unfold HasUnder
  cases h : s.guards.get? name with
  | none => simp [h]
  | some macros => simp [h]

theorem not_hasUnder_none {condition name : String} (h : s.HasUnder (some condition) name) :
    ¬ s.HasUnder none name := by
  obtain ⟨macros, hm, -⟩ := h
  rintro ⟨-, hg⟩
  exact hg (NameMap.contains_iff.2 ⟨macros, hm⟩)

/-- While nothing stands under a macro, what is selected is selected without. -/
theorem hasUnder_none_iff (h : s.guards = ∅) {name : String} :
    s.HasUnder none name ↔ s.structs.contains name = true := by
  rw [HasUnder, h]
  simp

theorem coherent_empty : Coherent {} := by
  constructor
  · intro name
    refine ⟨fun h => by simp at h, ?_⟩
    rintro ⟨_ | condition, h⟩
    · exact h.1
    · simp [HasUnder] at h
  · intro name
    refine ⟨fun h => by simp at h, ?_⟩
    rintro ⟨condition, h⟩
    simp [HasUnder] at h

/-! ### One visit -/

theorem hasUnder_of_visit?_eq_none {guard : Option String} {name : String}
    (ho : guard = none → s.guards = ∅) (h : s.visit? guard name = none) :
    s.HasUnder none name := by
  cases guard with
  | none =>
    simp only [visit?] at h
    split at h
    · rename_i hin
      exact (hasUnder_none_iff (ho rfl)).2 hin
    · cases h
  | some condition =>
    simp only [visit?] at h
    split at h
    · rename_i hin
      simpa [HasUnder] using hin
    · cases h

/-- A visit without a macro touches no macros. -/
theorem guards_visit?_none {name : String} (h : s.visit? none name = some s') :
    s'.guards = s.guards := by
  simp only [visit?] at h
  split at h
  · cases h
  · rw [← Option.some.inj h]

/-- A visit adds the struct to those selected in its way, and changes nothing
else. -/
theorem hasUnder_visit? {guard : Option String} {name : String}
    (ho : guard = none → s.guards = ∅) (h : s.visit? guard name = some s')
    (g : Option String) (n : String) :
    s'.HasUnder g n ↔ s.HasUnder g n ∨ (g = guard ∧ n = name) := by
  cases guard with
  | none =>
    have ho' : s'.guards = ∅ := (guards_visit?_none h).trans (ho rfl)
    cases g with
    | none =>
      rw [hasUnder_none_iff ho', hasUnder_none_iff (ho rfl)]
      simp only [visit?] at h
      split at h
      · cases h
      · rw [← Option.some.inj h, NameSet.contains_add]
        simp [or_comm]
    | some condition => simp [HasUnder, ho', ho rfl]
  | some condition =>
    simp only [visit?] at h
    split at h
    · cases h
    rename_i hnew
    -- a struct that is there without macros is not visited under one
    have hname : ¬ s.HasUnder none name := by
      rintro ⟨h1, h2⟩
      simp [h1, h2] at hnew
    rw [← Option.some.inj h]
    by_cases hn : n = name
    · subst hn
      cases g with
      | none =>
        simp only [HasUnder, NameMap.contains_insert] at hname ⊢
        simpa using hname
      | some other =>
        rw [hasUnder_some_iff, hasUnder_some_iff, NameMap.get?_insert, if_pos rfl,
          Option.getD_some, NameSet.contains_add]
        simp [or_comm]
    · cases g with
      | none => simp [HasUnder, NameSet.contains_add, NameMap.contains_insert, hn]
      | some other => simp [HasUnder, NameMap.get?_insert, hn]

theorem HasUnder.visit? {guard : Option String} {name : String}
    (ho : guard = none → s.guards = ∅) (h : s.visit? guard name = some s') :
    (∀ {g : Option String} {n : String}, s.HasUnder g n → s'.HasUnder g n) ∧
      s'.HasUnder guard name := by
  constructor
  · intro g n hn
    exact (hasUnder_visit? ho h g n).2 (.inl hn)
  · exact (hasUnder_visit? ho h guard name).2 (.inr ⟨rfl, rfl⟩)

theorem Coherent.visit? {guard : Option String} {name : String} (hs : s.Coherent)
    (ho : guard = none → s.guards = ∅) (h : s.visit? guard name = some s') : s'.Coherent := by
  have hin : ∀ n, s'.structs.contains n = true ↔ n = name ∨ s.structs.contains n = true := by
    intro n
    cases guard <;> simp only [Selection.visit?] at h <;> split at h <;> try cases h
    all_goals exact NameSet.contains_add
  have hguards : ∀ n, s'.guards.contains n = true ↔
      s.guards.contains n = true ∨ (guard ≠ none ∧ n = name) := by
    intro n
    cases guard <;> simp only [Selection.visit?] at h <;> split at h <;> try cases h
    · simp
    · simp [NameMap.contains_insert, or_comm]
  constructor
  · intro n
    rw [hin, hs.structs]
    simp only [hasUnder_visit? ho h, exists_or, exists_eq_left]
    exact or_comm.trans (by simp)
  · intro n
    rw [hguards, hs.guards]
    simp only [hasUnder_visit? ho h, exists_or, exists_and_right]
    cases guard <;> simp

end Selection

namespace Registry

variable {r : Registry} {excluded : NameSet} {guard : Option String}
variable {name : String} {visited pending rest : List String} {s s₁ s' : Selection}

/-- What is selected in the given way depends on no excluded struct, and each
dependency is selected in the same way, or without macros, or still pending. -/
structure Pursues (r : Registry) (excluded : NameSet) (guard : Option String)
    (pending : List String) (s : Selection) : Prop where
  coherent : s.Coherent
  open_alone : guard = none → s.guards = ∅
  led : ∀ a b, s.HasUnder guard a → r.DependsOn a b → ¬ excluded.contains b = true ∧
    (s.HasUnder none b ∨ s.HasUnder guard b ∨ b ∈ pending)

/-- The second selection is the first with the pending structs, and other structs
that they lead to, added in the given way. -/
structure Extends (r : Registry) (guard : Option String) (pending : List String)
    (s s' : Selection) : Prop where
  keeps : ∀ g n, s.HasUnder g n → s'.HasUnder g n
  others : ∀ g n, g ≠ guard → s'.HasUnder g n → s.HasUnder g n
  entered : ∀ n ∈ pending, s'.HasUnder none n ∨ s'.HasUnder guard n
  reached : ∀ n, s'.HasUnder guard n → s.HasUnder guard n ∨ ∃ p ∈ pending, r.Reaches p n

/-! ### One step -/

/-- A pending struct that is there already needs no visit. -/
theorem Pursues.skip (h : r.Pursues excluded guard (name :: rest) s)
    (hname : s.HasUnder none name ∨ s.HasUnder guard name) : r.Pursues excluded guard rest s := by
  refine ⟨h.coherent, h.open_alone, fun a b ha hab => ?_⟩
  obtain ⟨hb, hled⟩ := h.led a b ha hab
  refine ⟨hb, ?_⟩
  rcases hled with h1 | h1 | h1
  · exact .inl h1
  · exact .inr (.inl h1)
  · rcases List.mem_cons.1 h1 with rfl | h1
    · exact hname.imp_right .inl
    · exact .inr (.inr h1)

/-- A visit keeps the invariant if what the struct depends on becomes pending. -/
theorem Pursues.visit {more : List String} (h : r.Pursues excluded guard (name :: rest) s)
    (hv : s.visit? guard name = some s₁)
    (hmore : ∀ b, r.DependsOn name b → ¬ excluded.contains b = true ∧ b ∈ more) :
    r.Pursues excluded guard (more ++ rest) s₁ := by
  have hadd := Selection.hasUnder_visit? h.open_alone hv
  obtain ⟨hkeeps, hentered⟩ := Selection.HasUnder.visit? h.open_alone hv
  refine
    { coherent := h.coherent.visit? h.open_alone hv
      open_alone := fun hg => ?_
      led := fun a b ha hab => ?_ }
  · subst hg
    exact (Selection.guards_visit?_none hv).trans (h.open_alone rfl)
  · rcases (hadd guard a).1 ha with ha | ⟨-, rfl⟩
    · obtain ⟨hb, hled⟩ := h.led a b ha hab
      refine ⟨hb, ?_⟩
      rcases hled with h1 | h1 | h1
      · exact .inl (hkeeps h1)
      · exact .inr (.inl (hkeeps h1))
      · rcases List.mem_cons.1 h1 with rfl | h1
        · exact .inr (.inl hentered)
        · exact .inr (.inr (List.mem_append_right _ h1))
    · obtain ⟨hb, hin⟩ := hmore b hab
      exact ⟨hb, .inr (.inr (List.mem_append_left _ hin))⟩

theorem Extends.refl (s : Selection) : r.Extends guard [] s s :=
  ⟨fun _ _ h => h, fun _ _ _ h => h, fun _ h => absurd h List.not_mem_nil, fun _ h => .inl h⟩

theorem Extends.skip (h : r.Extends guard rest s s')
    (hname : s.HasUnder none name ∨ s.HasUnder guard name) :
    r.Extends guard (name :: rest) s s' := by
  refine { h with entered := fun n hn => ?_, reached := fun n hn => ?_ }
  · rcases List.mem_cons.1 hn with rfl | hn
    · exact hname.imp (h.keeps none n) (h.keeps guard n)
    · exact h.entered n hn
  · refine (h.reached n hn).imp_right ?_
    rintro ⟨p, hp, hpn⟩
    exact ⟨p, List.mem_cons_of_mem _ hp, hpn⟩

theorem Extends.visit {more : List String} (h : r.Extends guard (more ++ rest) s₁ s')
    (ho : guard = none → s.guards = ∅) (hv : s.visit? guard name = some s₁)
    (hmore : ∀ b ∈ more, r.DependsOn name b) : r.Extends guard (name :: rest) s s' := by
  have hadd := Selection.hasUnder_visit? ho hv
  obtain ⟨hkeeps, hentered⟩ := Selection.HasUnder.visit? ho hv
  refine
    { keeps := fun g n hn => h.keeps g n (hkeeps hn)
      others := fun g n hg hn => ?_
      entered := fun n hn => ?_
      reached := fun n hn => ?_ }
  · have hold := (hadd g n).1 (h.others g n hg hn)
    exact hold.resolve_right fun hnew => hg hnew.1
  · rcases List.mem_cons.1 hn with rfl | hn
    · exact .inr (h.keeps guard n hentered)
    · exact h.entered n (List.mem_append_right _ hn)
  · rcases h.reached n hn with h1 | ⟨p, hp, hpn⟩
    · rcases (hadd guard n).1 h1 with h1 | ⟨-, rfl⟩
      · exact .inl h1
      · exact .inr ⟨n, List.mem_cons_self, .refl⟩
    · rcases List.mem_append.1 hp with hp | hp
      · exact .inr ⟨name, List.mem_cons_self, .head (hmore p hp) hpn⟩
      · exact .inr ⟨p, List.mem_cons_of_mem _ hp, hpn⟩

/-! ### The whole run -/

/-- **A closing that succeeds closes.** It adds the pending structs and what they
lead to, and leaves nothing pending. -/
theorem closeOver_ok (hp : r.Pursues excluded guard pending s)
    (hv : ∀ v ∈ visited, s.HasUnder guard v)
    (h : r.closeOver excluded guard visited pending s = .ok s') :
    r.Extends guard pending s s' ∧ r.Pursues excluded guard [] s' := by
  fun_induction closeOver r excluded guard visited pending s with
  | case1 visited s =>
    obtain rfl := Except.ok.inj h
    exact ⟨.refl s, hp⟩
  | case2 visited s name rest hin ih =>
    have hname : s.HasUnder none name ∨ s.HasUnder guard name := .inr (hv name hin)
    obtain ⟨he, hdone⟩ := ih (hp.skip hname) hv h
    exact ⟨he.skip hname, hdone⟩
  | case3 visited s name rest hin hnone ih =>
    have hname : s.HasUnder none name ∨ s.HasUnder guard name :=
      .inl (Selection.hasUnder_of_visit?_eq_none hp.open_alone hnone)
    obtain ⟨he, hdone⟩ := ih (hp.skip hname) hv h
    exact ⟨he.skip hname, hdone⟩
  | case4 visited s name rest hin s₁ hs₁ hstruct ih =>
    obtain ⟨hkeeps, -⟩ := Selection.HasUnder.visit? hp.open_alone hs₁
    have hp₁ : r.Pursues excluded guard ([] ++ rest) s₁ := by
      refine hp.visit hs₁ ?_
      rintro b ⟨t, ht, -⟩
      rw [hstruct] at ht
      cases ht
    obtain ⟨he, hdone⟩ := ih hp₁ (fun v hm => hkeeps (hv v hm)) h
    have he₁ : r.Extends guard ([] ++ rest) s₁ s' := he
    exact ⟨he₁.visit hp.open_alone hs₁ (by simp), hdone⟩
  | case5 => cases h
  | case6 visited s name rest hin s₁ hs₁ struct hstruct _ hnone ih =>
    obtain ⟨hkeeps, hentered⟩ := Selection.HasUnder.visit? hp.open_alone hs₁
    have hdeps : ∀ b, r.DependsOn name b ↔ b ∈ (r.dependencies struct).reverse := by
      intro b
      rw [dependsOn_iff hstruct, List.mem_reverse]
    have hp₁ : r.Pursues excluded guard ((r.dependencies struct).reverse ++ rest) s₁ := by
      refine hp.visit hs₁ fun b hb => ?_
      have hdep : b ∈ r.dependencies struct := (dependsOn_iff hstruct).1 hb
      exact ⟨List.find?_eq_none.1 hnone b hdep, (hdeps b).1 hb⟩
    have hv₁ : ∀ v ∈ name :: visited, s₁.HasUnder guard v := by
      intro v hm
      rcases List.mem_cons.1 hm with rfl | hm
      · exact hentered
      · exact hkeeps (hv v hm)
    obtain ⟨he, hdone⟩ := ih hp₁ hv₁ h
    exact ⟨he.visit hp.open_alone hs₁ fun b hb => (hdeps b).2 hb, hdone⟩

/-- **A closing fails only at an excluded dependency.** The struct that has it is
reached from a pending one without entering an excluded struct. -/
theorem closeOver_error {e : GenerationError}
    (h : r.closeOver excluded guard visited pending s = .error e) :
    ∃ p ∈ pending, ∃ a b, r.ReachesWithin (fun n => ¬ excluded.contains n = true) p a ∧
      r.DependsOn a b ∧ excluded.contains b = true ∧
      e = .excludedDependency (r.structName a) b := by
  fun_induction closeOver r excluded guard visited pending s with
  | case1 => cases h
  | case2 visited s name rest hin ih =>
    obtain ⟨p, hp, hfail⟩ := ih h
    exact ⟨p, List.mem_cons_of_mem _ hp, hfail⟩
  | case3 visited s name rest hin hnone ih =>
    obtain ⟨p, hp, hfail⟩ := ih h
    exact ⟨p, List.mem_cons_of_mem _ hp, hfail⟩
  | case4 visited s name rest hin s₁ hs₁ hstruct ih =>
    obtain ⟨p, hp, hfail⟩ := ih h
    exact ⟨p, List.mem_cons_of_mem _ hp, hfail⟩
  | case5 visited s name rest hin s₁ hs₁ struct hstruct _ dependency hfound =>
    obtain rfl := Except.error.inj h
    have hdep : dependency ∈ r.dependencies struct := List.mem_of_find?_eq_some hfound
    refine ⟨name, List.mem_cons_self, name, dependency, .refl, ⟨struct, hstruct, hdep⟩,
      List.find?_some hfound, ?_⟩
    rw [structName, hstruct]
  | case6 visited s name rest hin s₁ hs₁ struct hstruct _ hnone ih =>
    obtain ⟨p, hp, a, b, hpa, hfail⟩ := ih h
    rcases List.mem_append.1 hp with hp | hp
    · have hdep : p ∈ r.dependencies struct := List.mem_reverse.1 hp
      have hkept : ¬ excluded.contains p = true := List.find?_eq_none.1 hnone p hdep
      exact ⟨name, List.mem_cons_self, a, b, .head ⟨⟨struct, hstruct, hdep⟩, hkept⟩ hpa, hfail⟩
    · exact ⟨p, List.mem_cons_of_mem _ hp, a, b, hpa, hfail⟩

end Registry
end VulkanFoundry
