/-
# What is generated from a respelled registry

Planning gives every member its stored type, which does not change when the registry is
respelled; and no file ever shows the type of a member itself. So plans are compared
without the types of their members, and plans that then agree give the same files. The
one place where the type of a member is shown is the error that it cannot be stored.

Key theorems: `FactorySet.header_withoutTypes`, `FactorySet.tests_withoutTypes`,
`Registry.Respelled.outcome_planSelection`, `Registry.Respelled.generate_eq`.
-/
import Mathlib
import VulkanFoundry.Proofs.Factory.Failure
import VulkanFoundry.Proofs.Selection.Respelling

namespace VulkanFoundry

/-! ### Plans without the types of members -/

def Member.withoutType (m : Member) : Member := { m with type := "" }

def StructType.withoutTypes (s : StructType) : StructType :=
  { s with members := s.members.map Member.withoutType }

def PlannedMember.withoutType (m : PlannedMember) : PlannedMember :=
  { m with member := m.member.withoutType }

def FactoryPlan.withoutTypes (p : FactoryPlan) : FactoryPlan :=
  { p with
    source := p.source.withoutTypes
    members := p.members.map PlannedMember.withoutType }

def GenerationError.withoutType : GenerationError → GenerationError
  | .unmappableType member _ => .unmappableType member ""
  | e => e

theorem StructType.hasChainLink_withoutTypes (s : StructType) :
    s.withoutTypes.hasChainLink = s.hasChainLink := by
  unfold hasChainLink withoutTypes
  rw [List.any_map]
  rfl

/-! ### Files do not show the types of members -/

namespace FactoryPlan

variable (p : FactoryPlan)

theorem defaults_withoutTypes : p.withoutTypes.defaults = p.defaults := by
  unfold defaults withoutTypes
  rw [List.mapM_map]
  rfl

theorem generateMethod_withoutTypes : p.withoutTypes.generateMethod = p.generateMethod := by
  have hmembers : p.withoutTypes.members.map PlannedMember.generateStatement =
      p.members.map PlannedMember.generateStatement := by
    rw [withoutTypes, List.map_map]
    rfl
  unfold generateMethod
  rw [hmembers]
  rfl

theorem classWith_withoutTypes (defaults : List String) :
    p.withoutTypes.classWith defaults = p.classWith defaults := by
  have hmethods : p.withoutTypes.members.flatMap (fun m => [m.setter, m.getter]) =
      p.members.flatMap fun m => [m.setter, m.getter] := by
    rw [withoutTypes, List.flatMap_map]
    rfl
  have hfields : (p.withoutTypes.members.map fun m => (⟨m.stored.expr, m.field⟩ : Code.Argument)) =
      p.members.map fun m => ⟨m.stored.expr, m.field⟩ := by
    rw [withoutTypes, List.map_map]
    rfl
  have hchain : p.withoutTypes.chainSizeMethod = p.chainSizeMethod := by
    unfold chainSizeMethod
    rw [withoutTypes, StructType.hasChainLink_withoutTypes]
  unfold classWith
  rw [hmethods, hfields, hchain, generateMethod_withoutTypes]
  rfl

theorem factoryClass_withoutTypes : p.withoutTypes.factoryClass = p.factoryClass := by
  unfold factoryClass
  rw [defaults_withoutTypes, funext p.classWith_withoutTypes]

theorem expectedValues_withoutTypes : p.withoutTypes.expectedValues = p.expectedValues := by
  unfold expectedValues withoutTypes
  rw [List.filterMap_map]
  rfl

theorem defaultsTest_withoutTypes : p.withoutTypes.defaultsTest = p.defaultsTest := by
  have hmembers : p.withoutTypes.members.flatMap defaultExpectations =
      p.members.flatMap defaultExpectations := by
    rw [withoutTypes, List.flatMap_map]
    rfl
  unfold defaultsTest
  rw [expectedValues_withoutTypes, hmembers]
  rfl

theorem chainTest_withoutTypes (first second : FactoryPlan) :
    p.withoutTypes.chainTest first.withoutTypes second.withoutTypes = p.chainTest first second := by
  unfold chainTest linkExpectations
  rw [expectedValues_withoutTypes, expectedValues_withoutTypes]
  rfl

end FactoryPlan

theorem guardedChainTest_withoutTypes (p first second : FactoryPlan) :
    guardedChainTest p.withoutTypes first.withoutTypes second.withoutTypes =
      guardedChainTest p first second := by
  unfold guardedChainTest
  rw [FactoryPlan.chainTest_withoutTypes]
  rfl

theorem findPlan?_withoutTypes (plans : List FactoryPlan) (name : String) :
    findPlan? (plans.map FactoryPlan.withoutTypes) name =
      (findPlan? plans name).map FactoryPlan.withoutTypes := by
  unfold findPlan?
  rw [List.find?_map]
  rfl

theorem chainTestLinks?_withoutTypes (r : Registry) (plans : List FactoryPlan) (p : FactoryPlan) :
    chainTestLinks? r (plans.map FactoryPlan.withoutTypes) p.withoutTypes =
      (chainTestLinks? r plans p).map fun links =>
        (links.1.withoutTypes, links.2.withoutTypes) := by
  have hlinks : ∀ structs : List StructType,
      structs.filterMap (fun s => findPlan? (plans.map FactoryPlan.withoutTypes) s.name) =
        (structs.filterMap fun s => findPlan? plans s.name).map FactoryPlan.withoutTypes := by
    intro structs
    rw [List.map_filterMap]
    simp only [findPlan?_withoutTypes]
  unfold chainTestLinks?
  rw [hlinks, show p.withoutTypes.source = p.source.withoutTypes from rfl,
    StructType.hasChainLink_withoutTypes, show p.withoutTypes.name = p.name from rfl]
  generalize List.filterMap (fun s : StructType => findPlan? plans s.name) _ = links
  split
  · match links with
    | [] => rfl
    | [link] => rfl
    | first :: second :: rest => rfl
  · rfl

namespace FactorySet

def withoutTypes (f : FactorySet) : FactorySet :=
  { f with plans := f.plans.map FactoryPlan.withoutTypes }

variable (f : FactorySet)

theorem declarationOf_withoutTypes (p : FactoryPlan) :
    declarationOf p.withoutTypes = declarationOf p := by
  unfold declarationOf
  rw [FactoryPlan.factoryClass_withoutTypes]
  rfl

theorem definitionsOf_withoutTypes (p : FactoryPlan) :
    definitionsOf p.withoutTypes = definitionsOf p := by
  unfold definitionsOf
  rw [FactoryPlan.factoryClass_withoutTypes]
  rfl

theorem mapM_withoutTypes {α : Type} {g : FactoryPlan → Except GenerationError α}
    (hg : ∀ p, g p.withoutTypes = g p) (plans : List FactoryPlan) :
    (plans.map FactoryPlan.withoutTypes).mapM g = plans.mapM g := by
  have hcomp : g ∘ FactoryPlan.withoutTypes = g := funext hg
  rw [List.mapM_map, hcomp]

theorem header_withoutTypes : f.withoutTypes.header = f.header := by
  have hnames : (f.withoutTypes.plans.map fun p => "class " ++ p.factory ++ ";") =
      f.plans.map fun p => "class " ++ p.factory ++ ";" := by
    rw [withoutTypes, List.map_map]
    rfl
  unfold header
  rw [hnames, withoutTypes, mapM_withoutTypes declarationOf_withoutTypes]

theorem source_withoutTypes : f.withoutTypes.source = f.source := by
  unfold source
  rw [withoutTypes, mapM_withoutTypes definitionsOf_withoutTypes]

theorem testsOf_withoutTypes (p : FactoryPlan) :
    f.withoutTypes.testsOf p.withoutTypes = f.testsOf p := by
  unfold testsOf
  rw [withoutTypes, FactoryPlan.defaultsTest_withoutTypes, chainTestLinks?_withoutTypes]
  cases chainTestLinks? f.registry f.plans p with
  | none => rfl
  | some links =>
    obtain ⟨first, second⟩ := links
    show _ ++ ("\n" ++ guardedChainTest p.withoutTypes first.withoutTypes second.withoutTypes) = _
    rw [guardedChainTest_withoutTypes]
    rfl

theorem tests_withoutTypes : f.withoutTypes.tests = f.tests := by
  have htests : f.withoutTypes.plans.map f.withoutTypes.testsOf = f.plans.map f.testsOf := by
    rw [withoutTypes, List.map_map]
    congr 1
    exact funext f.testsOf_withoutTypes
  unfold tests
  rw [htests]
  rfl

theorem ofTarget_congr {f g : FactorySet} (hheader : f.header = g.header)
    (hsource : f.source = g.source) (htests : f.tests = g.tests) :
    GeneratedFiles.ofTarget (.factories f) = GeneratedFiles.ofTarget (.factories g) := by
  simp only [GeneratedFiles.ofTarget, Target.header, Target.source, Target.tests, Target.name,
    hheader, hsource, htests]

/-- Plans that agree without the types of their members give the same files. -/
theorem ofTarget_eq_of_withoutTypes (r : Registry) (codeNamespace : String)
    {plans plans' : List FactoryPlan}
    (h : plans'.map FactoryPlan.withoutTypes = plans.map FactoryPlan.withoutTypes) :
    GeneratedFiles.ofTarget (.factories ⟨r, codeNamespace, plans'⟩) =
      GeneratedFiles.ofTarget (.factories ⟨r, codeNamespace, plans⟩) := by
  have hempty : withoutTypes ⟨r, codeNamespace, plans'⟩ = withoutTypes ⟨r, codeNamespace, plans⟩ := by
    unfold withoutTypes
    rw [h]
  refine ofTarget_congr ?_ ?_ ?_
  · rw [← header_withoutTypes, hempty, header_withoutTypes]
  · rw [← source_withoutTypes, hempty, source_withoutTypes]
  · rw [← tests_withoutTypes, hempty, tests_withoutTypes]

end FactorySet

/-! ### Planning -/

section outcomes

variable {α β γ δ : Type}

/-- What is seen of an outcome, of which a type that cannot be stored is forgotten. -/
def outcome (f : α → β) (x : Except GenerationError α) : Except GenerationError β :=
  (x.mapError GenerationError.withoutType).map f

theorem outcome_bind_pure (x : Except GenerationError α) (g : α → β) (f : β → γ) :
    outcome f (x >>= fun a => pure (g a)) = outcome (fun a => f (g a)) x := by
  cases x <;> rfl

theorem outcome_bind_congr {x y : Except GenerationError α} {k k' : α → Except GenerationError β}
    {f : α → γ} {g : β → δ} (h : outcome f x = outcome f y)
    (hk : ∀ a b, f a = f b → outcome g (k a) = outcome g (k' b)) :
    outcome g (x >>= k) = outcome g (y >>= k') := by
  match x, y, h with
  | .error e, .error e', h => exact congrArg Except.error (Except.error.inj h)
  | .ok a, .ok b, h => exact hk a b (Except.ok.inj h)

theorem outcome_comp (x : Except GenerationError α) (g : α → β) (f : β → γ) :
    outcome (fun a => f (g a)) x = (outcome g x).map f := by
  cases x <;> rfl

theorem outcome_mapM (f : β → γ) (g : α → Except GenerationError β) :
    ∀ l : List α, outcome (List.map f) (l.mapM g) = l.mapM fun a => outcome f (g a)
  | [] => rfl
  | a :: l => by
    rw [List.mapM_cons, List.mapM_cons, ← outcome_mapM f g l]
    cases g a with
    | error e => rfl
    | ok b =>
      show outcome (List.map f) (l.mapM g >>= fun bs => pure (b :: bs)) =
        outcome (List.map f) (l.mapM g) >>= fun cs => pure (f b :: cs)
      cases l.mapM g <;> rfl

/-- What is seen of planning a struct is what is seen of storing its members. -/
theorem FactoryPlan.outcome_ofStruct_eq (r : Registry) (guards : List String) (s : StructType) :
    outcome withoutTypes (ofStruct r guards s) =
      (s.members.mapM fun m => outcome (fun u => (⟨m.withoutType, u⟩ : PlannedMember))
        (r.storeMember s.name m)).map fun members => ⟨s.withoutTypes, members, guards⟩ := by
  unfold ofStruct
  rw [outcome_bind_pure]
  show outcome (fun members : List PlannedMember => (⟨s.withoutTypes,
    members.map PlannedMember.withoutType, guards⟩ : FactoryPlan)) _ = _
  rw [outcome_comp _ (List.map PlannedMember.withoutType)
    (fun members => (⟨s.withoutTypes, members, guards⟩ : FactoryPlan)), outcome_mapM]
  simp only [outcome_bind_pure]
  rfl

end outcomes

namespace Registry

variable {r r' : Registry}

theorem RespelledMember.withoutType_eq {m m' : Member} (h : r.RespelledMember m m') :
    m'.withoutType = m.withoutType := by
  rw [h.eq_withType]
  rfl

theorem RespelledStruct.withoutTypes_eq {s s' : StructType} (h : r.RespelledStruct s s') :
    s'.withoutTypes = s.withoutTypes := by
  obtain ⟨members, hmembers, rfl⟩ := h
  have hmap : List.Forall₂ Eq (s.members.map Member.withoutType)
      (members.map Member.withoutType) :=
    List.forall₂_map_left_iff.2 (List.forall₂_map_right_iff.2
      (hmembers.imp fun m m' hm => hm.withoutType_eq.symm))
  rw [List.forall₂_eq_eq_eq] at hmap
  unfold StructType.withoutTypes
  rw [hmap]

namespace Respelled

variable (h : r.Respelled r')

include h

/-- A member is stored as before; where it cannot be, only the type is shown anew. -/
theorem outcome_storeMember {α : Type} (f : StoredType → α) (owner : String) {m m' : Member}
    (hm : r.RespelledMember m m') :
    outcome f (r'.storeMember owner m') = outcome f (r.storeMember owner m) := by
  have hname : m'.name = m.name := by rw [hm.eq_withType]
  unfold storeMember storeAs
  rw [h.storedType?_eq, hm.storedType?_eq, hname]
  cases r.storedType? m.type m.name m.arraySizes <;> rfl

theorem outcome_ofStruct (guards : List String) {s s' : StructType}
    (hs : r.RespelledStruct s s') :
    outcome FactoryPlan.withoutTypes (FactoryPlan.ofStruct r' guards s') =
      outcome FactoryPlan.withoutTypes (FactoryPlan.ofStruct r guards s) := by
  rw [FactoryPlan.outcome_ofStruct_eq, FactoryPlan.outcome_ofStruct_eq, hs.withoutTypes_eq]
  obtain ⟨members, hmembers, rfl⟩ := hs
  congr 1
  refine (mapM_eq_of_forall₂ (hmembers.imp fun m m' hm => ?_)).symm
  rw [h.outcome_storeMember _ _ hm, hm.withoutType_eq]

/-- The structs that are planned are the same but for respelled members, and stand under
the same macros. -/
theorem plannedStructs (s : Selection) :
    List.Forall₂ (fun e e' => e'.1 = e.1 ∧ r.RespelledStruct e.2 e'.2)
      ((r.sequence s.structs).filterMap fun name =>
        (r.struct? name).map fun t => (s.guardsOf name, t))
      ((r'.sequence s.structs).filterMap fun name =>
        (r'.struct? name).map fun t => (s.guardsOf name, t)) := by
  rw [h.sequence_eq]
  refine List.rel_filterMap (R := Eq) ?_ (List.forall₂_same.2 fun _ _ => rfl)
  rintro name _ rfl
  show Option.Rel _ ((r.struct? name).map _) ((r'.struct? name).map _)
  have hname := h.struct? name
  generalize r.struct? name = x at hname ⊢
  generalize r'.struct? name = y at hname ⊢
  cases hname with
  | none => exact .none
  | some hs => exact .some ⟨rfl, hs⟩

/-- **Plans agree**, and so do the failures to plan. -/
theorem outcome_planSelection (s : Selection) :
    outcome (List.map FactoryPlan.withoutTypes) (r'.planSelection s) =
      outcome (List.map FactoryPlan.withoutTypes) (r.planSelection s) := by
  unfold planSelection
  rw [outcome_mapM, outcome_mapM]
  refine (mapM_eq_of_forall₂ ((h.plannedStructs s).imp fun e e' he => ?_)).symm
  rw [he.1, h.outcome_ofStruct _ he.2]

/-! ### Generating -/

theorem structs : List.Forall₂ r.RespelledStruct r.structs r'.structs := by
  unfold Registry.structs NameMap.values
  rw [List.filterMap_map, List.filterMap_map]
  exact List.rel_filterMap (fun e e' he => he.2.struct?) h.types

theorem handles_eq : r'.handles = r.handles := by
  unfold Registry.handles NameMap.values
  rw [List.filterMap_map, List.filterMap_map]
  exact (filterMap_eq_of_forall₂ (h.types.imp fun e e' he => he.2.handle?_eq.symm)).symm

theorem chainTestLinks?_eq (plans : List FactoryPlan) (p : FactoryPlan) :
    chainTestLinks? r' plans p = chainTestLinks? r plans p := by
  have hlinks : List.Forall₂ r.RespelledStruct
      ((r.extendingStructs p.name).filter StructType.hasChainLink)
      ((r'.extendingStructs p.name).filter StructType.hasChainLink) := by
    refine List.rel_filter (fun s s' hs => ?_) (List.rel_filter (fun s s' hs => ?_) h.structs)
    · show s.hasChainLink = true ↔ s'.hasChainLink = true
      rw [← s'.hasChainLink_withoutTypes, hs.withoutTypes_eq, s.hasChainLink_withoutTypes]
    · obtain ⟨members, -, rfl⟩ := hs
      rfl
  have hplans : ((r'.extendingStructs p.name).filter StructType.hasChainLink).filterMap
      (fun s => findPlan? plans s.name) =
        ((r.extendingStructs p.name).filter StructType.hasChainLink).filterMap
          fun s => findPlan? plans s.name := by
    refine (filterMap_eq_of_forall₂ (hlinks.imp fun s s' hs => ?_)).symm
    obtain ⟨members, -, rfl⟩ := hs
    rfl
  unfold chainTestLinks?
  rw [hplans]

/-- The registry is asked for the links of chain tests alone, which are the same. -/
theorem ofTarget_eq (codeNamespace : String) (plans : List FactoryPlan) :
    GeneratedFiles.ofTarget (.factories ⟨r', codeNamespace, plans⟩) =
      GeneratedFiles.ofTarget (.factories ⟨r, codeNamespace, plans⟩) := by
  refine FactorySet.ofTarget_congr ?_ ?_ ?_
  · simp only [FactorySet.header]
  · simp only [FactorySet.source]
  · have htests : FactorySet.testsOf ⟨r', codeNamespace, plans⟩ =
        FactorySet.testsOf ⟨r, codeNamespace, plans⟩ := by
      funext p
      simp only [FactorySet.testsOf, h.chainTestLinks?_eq]
    simp only [FactorySet.tests, FactorySet.testsOpening, htests]

/-- **Generating factories has the same outcome.** -/
theorem outcome_generate_factories {c : Configuration} (hc : c.target = FactorySet.targetName) :
    outcome id (generate r' c) = outcome id (generate r c) := by
  rw [generate_factories_eq r' hc, generate_factories_eq r hc, h.select_eq]
  refine outcome_bind_congr (f := id) rfl fun s s' hs => ?_
  obtain rfl : s = s' := hs
  refine outcome_bind_congr (h.outcome_planSelection s) fun plans' plans hplans => ?_
  rw [h.ofTarget_eq, FactorySet.ofTarget_eq_of_withoutTypes r c.codeNamespace hplans]

/-- **Generating does not tell an alias from the struct's own name.** The same files are
generated, if any; and if none are, the error is the same but for the type that it may
show of a member which cannot be stored. -/
theorem generate_eq (c : Configuration) :
    (∀ g, generate r' c = .ok g ↔ generate r c = .ok g) ∧
      ∀ e, generate r c = .error e →
        ∃ e', generate r' c = .error e' ∧ e'.withoutType = e.withoutType := by
  have houtcome : outcome id (generate r' c) = outcome id (generate r c) := by
    by_cases hc : c.target = FactorySet.targetName
    · exact h.outcome_generate_factories hc
    · unfold generate Target.create
      rw [if_neg hc, h.handles_eq]
      split
      · rfl
      · rfl
  match generate r' c, generate r c, houtcome with
  | .error e', .error e, houtcome =>
    refine ⟨fun g => by simp, fun _ he => ?_⟩
    obtain rfl := Except.error.inj he
    exact ⟨e', rfl, Except.error.inj houtcome⟩
  | .ok g', .ok g, houtcome =>
    obtain rfl : g' = g := Except.ok.inj houtcome
    exact ⟨fun _ => Iff.rfl, fun e he => nomatch he⟩

end Respelled
end Registry

/-! ### A struct that refers to itself by an alias -/

/-- Two structs that refer to the first one by an alias. -/
def aliasDocument : String := r#"<registry>
<types>
<type category="struct" name="Info">
<member>const <type>InfoKHR</type>* <name>pParent</name></member></type>
<type category="struct" name="InfoKHR" alias="Info"/>
<type category="struct" name="User">
<member><type>InfoKHR</type> <name>info</name></member></type>
</types>
<feature name="VK_VERSION_1_0" number="1.0"><require><type name="User"/></require></feature>
</registry>"#

/-- The registry of two structs, whose members have the given types. -/
def userRegistry (parent info : String) : Registry where
  types := NameMap.ofList [
    structEntry "Info" [] [.plain parent "pParent"],
    ("InfoKHR", .structAlias ⟨"InfoKHR", "Info"⟩),
    structEntry "User" [] [.plain info "info"]]
  coreVersions := NameMap.ofList [firstVersion ["User"]]

set_option maxRecDepth 20000 in
theorem load_aliasDocument :
    Registry.load aliasDocument = .ok (userRegistry "const InfoKHR*" "InfoKHR") := by
  rw [Registry.load_eq_loadChars (rfl : aliasDocument = _)]
  decide +kernel

theorem respelled_userRegistry :
    (userRegistry "const InfoKHR*" "InfoKHR").Respelled (userRegistry "const Info*" "Info") := by
  have halias : (userRegistry "const InfoKHR*" "InfoKHR").IsStructAlias "InfoKHR" "Info" :=
    ⟨rfl, ⟨_, rfl⟩, by decide, by decide⟩
  refine ⟨.cons ⟨rfl, .struct ⟨_, .cons ?_ .nil, rfl⟩⟩ (.cons ⟨rfl, .same _⟩
    (.cons ⟨rfl, .struct ⟨_, .cons ?_ .nil, rfl⟩⟩ .nil)), rfl⟩
  · exact .renamed halias (by decide)
  · exact .renamed halias (by decide)

theorem generate_userRegistry :
    Registry.load aliasDocument = .ok (userRegistry "const InfoKHR*" "InfoKHR") ∧
      ∃ g, generate (userRegistry "const InfoKHR*" "InfoKHR") {} = .ok g ∧
        generate (userRegistry "const Info*" "Info") {} = .ok g := by
  have hcheck : ((userRegistry "const InfoKHR*" "InfoKHR").select {}).toOption.any (fun s =>
      let r := userRegistry "const InfoKHR*" "InfoKHR"
      decide (((r.selectedMembers s).findSome? fun x => error? (r.storeMember x.1.name x.2)).or
        ((r.selectedMembers s).findSome? r.defaultError?) = none)) = true := by decide_cbv
  obtain ⟨s, hs, hnone⟩ := exists_eq_ok_of_check hcheck
  obtain ⟨g, hg⟩ := error?_eq_none_iff.1 ((Registry.error?_generate rfl hs).trans hnone)
  exact ⟨load_aliasDocument, g, hg, (respelled_userRegistry.generate_eq {}).1 g |>.2 hg⟩

end VulkanFoundry
