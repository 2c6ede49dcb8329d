/-
# Tests under macros

The test of a factory stands under the macros of the factory, and a chain test, which needs
the factories of three structs, under the macros of each of them. Tests are lines of code,
none of which a preprocessor takes for a directive. So the test file is read test by test,
and each test is kept in full where all factories that it needs exist and dropped in full
elsewhere (`FactorySet.preprocess_tests`).

Key theorems: `guardedChainTest_eq_nest`, `FactorySet.preprocess_testsOf`.
-/
import VulkanFoundry.Factory.Files
import VulkanFoundry.Proofs.Code.Naming
import VulkanFoundry.Proofs.Code.Preprocessor

namespace VulkanFoundry

open Code
open TypeText (IsWord OfWordChars)

/-! ### Tests are code -/

namespace FactoryPlan

/-- The values that tests of the factory expect, and the members that hold them, are
written within a line. -/
def OneLineValues (p : FactoryPlan) : Prop :=
  ∀ e ∈ p.expectedValues, '\n' ∉ e.1.toList ∧ '\n' ∉ e.2.toList

/-- The tests of the factory are written as code, and their macros as words. -/
structure Readable (p : FactoryPlan) : Prop where
  name : OfWordChars p.name
  values : p.OneLineValues
  links : ∀ m ∈ p.members, m.stored.storage = .chainLink → m.member.name = chainLinkMember
  guards : ∀ g ∈ p.guards, IsWord g

variable {p first second : FactoryPlan}

theorem Readable.not_mem_name (h : p.Readable) : '\n' ∉ p.name.toList :=
  h.name.not_mem (by decide)

theorem Readable.not_mem_factory (h : p.Readable) : '\n' ∉ p.factory.toList :=
  not_mem_append h.not_mem_name (by decide)

theorem Readable.linkExpectations (h : p.Readable) (pointer : String)
    (hp : '\n' ∉ pointer.toList) : ∀ line ∈ p.linkExpectations pointer, WordLine line := by
  intro line hl
  obtain ⟨e, he, rfl⟩ := List.mem_map.1 hl
  obtain ⟨hname, hvalue⟩ := h.values e he
  have hstart : WordLine "  EXPECT_EQ(" := by decide
  exact (((((hstart.append hp).append (by decide)).append hname).append (by decide)).append
    hvalue).append (by decide)

theorem wordLine_of_name {name rest : String} (hname : OfWordChars name) (hrest : WordLine rest) :
    WordLine ("  " ++ (name ++ rest)) := by
  have hfree : '\n' ∉ name.toList := hname.not_mem (by decide)
  refine ⟨not_mem_append (by decide) (not_mem_append hfree hrest.free), ?_⟩
  have hspaces : ("  " ++ (name ++ rest)).toList.dropWhile (· = ' ') =
      (name.toList ++ rest.toList).dropWhile (· = ' ') := by
    rw [String.toList_append, String.toList_append]
    rfl
  rw [hspaces]
  -- without characters in the name the line starts as what follows it does
  cases hcs : name.toList with
  | nil => exact hrest.starts
  | cons c cs =>
    have hc : TypeText.isWordChar c = true := hname c (hcs ▸ List.mem_cons_self)
    have hne : c ≠ ' ' := by
      rintro rfl
      exact absurd hc (by decide)
    refine ⟨c, cs ++ rest.toList, ?_, hc⟩
    rw [List.cons_append, List.dropWhile_cons_of_neg (by simpa using hne)]

theorem setterName_chainLinkMember : setterName chainLinkMember = "setPNext" := by decide +kernel

theorem Readable.wordLine_factory (h : p.Readable) :
    WordLine ("  " ++ p.factory ++ " factory;") := by
  have hline : "  " ++ p.factory ++ " factory;" = "  " ++ (p.name ++ "Factory factory;") := by
    show "  " ++ (p.name ++ "Factory") ++ " factory;" = _
    rw [String.append_assoc, String.append_assoc]
    rfl
  rw [hline]
  exact wordLine_of_name h.name (by decide)

theorem Readable.wordLine_generate (h : p.Readable) :
    WordLine ("  " ++ p.name ++ " out = factory.Generate(sidecar);") := by
  rw [String.append_assoc]
  exact wordLine_of_name h.name (by decide)

theorem Readable.wordLine_getter (h : p.Readable) {e : String × String}
    (he : e ∈ p.expectedValues) :
    WordLine ("  EXPECT_EQ(factory." ++ getterName e.1 ++ "(), " ++ e.2 ++ ");") := by
  obtain ⟨hname, hvalue⟩ := h.values e he
  have hgetter : '\n' ∉ (getterName e.1).toList :=
    not_mem_append (by decide) (Text.lineFeed_not_mem_upperFirst hname)
  exact .around (.around (by decide) hgetter (by decide)) hvalue (by decide)

theorem Readable.defaultExpectations (h : p.Readable) {m : PlannedMember} (hm : m ∈ p.members) :
    ∀ line ∈ defaultExpectations m, WordLine line := by
  intro line hl
  rcases List.mem_append.1 hl with hl | hl
  · split at hl
    · rename_i hlink
      obtain rfl := List.mem_singleton.1 hl
      have hname : '\n' ∉ m.member.name.toList := by
        rw [h.links m hm hlink]
        decide
      exact .around (by decide) hname (by decide)
    · cases hl
  · obtain ⟨value, hvalue, rfl⟩ := Option.map_eq_some_iff.1 (Option.mem_toList.1 hl)
    have he : (m.member.name, value) ∈ p.expectedValues :=
      List.mem_filterMap.2 ⟨m, hm, by rw [hvalue]; rfl⟩
    obtain ⟨hname, hvalue⟩ := h.values _ he
    exact .around (.around (by decide) hname (by decide)) hvalue (by decide)

theorem Readable.isCode_defaultsTest (h : p.Readable) : IsCode p.defaultsTest := by
  have hhead : WordLine ("TEST(" ++ p.factory ++ ", DefaultsAndSize) \x7b") :=
    .around (by decide) h.not_mem_factory (by decide)
  have hsize : WordLine ("  EXPECT_EQ(factory.Size(), sizeof(" ++ p.name ++ "));") :=
    .around (by decide) h.not_mem_name (by decide)
  have hgetters : ∀ line ∈ p.expectedValues.map (fun e =>
      "  EXPECT_EQ(factory." ++ getterName e.1 ++ "(), " ++ e.2 ++ ");"), CodeLine line := by
    intro line hl
    obtain ⟨e, he, rfl⟩ := List.mem_map.1 hl
    exact (h.wordLine_getter he).codeLine
  have hmembers : ∀ line ∈ p.members.flatMap FactoryPlan.defaultExpectations, CodeLine line := by
    intro line hl
    obtain ⟨m, hm, hl⟩ := List.mem_flatMap.1 hl
    exact (h.defaultExpectations hm line hl).codeLine
  refine ⟨_, rfl, ?_⟩
  simp only [List.cons_append, List.nil_append, List.append_assoc, List.forall_mem_cons,
    List.forall_mem_append]
  exact ⟨hhead.codeLine, h.wordLine_factory.codeLine, hsize.codeLine, by decide, hgetters,
    by decide, h.wordLine_generate.codeLine, hmembers, by decide, nofun⟩

theorem isCode_chainTest (hp : p.Readable) (hf : first.Readable) (hs : second.Readable) :
    IsCode (p.chainTest first second) := by
  have hnext : '\n' ∉ chainLinkMember.toList := by decide
  have hset : '\n' ∉ (setterName chainLinkMember).toList := by
    rw [setterName_chainLinkMember]
    decide
  have hhead : WordLine ("TEST(" ++ p.factory ++ ", ChainMaterialization) \x7b") :=
    .around (by decide) hp.not_mem_factory (by decide)
  have hlink₁ : WordLine ("  auto first = std::make_shared<" ++ first.factory ++ ">();") :=
    .around (by decide) hf.not_mem_factory (by decide)
  have hlink₂ : WordLine ("  auto second = std::make_shared<" ++ second.factory ++ ">();") :=
    .around (by decide) hs.not_mem_factory (by decide)
  have hset₁ : WordLine ("  first->" ++ setterName chainLinkMember ++ "(second);") :=
    .around (by decide) hset (by decide)
  have hset₂ : WordLine ("  factory." ++ setterName chainLinkMember ++ "(first);") :=
    .around (by decide) hset (by decide)
  have hsize : WordLine ("  EXPECT_EQ(factory.ChainSize(), AlignToPointer(sizeof(" ++
      first.name ++ ")) + AlignToPointer(sizeof(" ++ second.name ++ ")));") :=
    .around (.around (by decide) hf.not_mem_name (by decide)) hs.not_mem_name (by decide)
  have hchain : WordLine ("  ASSERT_NE(out." ++ chainLinkMember ++ ", nullptr);") :=
    .around (by decide) hnext (by decide)
  have hcast₁ : WordLine ("  const auto* next = static_cast<const " ++ first.name ++
      "*>(out." ++ chainLinkMember ++ ");") :=
    .around (.around (by decide) hf.not_mem_name (by decide)) hnext (by decide)
  have hmore : WordLine ("  ASSERT_NE(next->" ++ chainLinkMember ++ ", nullptr);") :=
    .around (by decide) hnext (by decide)
  have hcast₂ : WordLine ("  const auto* last = static_cast<const " ++ second.name ++
      "*>(next->" ++ chainLinkMember ++ ");") :=
    .around (.around (by decide) hs.not_mem_name (by decide)) hnext (by decide)
  have hlast : WordLine ("  EXPECT_EQ(last->" ++ chainLinkMember ++ ", nullptr);") :=
    .around (by decide) hnext (by decide)
  have hvalues₁ := hf.linkExpectations "next" (by decide)
  have hvalues₂ := hs.linkExpectations "last" (by decide)
  refine ⟨_, rfl, ?_⟩
  simp only [List.cons_append, List.nil_append, List.append_assoc, List.forall_mem_cons,
    List.forall_mem_append]
  exact ⟨hhead.codeLine, hp.wordLine_factory.codeLine, hlink₁.codeLine, hlink₂.codeLine,
    hset₁.codeLine, hset₂.codeLine, hsize.codeLine, by decide, hp.wordLine_generate.codeLine,
    by decide, hchain.codeLine, hcast₁.codeLine, fun l hl => (hvalues₁ l hl).codeLine,
    hmore.codeLine, hcast₂.codeLine, fun l hl => (hvalues₂ l hl).codeLine, hlast.codeLine,
    by decide, nofun⟩

end FactoryPlan

/-! ### Chain tests -/

variable {r : Registry} {plans : List FactoryPlan} {p first second : FactoryPlan}
variable {defined : String → Bool}

theorem findPlan?_eq_some {name : String} (h : findPlan? plans name = some p) :
    p ∈ plans ∧ p.name = name := by
  unfold findPlan? at h
  exact ⟨List.mem_of_find?_eq_some h, by simpa using List.find?_some h⟩

/-- The links of a chain test are planned, and are one plan if they are of one
struct. -/
theorem mem_of_chainTestLinks? (h : chainTestLinks? r plans p = some (first, second)) :
    first ∈ plans ∧ second ∈ plans ∧ (second.name = first.name → second = first) := by
  have hfound : ∀ {q : FactoryPlan}, q ∈ ((r.extendingStructs p.name).filter
      StructType.hasChainLink).filterMap (fun s => findPlan? plans s.name) →
        findPlan? plans q.name = some q := by
    intro q hq
    obtain ⟨s, -, hs⟩ := List.mem_filterMap.1 hq
    rw [(findPlan?_eq_some hs).2]
    exact hs
  unfold chainTestLinks? at h
  split at h
  · split at h
    · cases h
    · rename_i link hlinks
      cases h
      have hlink := hfound (hlinks ▸ List.mem_cons_self)
      exact ⟨(findPlan?_eq_some hlink).1, (findPlan?_eq_some hlink).1, fun _ => rfl⟩
    · rename_i a b rest hlinks
      cases h
      have ha := hfound (hlinks ▸ List.mem_cons_self)
      have hb := hfound (hlinks ▸ List.mem_cons_of_mem _ List.mem_cons_self)
      refine ⟨(findPlan?_eq_some ha).1, (findPlan?_eq_some hb).1, fun hname => ?_⟩
      rw [hname, ha] at hb
      exact (Option.some.inj hb).symm
  · cases h

/-- A guarded chain test stands under the macros of the three factories that it
needs. -/
theorem guardedChainTest_eq_nest (h : second.name = first.name → second = first) :
    ∃ conditions, guardedChainTest p first second = nest conditions (p.chainTest first second) ∧
      ∀ guards, guards ∈ conditions ↔ guards ∈ [p.guards, first.guards, second.guards] := by
  unfold guardedChainTest
  by_cases hname : second.name = first.name
  · refine ⟨[p.guards, first.guards], ?_, fun guards => ?_⟩
    · simp only [if_pos hname, nest, List.foldr_cons, List.foldr_nil]
    · rw [h hname]
      simp
  · refine ⟨[p.guards, second.guards, first.guards], ?_, fun guards => ?_⟩
    · simp only [if_neg hname, nest, List.foldr_cons, List.foldr_nil]
    · simp only [List.mem_cons, List.not_mem_nil, or_false]
      exact or_congr_right or_comm

theorem preprocess_guardedChainTest (h : second.name = first.name → second = first)
    (hp : p.Readable) (hfirst : first.Readable) (hsecond : second.Readable) :
    Block (guardedChainTest p first second) ∧ ∀ defined,
      preprocess defined (guardedChainTest p first second) =
        if enabled defined p.guards && enabled defined first.guards &&
          enabled defined second.guards
        then sourceLines (p.chainTest first second) else [] := by
  obtain ⟨conditions, hnest, hmem⟩ := guardedChainTest_eq_nest (p := p) h
  have hcode : IsCode (p.chainTest first second) :=
    FactoryPlan.isCode_chainTest hp hfirst hsecond
  have hwords : ∀ guards ∈ conditions, ∀ g ∈ guards, IsWord g := by
    simp only [hmem, List.mem_cons, List.not_mem_nil, or_false]
    rintro guards (rfl | rfl | rfl)
    · exact hp.guards
    · exact hfirst.guards
    · exact hsecond.guards
  obtain ⟨hblock, hkept⟩ := preprocess_nest hcode.block hwords
  rw [hnest]
  refine ⟨hblock, fun defined => ?_⟩
  have hall : conditions.all (enabled defined) =
      (enabled defined p.guards && enabled defined first.guards &&
        enabled defined second.guards) := by
    rw [Bool.eq_iff_iff, List.all_eq_true]
    simp only [hmem, List.mem_cons, List.not_mem_nil, or_false, forall_eq_or_imp, forall_eq,
      Bool.and_eq_true, and_assoc]
  rw [hkept, hall, hcode.preprocess_eq]

/-! ### The test file -/

namespace FactorySet

variable {f : FactorySet}

/-- The lines of the tests of a plan that are left where the macros are defined. -/
def keptTestsOf (f : FactorySet) (defined : String → Bool) (p : FactoryPlan) :
    List (List Char) :=
  [] :: (if enabled defined p.guards then sourceLines p.defaultsTest else []) ++
    match chainTestLinks? f.registry f.plans p with
    | some (first, second) =>
      [] :: if enabled defined p.guards && enabled defined first.guards &&
          enabled defined second.guards
        then sourceLines (p.chainTest first second) else []
    | none => []

theorem isCode_emptyLine : IsCode "\n" := ⟨[""], rfl, by decide⟩

/-- **The tests of a plan are kept one by one.** -/
theorem preprocess_testsOf (hall : ∀ q ∈ f.plans, q.Readable) (hp : p ∈ f.plans) :
    Block (f.testsOf p) ∧ ∀ defined,
      preprocess defined (f.testsOf p) = f.keptTestsOf defined p := by
  have hempty : Block "\n" := isCode_emptyLine.block
  have hline : ∀ defined, preprocess defined "\n" = [[]] := fun _ =>
    isCode_emptyLine.preprocess_eq
  have hdefaults : IsCode p.defaultsTest := (hall p hp).isCode_defaultsTest
  have hguarded := hdefaults.block.protect (hall p hp).guards
  have hkept : ∀ defined, preprocess defined (protect p.guards p.defaultsTest) =
      if enabled defined p.guards then sourceLines p.defaultsTest else [] := fun defined => by
    rw [preprocess_protect (hall p hp).guards hdefaults.block, hdefaults.preprocess_eq]
  unfold testsOf keptTestsOf
  cases hlinks : chainTestLinks? f.registry f.plans p with
  | none =>
    refine ⟨(hempty.append hguarded).append .empty, fun defined => ?_⟩
    rw [String.append_assoc, hempty.preprocess_append, hguarded.preprocess_append, hline, hkept]
    rfl
  | some links =>
    obtain ⟨first, second⟩ := links
    obtain ⟨hfirst, hsecond, hsame⟩ := mem_of_chainTestLinks? hlinks
    obtain ⟨hblock, hchain⟩ := preprocess_guardedChainTest hsame (hall p hp)
      (hall first hfirst) (hall second hsecond)
    refine ⟨(hempty.append hguarded).append (hempty.append hblock), fun defined => ?_⟩
    rw [String.append_assoc, hempty.preprocess_append, hguarded.preprocess_append,
      hempty.preprocess_append, hline, hkept, hchain]
    rfl

theorem isCode_testsOpening (h : '\n' ∉ f.codeNamespace.toList) : IsCode f.testsOpening := by
  have husing : WordLine ("using namespace " ++ f.codeNamespace ++ ";") :=
    .around (by decide) h (by decide)
  refine ⟨_, (unlines_append _ _).symm, ?_⟩
  simp only [List.forall_mem_append, List.forall_mem_cons]
  exact ⟨⟨by decide, by decide, nofun⟩, by decide, by decide, by decide, by decide, by decide,
    by decide, by decide, husing.codeLine, nofun⟩

/-- **The test file is read test by test.** -/
theorem preprocess_tests (hall : ∀ p ∈ f.plans, p.Readable)
    (hname : '\n' ∉ f.codeNamespace.toList) :
    preprocess defined f.tests = sourceLines f.testsOpening ++
      f.plans.flatMap (f.keptTestsOf defined) ++ sourceLines ("\n" ++ testMain) := by
  have hopening := isCode_testsOpening hname
  have hblocks : ∀ code ∈ f.plans.map f.testsOf, Block code := by
    intro code hcode
    obtain ⟨p, hp, rfl⟩ := List.mem_map.1 hcode
    exact (preprocess_testsOf hall hp).1
  have hkept : (f.plans.map f.testsOf).flatMap (preprocess defined) =
      f.plans.flatMap (f.keptTestsOf defined) := by
    rw [List.flatMap_map]
    exact List.flatMap_congr fun p hp => (preprocess_testsOf hall hp).2 defined
  have hmain : IsCode ("\n" ++ testMain) :=
    ⟨["", "int main(int argc, char** argv) \x7b",
      "  ::testing::InitGoogleTest(&argc, argv);", "  return RUN_ALL_TESTS();", "\x7d"], rfl,
      by decide⟩
  rw [tests, String.append_assoc, String.append_assoc, hopening.block.preprocess_append,
    (Block.join hblocks).preprocess_append, preprocess_join hblocks, hkept,
    hopening.preprocess_eq, hmain.preprocess_eq, List.append_assoc]

end FactorySet
end VulkanFoundry
