/-
# The features of versions and extensions

The features of a requirement are kept by name, and those of a version are kept by
name over all of its requirements. Where a name stands more than once in such a list
of entries, the last entry decides, whatever its kind (`get?_featuresOf_iff`), and the
others are not there when contributions are made. So the contributions of a registry
are those of the enum elements that decide
(`Registry.DeclaredBy.mem_contributions_iff`).

Key theorems: `CoreVersion.ofElement?_eq_some`, `Extension.ofElement?_eq_some`.
-/
import VulkanFoundry.Proofs.Registry.Sections

namespace VulkanFoundry

def RequireEntry.name? : RequireEntry → Option String
  | .type e | .command e | .feature e => e.name
  | .enum e => e.name
  | .comment _ => none

def RequireElement.counted (b : RequireElement) : List RequireEntry :=
  b.entries.filter RequireEntry.counts

/-- The lists of entries that are kept by name: of each version that applies to Vulkan
the entries of all its requirements, and of each extension that is supported the
entries of one requirement. With a list goes the name of the version or extension and
the number of the extension. -/
inductive Document.Lists (doc : Document) :
    String → Option UInt32 → List RequireEntry → Prop where
  | version {e : VersionElement} {name : String} (he : e ∈ doc.versions)
      (hname : e.name = some name) (hapi : Attribute.supportsVulkan e.api = true) :
      doc.Lists name none ((vulkanRequirements e.requirements).flatMap RequireElement.counted)
  | extension {e : ExtensionElement} {name : String} {number : UInt32} {b : RequireElement}
      (he : e ∈ doc.extensions) (hname : e.name = some name) (hsupported : e.isSupported = true)
      (hnumber : Attribute.requiredNumber "number" name e.number = .ok number)
      (hb : b ∈ vulkanRequirements e.requirements) : doc.Lists name (some number) b.counted

/-- The element stands in a list, and no entry of its name stands behind it. -/
def Document.Decides (doc : Document) (owner : String) (number : Option UInt32)
    (e : EnumElement) : Prop :=
  ∃ before after, doc.Lists owner number (before ++ .enum e :: after) ∧
    ∀ x ∈ after, x.name? ≠ e.name

variable {doc : Document} {owner name : String} {number : Option UInt32}

/-! ### The features of a list of entries -/

def featuresOf (owner : String) (entries : List RequireEntry) :
    Except LoadError (NameMap Feature) := do
  let features ← entries.mapM (RequireEntry.feature? owner)
  return NameMap.ofList ((features.filterMap id).map fun f => (f.name, f))

theorem Feature.of_ofName {kind : FeatureKind} {e : NameElement} {f : Feature}
    (h : Feature.ofName owner kind e = .ok f) : e.name = some f.name ∧ f.addition = none := by
  obtain ⟨n, hn, h⟩ := bind_eq_ok_iff.1 h
  obtain rfl := Except.ok.inj h
  exact ⟨Attribute.required_eq_ok_iff.1 hn, rfl⟩

theorem Feature.of_ofEnum {e : EnumElement} {f : Feature}
    (h : Feature.ofEnum owner e = .ok f) :
    e.name = some f.name ∧ EnumAddition.ofElement? e f.name owner = .ok f.addition := by
  obtain ⟨n, hn, h⟩ := bind_eq_ok_iff.1 h
  obtain ⟨a, ha, h⟩ := bind_eq_ok_iff.1 h
  obtain rfl := Except.ok.inj h
  exact ⟨Attribute.required_eq_ok_iff.1 hn, ha⟩

theorem RequireEntry.name?_of_feature? {x : RequireEntry} {o : Option Feature}
    (h : x.feature? owner = .ok o) : x.name? = o.map Feature.name := by
  cases x with
  | type e | command e | feature e =>
    obtain ⟨f, hf, rfl⟩ := map_eq_ok_iff.1 h
    exact (Feature.of_ofName hf).1
  | enum e =>
    obtain ⟨f, hf, rfl⟩ := map_eq_ok_iff.1 h
    exact (Feature.of_ofEnum hf).1
  | comment s =>
    obtain rfl := Except.ok.inj h
    rfl

/-- Only enum elements add anything. -/
theorem RequireEntry.eq_enum_of_addition {x : RequireEntry} {f : Feature} {a : EnumAddition}
    (h : x.feature? owner = .ok (some f)) (ha : f.addition = some a) :
    ∃ e, x = .enum e ∧ Feature.ofEnum owner e = .ok f := by
  cases x with
  | type e | command e | feature e =>
    obtain ⟨g, hg, hgf⟩ := map_eq_ok_iff.1 h
    obtain rfl := Option.some.inj hgf
    rw [(Feature.of_ofName hg).2] at ha
    cases ha
  | enum e =>
    obtain ⟨g, hg, hgf⟩ := map_eq_ok_iff.1 h
    obtain rfl := Option.some.inj hgf
    exact ⟨e, rfl, hg⟩
  | comment s => cases Except.ok.inj h

theorem featuresOf_append_eq_ok_iff {l l' : List RequireEntry} {m : NameMap Feature} :
    featuresOf owner (l ++ l') = .ok m ↔ ∃ m₁ m₂, featuresOf owner l = .ok m₁ ∧
      featuresOf owner l' = .ok m₂ ∧ m = m₁.union m₂ := by
  simp only [featuresOf, List.mapM_append, bind_eq_ok_iff]
  constructor
  · rintro ⟨os, ⟨os₁, h₁, os₂, h₂, hos⟩, hm⟩
    obtain rfl := Except.ok.inj hos
    obtain rfl := Except.ok.inj hm
    refine ⟨_, _, ⟨os₁, h₁, rfl⟩, ⟨os₂, h₂, rfl⟩, ?_⟩
    rw [List.filterMap_append, List.map_append, NameMap.ofList_append]
  · rintro ⟨m₁, m₂, ⟨os₁, h₁, hm₁⟩, ⟨os₂, h₂, hm₂⟩, rfl⟩
    obtain rfl := Except.ok.inj hm₁
    obtain rfl := Except.ok.inj hm₂
    refine ⟨os₁ ++ os₂, ⟨os₁, h₁, os₂, h₂, rfl⟩, ?_⟩
    rw [List.filterMap_append, List.map_append, NameMap.ofList_append]
    rfl

theorem get?_featuresOf_cons {x : RequireEntry} {entries : List RequireEntry}
    {m : NameMap Feature} (h : featuresOf owner (x :: entries) = .ok m) :
    ∃ o m', x.feature? owner = .ok o ∧ featuresOf owner entries = .ok m' ∧
      ∀ name, m.get? name = (m'.get? name).or (o.filter fun f => f.name = name) := by
  obtain ⟨m₁, m', h₁, hm', rfl⟩ := (featuresOf_append_eq_ok_iff (l := [x])).1 h
  obtain ⟨os, hos, h₁⟩ := bind_eq_ok_iff.1 h₁
  obtain rfl := Except.ok.inj h₁
  obtain ⟨o, os', ho, hos', rfl⟩ := List.forall₂_cons_left_iff.1 (mapM_eq_ok_iff.1 hos)
  obtain rfl := List.forall₂_nil_left_iff.1 hos'
  refine ⟨o, m', ho, hm', fun name => ?_⟩
  rw [NameMap.get?_union, NameMap.get?_ofList]
  congr 1
  cases o with
  | none => rfl
  | some f =>
    by_cases hf : f.name = name
    · simp [NameMap.lookup, hf, Option.filter_some]
    · simp [NameMap.lookup, hf, Option.filter_some]

theorem get?_featuresOf_eq_none_iff : ∀ {entries : List RequireEntry} {m : NameMap Feature},
    featuresOf owner entries = .ok m →
    (m.get? name = none ↔ ∀ x ∈ entries, x.name? ≠ some name)
  | [], m, h => by
    obtain rfl := Except.ok.inj h
    simp [NameMap.get?_ofList, NameMap.lookup]
  | x :: entries, m, h => by
    obtain ⟨o, m', ho, hm', hget⟩ := get?_featuresOf_cons h
    have hx := RequireEntry.name?_of_feature? ho
    rw [hget, Option.or_eq_none_iff, get?_featuresOf_eq_none_iff hm', List.forall_mem_cons, hx,
      and_comm]
    refine and_congr_left fun _ => ?_
    cases o <;> simp

/-- **The last entry of a name decides.** -/
theorem get?_featuresOf_iff {f : Feature} : ∀ {entries : List RequireEntry}
    {m : NameMap Feature}, featuresOf owner entries = .ok m →
    (m.get? name = some f ↔ f.name = name ∧ ∃ before x after, entries = before ++ x :: after ∧
      x.feature? owner = .ok (some f) ∧ ∀ y ∈ after, y.name? ≠ some name)
  | [], m, h => by
    obtain rfl := Except.ok.inj h
    simp [NameMap.get?_ofList, NameMap.lookup]
  | x :: entries, m, h => by
    obtain ⟨o, m', ho, hm', hget⟩ := get?_featuresOf_cons h
    rw [hget, Option.or_eq_some_iff, get?_featuresOf_iff hm', get?_featuresOf_eq_none_iff hm']
    constructor
    · rintro (⟨hname, before, y, after, rfl, hy, hafter⟩ | ⟨hnone, hof⟩)
      · exact ⟨hname, x :: before, y, after, rfl, hy, hafter⟩
      · obtain ⟨rfl, hf⟩ := Option.filter_eq_some_iff.1 hof
        exact ⟨of_decide_eq_true hf, [], x, entries, rfl, ho, hnone⟩
    · rintro ⟨hname, before, y, after, heq, hy, hafter⟩
      cases before with
      | nil =>
        obtain ⟨rfl, rfl⟩ := List.cons.inj heq
        obtain rfl := Except.ok.inj (ho.symm.trans hy)
        exact .inr ⟨hafter, by simp [hname]⟩
      | cons z before =>
        obtain ⟨rfl, rfl⟩ := List.cons.inj heq
        exact .inl ⟨hname, before, y, after, rfl, hy, hafter⟩

theorem each_featuresOf {entries : List RequireEntry} {m : NameMap Feature}
    (h : featuresOf owner entries = .ok m) : m.Each fun name f => f.name = name :=
  fun _ _ hf => ((get?_featuresOf_iff h).1 hf).1

/-! ### The features of versions and extensions -/

theorem Requirement.features_of_ofElement {b : RequireElement} {q : Requirement}
    (h : Requirement.ofElement owner b = .ok q) : featuresOf owner b.counted = .ok q.features := by
  obtain ⟨m, hm, h⟩ := bind_eq_ok_iff.1 h
  obtain rfl := Except.ok.inj h
  exact hm

/-- The union of the features of requirements is that of all their entries. -/
theorem exists_union_features : ∀ {blocks : List RequireElement} {qs : List Requirement},
    blocks.mapM (Requirement.ofElement owner) = .ok qs →
    ∃ m', featuresOf owner (blocks.flatMap RequireElement.counted) = .ok m' ∧
      ∀ m : NameMap Feature, qs.foldl (fun acc q => acc.union q.features) m = m.union m'
  | [], qs, h => by
    obtain rfl := Except.ok.inj h
    exact ⟨_, rfl, fun _ => rfl⟩
  | b :: blocks, qs, h => by
    rw [List.mapM_cons] at h
    obtain ⟨q, hq, h⟩ := bind_eq_ok_iff.1 h
    obtain ⟨rest, hrest, h⟩ := bind_eq_ok_iff.1 h
    obtain rfl := Except.ok.inj h
    obtain ⟨m', hm', hunion⟩ := exists_union_features hrest
    refine ⟨q.features.union m', ?_, fun m => ?_⟩
    · rw [List.flatMap_cons, featuresOf_append_eq_ok_iff]
      exact ⟨_, _, Requirement.features_of_ofElement hq, hm', rfl⟩
    · rw [List.foldl_cons, hunion, NameMap.union_assoc]

theorem CoreVersion.ofElement?_eq_some {e : VersionElement} {v : CoreVersion}
    (h : CoreVersion.ofElement? e = .ok (some v)) :
    Attribute.supportsVulkan e.api = true ∧ e.name = some v.name ∧
      featuresOf v.name ((vulkanRequirements e.requirements).flatMap RequireElement.counted) =
        .ok v.features := by
  obtain ⟨name, hname, h⟩ := bind_eq_ok_iff.1 h
  rw [Attribute.required_eq_ok_iff] at hname
  split at h
  · rename_i hapi
    obtain ⟨number, -, h⟩ := bind_eq_ok_iff.1 h
    obtain ⟨qs, hqs, h⟩ := bind_eq_ok_iff.1 h
    obtain rfl := Option.some.inj (Except.ok.inj h)
    obtain ⟨m', hm', hunion⟩ := exists_union_features hqs
    refine ⟨hapi, hname, ?_⟩
    simp only [hunion, NameMap.empty_union]
    exact hm'
  · cases Except.ok.inj h

theorem CoreVersion.exists_of_ofElement? {e : VersionElement} {o : Option CoreVersion}
    (h : CoreVersion.ofElement? e = .ok o) (hapi : Attribute.supportsVulkan e.api = true) :
    ∃ v, o = some v := by
  obtain ⟨name, -, h⟩ := bind_eq_ok_iff.1 h
  rw [if_pos hapi] at h
  obtain ⟨number, -, h⟩ := bind_eq_ok_iff.1 h
  obtain ⟨qs, -, h⟩ := bind_eq_ok_iff.1 h
  exact ⟨_, (Except.ok.inj h).symm⟩

theorem Extension.ofElement?_eq_some {e : ExtensionElement} {x : Extension}
    (h : Extension.ofElement? e = .ok (some x)) :
    e.isSupported = true ∧ e.name = some x.name ∧
      Attribute.requiredNumber "number" x.name e.number = .ok x.number ∧
      (vulkanRequirements e.requirements).mapM (Requirement.ofElement x.name) =
        .ok x.requirements := by
  obtain ⟨name, hname, h⟩ := bind_eq_ok_iff.1 h
  rw [Attribute.required_eq_ok_iff] at hname
  split at h
  · rename_i hsupported
    obtain ⟨number, hnumber, h⟩ := bind_eq_ok_iff.1 h
    obtain ⟨qs, hqs, h⟩ := bind_eq_ok_iff.1 h
    obtain rfl := Option.some.inj (Except.ok.inj h)
    exact ⟨hsupported, hname, hnumber, hqs⟩
  · cases Except.ok.inj h

theorem Extension.exists_of_ofElement? {e : ExtensionElement} {o : Option Extension}
    (h : Extension.ofElement? e = .ok o) (hsupported : e.isSupported = true) :
    ∃ x, o = some x := by
  obtain ⟨name, -, h⟩ := bind_eq_ok_iff.1 h
  rw [if_pos hsupported] at h
  obtain ⟨number, -, h⟩ := bind_eq_ok_iff.1 h
  obtain ⟨qs, -, h⟩ := bind_eq_ok_iff.1 h
  exact ⟨_, (Except.ok.inj h).symm⟩

/-! ### The contributions of a document -/

theorem Contribution.mem_ofFeatures_iff {c : Contribution} {features : List Feature} :
    c ∈ Contribution.ofFeatures owner number features ↔ c.origin = owner ∧
      c.extensionNumber = number ∧ ∃ f ∈ features, f.addition = some c.addition ∧
        f.name = c.name := by
  simp only [ofFeatures, List.mem_filterMap, Option.map_eq_some_iff]
  constructor
  · rintro ⟨f, hf, a, ha, rfl⟩
    exact ⟨rfl, rfl, f, hf, ha, rfl⟩
  · rintro ⟨rfl, rfl, f, hf, ha, hname⟩
    exact ⟨f, hf, c.addition, ha, by rw [hname]⟩

theorem Contribution.mem_ofFeatures_features_iff {c : Contribution} {x : Extension} :
    c ∈ Contribution.ofFeatures owner number x.features ↔
      ∃ q ∈ x.requirements, c ∈ Contribution.ofFeatures owner number q.features.values := by
  rw [Contribution.ofFeatures, Extension.features, List.filterMap_flatMap, List.mem_flatMap]
  rfl

/-- The features of a list give contributions for its deciding elements. -/
theorem mem_ofFeatures_featuresOf_iff {c : Contribution} {entries : List RequireEntry}
    {m : NameMap Feature} (h : featuresOf owner entries = .ok m) :
    c ∈ Contribution.ofFeatures owner number m.values ↔ c.origin = owner ∧
      c.extensionNumber = number ∧ ∃ before e after f, entries = before ++ .enum e :: after ∧
        (∀ x ∈ after, x.name? ≠ e.name) ∧ Feature.ofEnum owner e = .ok f ∧
        f.addition = some c.addition ∧ f.name = c.name := by
  rw [Contribution.mem_ofFeatures_iff]
  refine and_congr_right fun _ => and_congr_right fun _ => ?_
  constructor
  · rintro ⟨f, hf, ha, hname⟩
    obtain ⟨n, hn⟩ := NameMap.mem_values_iff.1 hf
    obtain ⟨rfl, before, x, after, rfl, hx, hafter⟩ := (get?_featuresOf_iff h).1 hn
    obtain ⟨e, rfl, he⟩ := RequireEntry.eq_enum_of_addition hx ha
    have hen : e.name = some f.name := RequireEntry.name?_of_feature? hx
    exact ⟨before, e, after, f, rfl, hen ▸ hafter, he, ha, hname⟩
  · rintro ⟨before, e, after, f, rfl, hafter, he, ha, hname⟩
    have hx : (RequireEntry.enum e).feature? owner = .ok (some f) := map_eq_ok_iff.2 ⟨f, he, rfl⟩
    have hen : e.name = some f.name := RequireEntry.name?_of_feature? hx
    refine ⟨f, NameMap.mem_values_iff.2 ⟨f.name, ?_⟩, ha, hname⟩
    exact (get?_featuresOf_iff h).2 ⟨rfl, before, _, after, rfl, hx, hen ▸ hafter⟩

namespace Registry.DeclaredBy

variable {s : Registry} {c : Contribution}

theorem mem_coreVersions_iff (h : s.DeclaredBy doc) {v : CoreVersion} :
    v ∈ s.coreVersions.values ↔ ∃ e ∈ doc.versions, CoreVersion.ofElement? e = .ok (some v) := by
  simp [NameMap.mem_values_iff, get?_declareAll_iff h.coreVersions]

theorem mem_extensions_iff (h : s.DeclaredBy doc) {x : Extension} :
    x ∈ s.extensions.values ↔ ∃ e ∈ doc.extensions, Extension.ofElement? e = .ok (some x) := by
  simp [NameMap.mem_values_iff, get?_declareAll_iff h.extensions]

/-- A list of the document has features, and what they contribute is contributed. -/
theorem exists_features_of_lists (h : s.DeclaredBy doc) {entries : List RequireEntry}
    (hl : doc.Lists owner number entries) : ∃ m, featuresOf owner entries = .ok m ∧
      ∀ c ∈ Contribution.ofFeatures owner number m.values, c ∈ s.contributions := by
  cases hl with
  | @version e name he hname hapi =>
    obtain ⟨o, ho⟩ := exists_ofElement?_of_declareAll h.coreVersions he
    obtain ⟨v, rfl⟩ := CoreVersion.exists_of_ofElement? ho hapi
    obtain ⟨-, hv, hm⟩ := CoreVersion.ofElement?_eq_some ho
    obtain rfl : owner = v.name := Option.some.inj (hname.symm.trans hv)
    refine ⟨v.features, hm, fun c hc => List.mem_append_left _ ?_⟩
    exact List.mem_flatMap.2 ⟨v, h.mem_coreVersions_iff.2 ⟨e, he, ho⟩, hc⟩
  | @extension e name n b he hname hsupported hnumber hb =>
    obtain ⟨o, ho⟩ := exists_ofElement?_of_declareAll h.extensions he
    obtain ⟨x, rfl⟩ := Extension.exists_of_ofElement? ho hsupported
    obtain ⟨-, hx, hn, hqs⟩ := Extension.ofElement?_eq_some ho
    obtain rfl : owner = x.name := Option.some.inj (hname.symm.trans hx)
    obtain rfl : n = x.number := Except.ok.inj (hnumber.symm.trans hn)
    obtain ⟨q, hq, hbq⟩ := exists_eq_ok_of_mapM_eq_ok hqs hb
    refine ⟨q.features, Requirement.features_of_ofElement hbq, fun c hc => ?_⟩
    refine List.mem_append_right _ (List.mem_flatMap.2 ⟨x, ?_, ?_⟩)
    · exact h.mem_extensions_iff.2 ⟨e, he, ho⟩
    · exact Contribution.mem_ofFeatures_features_iff.2 ⟨q, hq, hc⟩

/-- Every contribution comes from a list of the document. -/
theorem exists_lists_of_mem_contributions (h : s.DeclaredBy doc) (hc : c ∈ s.contributions) :
    ∃ owner number entries m, doc.Lists owner number entries ∧ featuresOf owner entries = .ok m ∧
      c ∈ Contribution.ofFeatures owner number m.values := by
  rcases List.mem_append.1 hc with hc | hc
  · obtain ⟨v, hv, hc⟩ := List.mem_flatMap.1 hc
    obtain ⟨e, he, hev⟩ := h.mem_coreVersions_iff.1 hv
    obtain ⟨hapi, hname, hm⟩ := CoreVersion.ofElement?_eq_some hev
    exact ⟨_, _, _, _, .version he hname hapi, hm, hc⟩
  · obtain ⟨x, hx, hc⟩ := List.mem_flatMap.1 hc
    obtain ⟨e, he, hex⟩ := h.mem_extensions_iff.1 hx
    obtain ⟨hsupported, hname, hn, hqs⟩ := Extension.ofElement?_eq_some hex
    obtain ⟨q, hq, hc⟩ := Contribution.mem_ofFeatures_features_iff.1 hc
    obtain ⟨b, hb, hbq⟩ := (mem_iff_of_mapM_eq_ok hqs).1 hq
    exact ⟨_, _, _, _, .extension he hname hsupported hn hb,
      Requirement.features_of_ofElement hbq, hc⟩

/-- **The contributions of a document** are those of its deciding elements. -/
theorem mem_contributions_iff (h : s.DeclaredBy doc) : c ∈ s.contributions ↔
    ∃ e f, doc.Decides c.origin c.extensionNumber e ∧ Feature.ofEnum c.origin e = .ok f ∧
      f.addition = some c.addition ∧ f.name = c.name := by
  constructor
  · intro hc
    obtain ⟨owner, number, entries, m, hl, hm, hc⟩ := h.exists_lists_of_mem_contributions hc
    obtain ⟨rfl, rfl, before, e, after, f, rfl, hafter, hf⟩ :=
      (mem_ofFeatures_featuresOf_iff hm).1 hc
    exact ⟨e, f, ⟨before, after, hl, hafter⟩, hf⟩
  · rintro ⟨e, f, ⟨before, after, hl, hafter⟩, hf⟩
    obtain ⟨m, hm, hin⟩ := h.exists_features_of_lists hl
    refine hin c ((mem_ofFeatures_featuresOf_iff hm).2 ?_)
    exact ⟨rfl, rfl, before, e, after, f, rfl, hafter, hf⟩

end Registry.DeclaredBy

end VulkanFoundry
