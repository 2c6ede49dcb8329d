/-
# Contributions in another order

Which entries a list of contributions comes to, and whether they fit and agree,
depends on its members alone, and so does whether the list succeeds. Where two
entries could get in each other's way they agree on all but a text: two fields of
one name have one value, two aliases of one name one target, two constants of one
name one value. So lists with the same members, in any order and any number of
times, give registries that differ in no more than the order of the fields that were
appended to an enum, and in the texts of those for which two contributions give a
text each (`foldlM_apply_rearranged`).

Key theorems: `Registry.Takes.of_mem_iff`, `findSome?_eq_of_mem_iff`,
`perm_newFields`.
-/
import VulkanFoundry.Proofs.Contribution.Merging
import VulkanFoundry.Proofs.Contribution.Standing

namespace VulkanFoundry

/-- A field without the text to write for its value. -/
def EnumField.unwritten (f : EnumField) : String × Int64 × Bool := (f.name, f.value, f.added)

/-- The contribution gives the enum under the key a field of the name. -/
def Contribution.GivesField (c : Contribution) (r : Registry) (key name : String) : Prop :=
  ∃ x f, c.entry r = .ok x ∧ x.field? key = some f ∧ f.name = name

/-- Two enums that a third one has become differ in the order of the fields that were
appended, and in the texts of those that are given twice. -/
structure EnumType.Rearranged (e : EnumType) (twice : String → Prop) (e₁ e₂ : EnumType) :
    Prop where
  appended : ∃ l₁ l₂, e₁.fields = e.fields ++ l₁ ∧ e₂.fields = e.fields ++ l₂ ∧
    (l₁.map EnumField.unwritten).Perm (l₂.map EnumField.unwritten) ∧
    ∀ f ∈ l₁, ∀ g ∈ l₂, f.name = g.name → f = g ∨ twice f.name
  rest : e₂ = { e₁ with fields := e₂.fields }

/-- Two registries that a third one has become by contributions are equal but for the
order of the fields that were appended to its enums, and for the texts of those that
two different contributions give. -/
structure Registry.Rearranged (r : Registry) (cs : List Contribution) (r₁ r₂ : Registry) :
    Prop where
  enums : ∀ key e, r.types.get? key = some (.enum e) → ∃ e₁ e₂,
    r₁.types.get? key = some (.enum e₁) ∧ r₂.types.get? key = some (.enum e₂) ∧
    e.Rearranged (fun name => ∃ c ∈ cs, ∃ d ∈ cs, c ≠ d ∧
      c.GivesField r key name ∧ d.GivesField r key name) e₁ e₂
  others : ∀ name, (∀ e, r.types.get? name ≠ some (.enum e)) →
    r₁.types.get? name = r₂.types.get? name
  rest : r₂ = { r₁ with types := r₂.types }

variable {r r' : Registry} {cs ds : List Contribution} {xs ys : List Entry} {key name : String}

/-! ### The members of a list decide -/

theorem Registry.Takes.of_mem_iff (h : ∀ x, x ∈ xs ↔ x ∈ ys) (hxs : r.Takes xs) :
    r.Takes ys where
  fits := fun x hx => hxs.fits x ((h x).2 hx)
  agree := fun x hx y hy => hxs.agree x ((h x).2 hx) y ((h y).2 hy)

/-- Lists of contributions with the same members come to entries with the same
members. -/
theorem exists_mapM_entry_of_mem_iff (h : ∀ c, c ∈ cs ↔ c ∈ ds)
    (hcs : cs.mapM (Contribution.entry r) = .ok xs) :
    ∃ ys, ds.mapM (Contribution.entry r) = .ok ys ∧ ∀ x, x ∈ xs ↔ x ∈ ys := by
  have hall : ∀ d ∈ ds, ∃ y, Contribution.entry r d = .ok y := by
    intro d hd
    obtain ⟨x, -, hx⟩ := exists_eq_ok_of_mapM_eq_ok hcs ((h d).2 hd)
    exact ⟨x, hx⟩
  obtain ⟨ys, hys⟩ := exists_mapM_eq_ok hall
  refine ⟨ys, hys, fun x => ?_⟩
  rw [mem_iff_of_mapM_eq_ok hcs, mem_iff_of_mapM_eq_ok hys]
  simp only [h]

/-- What is found first depends on the members alone where it is the same wherever
something is found. -/
theorem findSome?_eq_of_mem_iff {α β : Type} {p : α → Option β} {l l' : List α}
    (h : ∀ a, a ∈ l ↔ a ∈ l')
    (hp : ∀ a ∈ l, ∀ b ∈ l, ∀ u v, p a = some u → p b = some v → u = v) :
    l.findSome? p = l'.findSome? p := by
  cases hl : l.findSome? p with
  | none =>
    refine (List.findSome?_eq_none_iff.2 fun a ha => ?_).symm
    exact List.findSome?_eq_none_iff.1 hl a ((h a).2 ha)
  | some u =>
    obtain ⟨a, ha, hu⟩ := List.exists_of_findSome?_eq_some hl
    have hsome : (l'.findSome? p).isSome = true :=
      List.findSome?_isSome_iff.2 ⟨a, (h a).1 ha, by rw [hu]; rfl⟩
    obtain ⟨v, hl'⟩ := Option.isSome_iff_exists.1 hsome
    obtain ⟨b, hb, hv⟩ := List.exists_of_findSome?_eq_some hl'
    rw [hl', hp a ha b ((h b).2 hb) u v hu hv]

/-! ### Fields under new names -/

theorem exists_mem_newFields {f : EnumField} : ∀ {l : List EnumField} {known : List String},
    f ∈ l → f.name ∉ known → ∃ g ∈ newFields known l, g.name = f.name
  | [], _, h, _ => absurd h List.not_mem_nil
  | g :: l, known, h, hn => by
    rw [newFields]
    have hcons : ∀ {known'}, f ∈ l → f.name ∉ known' →
        ∃ g' ∈ newFields known' l, g'.name = f.name := exists_mem_newFields
    split
    · rename_i hg
      rcases List.mem_cons.1 h with rfl | h
      · exact absurd hg hn
      · exact hcons h hn
    · by_cases hfg : g.name = f.name
      · exact ⟨g, List.mem_cons_self, hfg⟩
      · have hl : f ∈ l := (List.mem_cons.1 h).resolve_left fun heq => hfg (heq ▸ rfl)
        have hn' : f.name ∉ known ++ [g.name] := by
          simp [hn, Ne.symm hfg]
        obtain ⟨g', hg', hname⟩ := hcons hl hn'
        exact ⟨g', List.mem_cons_of_mem g hg', hname⟩

theorem nodup_newFields : ∀ (l : List EnumField) (known : List String),
    ((newFields known l).map EnumField.name).Nodup
  | [], _ => List.nodup_nil
  | g :: l, known => by
    rw [newFields]
    split
    · exact nodup_newFields l known
    · rw [List.map_cons, List.nodup_cons]
      refine ⟨fun hmem => ?_, nodup_newFields l _⟩
      obtain ⟨f, hf, hname⟩ := List.mem_map.1 hmem
      exact (newFields_subset hf).2 (List.mem_append_right _ (hname ▸ List.mem_singleton_self _))

/-- Lists with the same fields, of which those of one name differ in their texts alone,
give new fields that are the same but for their texts and their order. -/
theorem perm_newFields {l l' : List EnumField} (known : List String)
    (h : ∀ f, f ∈ l ↔ f ∈ l')
    (hone : ∀ f ∈ l, ∀ g ∈ l, f.name = g.name → f.unwritten = g.unwritten) :
    ((newFields known l).map EnumField.unwritten).Perm
      ((newFields known l').map EnumField.unwritten) := by
  have hnodup : ∀ l, ((newFields known l).map EnumField.unwritten).Nodup := by
    intro l
    have hnames := nodup_newFields l known
    rw [List.nodup_iff_pairwise_ne, List.pairwise_map] at hnames ⊢
    exact hnames.imp fun hne heq => hne (congrArg Prod.fst heq)
  -- a new field of one list has a field of its name among the new ones of the other
  have hsub : ∀ {l₁ l₂ : List EnumField}, (∀ f, f ∈ l₁ ↔ f ∈ l) → (∀ f, f ∈ l₂ ↔ f ∈ l) →
      ∀ u, u ∈ (newFields known l₁).map EnumField.unwritten →
        u ∈ (newFields known l₂).map EnumField.unwritten := by
    intro l₁ l₂ h₁ h₂ u hu
    obtain ⟨f, hf, rfl⟩ := List.mem_map.1 hu
    obtain ⟨hf₁, hnew⟩ := newFields_subset hf
    have hfl : f ∈ l := (h₁ f).1 hf₁
    obtain ⟨g, hg, hname⟩ := exists_mem_newFields ((h₂ f).2 hfl) hnew
    have hgl : g ∈ l := (h₂ g).1 (newFields_subset hg).1
    exact List.mem_map.2 ⟨g, hg, hone g hgl f hfl hname⟩
  have hrefl : ∀ f, f ∈ l ↔ f ∈ l := fun _ => Iff.rfl
  have h' : ∀ f, f ∈ l' ↔ f ∈ l := fun f => (h f).symm
  refine (List.perm_ext_iff_of_nodup (hnodup l) (hnodup l')).2 fun u => ?_
  exact ⟨hsub hrefl h' u, hsub h' hrefl u⟩

theorem unwritten_eq_of_name_eq (hcs : cs.mapM (Contribution.entry r) = .ok xs)
    (htakes : r.Takes xs) {f g : EnumField} (hf : Entry.field key f ∈ xs)
    (hg : Entry.field key g ∈ xs) (hname : f.name = g.name) : f.unwritten = g.unwritten := by
  have hvalue : f.value = g.value := htakes.agree _ hf _ hg rfl hname
  have hadded : ∀ f, Entry.field key f ∈ xs → f.added = true := by
    intro f hf
    obtain ⟨c, -, hc⟩ := (mem_iff_of_mapM_eq_ok hcs).1 hf
    exact Contribution.added_of_field hc
  rw [EnumField.unwritten, EnumField.unwritten, hname, hvalue, hadded f hf, hadded g hg]

theorem alias_eq_of_name_eq (hcs : cs.mapM (Contribution.entry r) = .ok xs)
    (htakes : r.Takes xs) {a b : EnumFieldAlias} (ha : Entry.fieldAlias key a ∈ xs)
    (hb : Entry.fieldAlias key b ∈ xs) (hname : a.name = b.name) : a = b := by
  have htarget : a.target = b.target := htakes.agree _ ha _ hb rfl hname
  have hadded : ∀ a, Entry.fieldAlias key a ∈ xs → a.added = true := by
    intro a ha
    obtain ⟨c, -, hc⟩ := (mem_iff_of_mapM_eq_ok hcs).1 ha
    exact Contribution.added_of_fieldAlias hc
  have ha' := hadded a ha
  have hb' := hadded b hb
  cases a
  cases b
  simp_all

/-! ### The same members in another order -/

namespace EnumType

variable {e : EnumType}

theorem aliases_withEntries_of_mem_iff (hcs : cs.mapM (Contribution.entry r) = .ok xs)
    (htakes : r.Takes xs) (h : ∀ x, x ∈ xs ↔ x ∈ ys) :
    (e.withEntries key xs).aliases = (e.withEntries key ys).aliases := by
  refine NameMap.ext_get? fun name => ?_
  rw [get?_aliases_withEntries, get?_aliases_withEntries]
  congr 1
  refine findSome?_eq_of_mem_iff h fun x hx y hy a b ha hb => ?_
  obtain ⟨rfl, hna⟩ := Entry.alias?_eq_some_iff.1 ha
  obtain ⟨rfl, hnb⟩ := Entry.alias?_eq_some_iff.1 hb
  exact alias_eq_of_name_eq hcs htakes hx hy (hna.trans hnb.symm)

theorem rearranged_withEntries (hcs : cs.mapM (Contribution.entry r) = .ok xs)
    (htakes : r.Takes xs) (h : ∀ x, x ∈ xs ↔ x ∈ ys) :
    e.Rearranged (fun name => ∃ c ∈ cs, ∃ d ∈ cs, c ≠ d ∧
      c.GivesField r key name ∧ d.GivesField r key name)
      (e.withEntries key xs) (e.withEntries key ys) where
  appended := by
    have hmem : ∀ {zs : List Entry} {f}, f ∈ zs.filterMap (Entry.field? key) ↔
        Entry.field key f ∈ zs := by
      simp [List.mem_filterMap, Entry.field?_eq_some_iff]
    refine ⟨_, _, fields_withEntries xs e, fields_withEntries ys e, ?_, ?_⟩
    · refine perm_newFields _ (fun f => ?_) fun f hf g hg hname => ?_
      · rw [hmem, hmem, h]
      · exact unwritten_eq_of_name_eq hcs htakes (hmem.1 hf) (hmem.1 hg) hname
    · intro f hf g hg hname
      have hfx : Entry.field key f ∈ xs := hmem.1 (newFields_subset hf).1
      have hgx : Entry.field key g ∈ xs := (h _).2 (hmem.1 (newFields_subset hg).1)
      obtain ⟨c, hc, hcf⟩ := (mem_iff_of_mapM_eq_ok hcs).1 hfx
      obtain ⟨d, hd, hdg⟩ := (mem_iff_of_mapM_eq_ok hcs).1 hgx
      by_cases hcd : c = d
      · subst hcd
        rw [hcf] at hdg
        obtain ⟨-, hfg⟩ := Entry.field.inj (Except.ok.inj hdg)
        exact .inl hfg
      · refine .inr ⟨c, hc, d, hd, hcd, ?_, ?_⟩
        · exact ⟨_, f, hcf, Entry.field?_eq_some_iff.2 rfl, rfl⟩
        · exact ⟨_, g, hdg, Entry.field?_eq_some_iff.2 rfl, hname.symm⟩
  rest := by
    rw [rest_withEntries xs, rest_withEntries ys, aliases_withEntries_of_mem_iff hcs htakes h]

end EnumType

namespace Registry

/-- In which order the entries are made, and how often, does not matter but for the
order and the texts of the fields that are appended. -/
theorem rearranged_foldl_withEntry (hcs : cs.mapM (Contribution.entry r) = .ok xs)
    (htakes : r.Takes xs) (h : ∀ x, x ∈ xs ↔ x ∈ ys) :
    r.Rearranged cs (xs.foldl withEntry r) (ys.foldl withEntry r) where
  enums := fun key e he =>
    ⟨e.withEntries key xs, e.withEntries key ys, get?_foldl_withEntry_of_enum he xs,
      get?_foldl_withEntry_of_enum he ys, EnumType.rearranged_withEntries hcs htakes h⟩
  others := fun name hne => by
    rw [get?_foldl_withEntry, get?_foldl_withEntry]
    cases ht : r.types.get? name with
    | none =>
      -- constants of one name that are both taken have one value
      simp only [Option.map_none, Option.none_or]
      congr 1
      refine findSome?_eq_of_mem_iff h fun x hx y hy c d hc hd => ?_
      obtain ⟨rfl, hc'⟩ := Entry.define?_eq_some_iff.1 hc
      obtain ⟨rfl, hd'⟩ := Entry.define?_eq_some_iff.1 hd
      have hvalue : c.value = d.value := htakes.agree _ hx _ hy rfl
      rw [hc', hd', hvalue]
    | some t =>
      have hnot : ∀ e, t ≠ .enum e := fun e heq => hne e (heq ▸ ht)
      simp [RegistryType.mapEnum_of_not_enum _ hnot]
  rest := by
    rw [types_foldl_withEntry_only xs, types_foldl_withEntry_only ys]

end Registry

/-- **In which order contributions are made does not matter.** Lists with the same
members, in any order and any number of times, both succeed or both fail. Where they
succeed they give the same registry but for the order of the fields that are appended
to its enums, and for the texts of fields that two different contributions give, and
making the contributions again changes nothing. -/
theorem foldlM_apply_rearranged (h : ∀ c, c ∈ cs ↔ c ∈ ds) :
    ((∃ r₁, cs.foldlM Contribution.apply r = .ok r₁) ↔
      ∃ r₂, ds.foldlM Contribution.apply r = .ok r₂) ∧
    ∀ r₁, cs.foldlM Contribution.apply r = .ok r₁ →
      cs.foldlM Contribution.apply r₁ = .ok r₁ ∧
      ∀ r₂, ds.foldlM Contribution.apply r = .ok r₂ → r.Rearranged cs r₁ r₂ := by
  have hstep : ∀ {cs ds : List Contribution}, (∀ c, c ∈ cs ↔ c ∈ ds) →
      ∀ r₁, cs.foldlM Contribution.apply r = .ok r₁ →
        ∃ r₂, ds.foldlM Contribution.apply r = .ok r₂ ∧ r.Rearranged cs r₁ r₂ := by
    intro cs ds h r₁ hr₁
    obtain ⟨xs, hxs, htakes, rfl⟩ := foldlM_apply_eq_ok_iff.1 hr₁
    obtain ⟨ys, hys, hmem⟩ := exists_mapM_entry_of_mem_iff h hxs
    refine ⟨ys.foldl Registry.withEntry r, ?_, ?_⟩
    · exact foldlM_apply_eq_ok_iff.2 ⟨ys, hys, htakes.of_mem_iff hmem, rfl⟩
    · exact Registry.rearranged_foldl_withEntry hxs htakes hmem
  refine ⟨⟨?_, ?_⟩, fun r₁ hr₁ => ⟨foldlM_apply_again hr₁, fun r₂ hr₂ => ?_⟩⟩
  · rintro ⟨r₁, hr₁⟩
    obtain ⟨r₂, hr₂, -⟩ := hstep h r₁ hr₁
    exact ⟨r₂, hr₂⟩
  · rintro ⟨r₂, hr₂⟩
    obtain ⟨r₁, hr₁, -⟩ := hstep (fun c => (h c).symm) r₂ hr₂
    exact ⟨r₁, hr₁⟩
  · obtain ⟨r₂', hr₂', hrearranged⟩ := hstep h r₁ hr₁
    obtain rfl : r₂' = r₂ := Except.ok.inj (hr₂'.symm.trans hr₂)
    exact hrearranged

/-- The contributions of a document in reverse and then once more. -/
theorem rearranged_enumRegistry :
    (∀ c, c ∈ enumSections.contributions ↔
      c ∈ enumSections.contributions.reverse ++ enumSections.contributions) ∧
    ∃ r₂, (enumSections.contributions.reverse ++ enumSections.contributions).foldlM
        Contribution.apply enumSections = .ok r₂ ∧
      enumSections.Rearranged enumSections.contributions enumRegistry r₂ := by
  have hmem : ∀ c, c ∈ enumSections.contributions ↔
      c ∈ enumSections.contributions.reverse ++ enumSections.contributions := by simp
  obtain ⟨hiff, hequal⟩ := foldlM_apply_rearranged hmem
  obtain ⟨r₂, hr₂⟩ := hiff.1 ⟨enumRegistry, withContributions_enumSections⟩
  obtain ⟨-, hrearranged⟩ := hequal enumRegistry withContributions_enumSections
  exact ⟨hmem, r₂, hr₂, hrearranged r₂ hr₂⟩

end VulkanFoundry
