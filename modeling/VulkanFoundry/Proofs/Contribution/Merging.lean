/-
# The registry with all contributions made

Contributions leave everything as it is but for three kinds of additions. An enum
keeps its head, its fields in their order and its aliases; behind the fields come
those contributed under new names, in the order in which the names come first, and
the aliases contributed under new names join the others. Where no type stood, a
contributed constant appears.

Each of these is a fact about the list of entries, whatever its length, and is
proved along the list from what one entry changes.

Key theorems: `Registry.get?_foldl_withEntry`, `EnumType.fields_withEntries`,
`EnumType.get?_aliases_withEntries`, `Registry.gains_foldl_withEntry`,
`Registry.gains_of_withContributions`.
-/
import VulkanFoundry.Proofs.Contribution.Entry
import VulkanFoundry.Proofs.Registry.Loading

namespace VulkanFoundry

/-- The fields whose names are not known yet, each name once, in the order in which
the names come first. -/
def newFields (known : List String) : List EnumField → List EnumField
  | [] => []
  | f :: fields =>
    if f.name ∈ known then newFields known fields
    else f :: newFields (known ++ [f.name]) fields

namespace Entry

def field? (key : String) : Entry → Option EnumField
  | .field k f => if k = key then some f else none
  | _ => none

/-- The field alias of the name that an entry gives the enum under the key. -/
def alias? (key name : String) : Entry → Option EnumFieldAlias
  | .fieldAlias k a => if k = key ∧ a.name = name then some a else none
  | _ => none

end Entry

/-- The second enum is the first, which stands under the key, with what the entries
give it. -/
structure EnumType.Gains (e : EnumType) (key : String) (xs : List Entry) (e' : EnumType) :
    Prop where
  fields : e'.fields =
    e.fields ++ newFields (e.fields.map EnumField.name) (xs.filterMap (Entry.field? key))
  aliases : ∀ name, e'.aliases.get? name =
    (e.aliases.get? name).or (xs.findSome? (Entry.alias? key name))
  rest : e' = { e with fields := e'.fields, aliases := e'.aliases }

/-- The second registry is the first with what the entries give it. -/
structure Registry.Gains (r : Registry) (xs : List Entry) (r' : Registry) : Prop where
  enums : ∀ key e, r.types.get? key = some (.enum e) →
    ∃ e', r'.types.get? key = some (.enum e') ∧ e.Gains key xs e'
  others : ∀ name t, r.types.get? name = some t → (∀ e, t ≠ .enum e) →
    r'.types.get? name = some t
  constants : ∀ name, r.types.get? name = none →
    r'.types.get? name = (xs.findSome? (Entry.define? name)).map .define
  rest : r' = { r with types := r'.types }

variable {r r' : Registry} {e : EnumType} {x : Entry} {key : String}

/-! ### What an entry gives -/

namespace Entry

theorem field?_eq_some_iff {f : EnumField} :
    x.field? key = some f ↔ x = .field key f := by
  cases x <;> simp [Entry.field?]

theorem alias?_eq_some_iff {name : String} {a : EnumFieldAlias} :
    x.alias? key name = some a ↔ x = .fieldAlias key a ∧ a.name = name := by
  cases x with
  | fieldAlias k b =>
    simp only [Entry.alias?, Option.ite_some_none_eq_some, Entry.fieldAlias.injEq]
    constructor
    · rintro ⟨⟨rfl, rfl⟩, rfl⟩
      exact ⟨⟨rfl, rfl⟩, rfl⟩
    · rintro ⟨⟨rfl, rfl⟩, rfl⟩
      exact ⟨⟨rfl, rfl⟩, rfl⟩
  | _ => simp [Entry.alias?]

end Entry

/-! ### Fields under new names -/

theorem newFields_subset {f : EnumField} : ∀ {l : List EnumField} {known : List String},
    f ∈ newFields known l → f ∈ l ∧ f.name ∉ known
  | [], _, h => absurd h List.not_mem_nil
  | g :: l, known, h => by
    rw [newFields] at h
    split at h
    · obtain ⟨hl, hn⟩ := newFields_subset h
      exact ⟨List.mem_cons_of_mem g hl, hn⟩
    · rename_i hg
      rcases List.mem_cons.1 h with rfl | h
      · exact ⟨List.mem_cons_self, hg⟩
      · obtain ⟨hl, hn⟩ := newFields_subset h
        exact ⟨List.mem_cons_of_mem g hl, fun hk => hn (List.mem_append_left _ hk)⟩

/-! ### One enum -/

namespace EnumType

def withEntries (key : String) (xs : List Entry) (e : EnumType) : EnumType :=
  xs.foldl (fun e x => e.withEntry key x) e

theorem withEntries_cons (key : String) (x : Entry) (xs : List Entry) (e : EnumType) :
    e.withEntries key (x :: xs) = (e.withEntry key x).withEntries key xs := rfl

theorem isSome_field?_iff {name : String} :
    (e.field? name).isSome = true ↔ name ∈ e.fields.map EnumField.name := by
  simp only [field?, List.find?_isSome, decide_eq_true_eq, List.mem_map]

theorem fields_withField (e : EnumType) (f : EnumField) :
    (e.withField f).fields =
      if f.name ∈ e.fields.map EnumField.name then e.fields else e.fields ++ [f] := by
  unfold withField
  simp only [isSome_field?_iff]
  split <;> rfl

@[simp] theorem fields_withAlias (e : EnumType) (a : EnumFieldAlias) :
    (e.withAlias a).fields = e.fields := by
  unfold withAlias
  split <;> rfl

theorem fields_withEntries : ∀ (xs : List Entry) (e : EnumType),
    (e.withEntries key xs).fields =
      e.fields ++ newFields (e.fields.map EnumField.name) (xs.filterMap (Entry.field? key))
  | [], e => (List.append_nil e.fields).symm
  | x :: xs, e => by
    rw [withEntries_cons, fields_withEntries xs]
    -- only an entry that gives this enum a field touches its fields
    have hskip : Entry.field? key x = none → (e.withEntry key x).fields = e.fields := by
      intro hnone
      cases x with
      | constant name value => rfl
      | field k f =>
        have hk : k ≠ key := by simpa [Entry.field?] using hnone
        simp [withEntry, hk]
      | fieldAlias k a =>
        simp only [withEntry]
        split
        · exact fields_withAlias e a
        · rfl
    cases hx : Entry.field? key x with
    | none => rw [hskip hx, List.filterMap_cons_none hx]
    | some f =>
      have hfield : e.withEntry key x = e.withField f := by
        rw [Entry.field?_eq_some_iff.1 hx, withEntry, if_pos rfl]
      rw [hfield, fields_withField, List.filterMap_cons_some hx, newFields]
      split
      · rfl
      · rw [List.map_append, List.append_assoc]
        rfl

theorem get?_aliases_withEntry {name : String} (e : EnumType) (key : String) (x : Entry) :
    (e.withEntry key x).aliases.get? name =
      (e.aliases.get? name).or (Entry.alias? key name x) := by
  cases x with
  | constant n value => exact (Option.or_none).symm
  | field k f =>
    by_cases hk : k = key
    · simp [withEntry, Entry.alias?, hk]
    · simp [withEntry, Entry.alias?, hk]
  | fieldAlias k a =>
    by_cases hk : k = key
    · simp [withEntry, Entry.alias?, hk, get?_aliases_withAlias]
    · simp [withEntry, Entry.alias?, hk]

theorem get?_aliases_withEntries {name : String} : ∀ (xs : List Entry) (e : EnumType),
    (e.withEntries key xs).aliases.get? name =
      (e.aliases.get? name).or (xs.findSome? (Entry.alias? key name))
  | [], _ => (Option.or_none).symm
  | x :: xs, e => by
    rw [withEntries_cons, get?_aliases_withEntries xs, get?_aliases_withEntry, Option.or_assoc,
      List.findSome?_cons]
    cases Entry.alias? key name x <;> simp

theorem rest_withEntries : ∀ (xs : List Entry) (e : EnumType),
    e.withEntries key xs = { e with
      fields := (e.withEntries key xs).fields, aliases := (e.withEntries key xs).aliases }
  | [], _ => rfl
  | x :: xs, e => by
    rw [withEntries_cons, rest_withEntries xs, fields_aliases_withEntry_only e key x]

@[simp] theorem bit64_withEntries (key : String) (xs : List Entry) (e : EnumType) :
    (e.withEntries key xs).bit64 = e.bit64 := by
  rw [rest_withEntries]

theorem gains_withEntries (key : String) (xs : List Entry) (e : EnumType) :
    e.Gains key xs (e.withEntries key xs) :=
  ⟨fields_withEntries xs e, fun _ => get?_aliases_withEntries xs e, rest_withEntries xs e⟩

end EnumType

/-! ### The registry -/

namespace Registry

theorem types_foldl_withEntry_only : ∀ (xs : List Entry) (r : Registry),
    xs.foldl withEntry r = { r with types := (xs.foldl withEntry r).types }
  | [], _ => rfl
  | x :: xs, r => by
    rw [List.foldl_cons, types_foldl_withEntry_only xs, types_withEntry_only r x]

/-- **The types with all entries made.** An enum that is there gets what the entries
give it, and where no type is there the first constant of the name appears. -/
theorem get?_foldl_withEntry (name : String) : ∀ (xs : List Entry) (r : Registry),
    (xs.foldl withEntry r).types.get? name =
      ((r.types.get? name).map (RegistryType.mapEnum (EnumType.withEntries name xs))).or
        ((xs.findSome? (Entry.define? name)).map .define)
  | [], r => by
    have hid : EnumType.withEntries name [] = fun e => e := rfl
    simp [hid]
  | x :: xs, r => by
    rw [List.foldl_cons, get?_foldl_withEntry name xs, get?_withEntry, List.findSome?_cons]
    cases r.types.get? name with
    | none => cases x.define? name <;> simp [RegistryType.mapEnum]
    | some t => cases t <;> simp [RegistryType.mapEnum, EnumType.withEntries_cons]

/-- The enums are those that were there. -/
theorem get?_foldl_withEntry_eq_enum_iff {xs : List Entry} {e' : EnumType} :
    (xs.foldl withEntry r).types.get? key = some (.enum e') ↔
      ∃ e, r.types.get? key = some (.enum e) ∧ e.withEntries key xs = e' := by
  rw [get?_foldl_withEntry]
  cases r.types.get? key with
  | none => cases xs.findSome? (Entry.define? key) <;> simp
  | some t => simp [RegistryType.mapEnum_eq_enum_iff]

theorem get?_foldl_withEntry_of_enum (he : r.types.get? key = some (.enum e)) (xs : List Entry) :
    (xs.foldl withEntry r).types.get? key = some (.enum (e.withEntries key xs)) :=
  get?_foldl_withEntry_eq_enum_iff.2 ⟨e, he, rfl⟩

theorem gains_foldl_withEntry (xs : List Entry) (r : Registry) :
    r.Gains xs (xs.foldl withEntry r) where
  enums := fun key e he =>
    ⟨e.withEntries key xs, get?_foldl_withEntry_of_enum he xs, e.gains_withEntries key xs⟩
  others := fun name t ht hne => by
    simp [get?_foldl_withEntry, ht, RegistryType.mapEnum_of_not_enum _ hne]
  constants := fun name hnone => by
    simp [get?_foldl_withEntry, hnone]
  rest := types_foldl_withEntry_only xs r

/-- **What the contributions of a registry do to it.** Each of them comes to an entry
in the registry as it is before, and the registry afterwards is the one before with
what these entries give it, in the order of the contributions, and nothing else. -/
theorem gains_of_withContributions (h : r.withContributions = .ok r') :
    ∃ xs, r.contributions.mapM (Contribution.entry r) = .ok xs ∧ r.Gains xs r' := by
  obtain ⟨xs, hxs, -, rfl⟩ := foldlM_apply_eq_ok_iff.1 h
  exact ⟨xs, hxs, gains_foldl_withEntry xs r⟩

/-- What the contributions of `enumDocument` come to, in the order in which they are
made. -/
def enumEntries : List Entry := [
  .field "Color" { name := "GREEN", value := 1, representation := "1", added := true },
  .field "Color" { name := "GREEN", value := 1, representation := "1", added := true },
  .field "Color"
    { name := "YELLOW", value := 1000006000, representation := "1000006000", added := true },
  .field "Color"
    { name := "AMBER", value := 1000004002, representation := "1000004002", added := true },
  .field "Color"
    { name := "BLUE", value := 1000001000, representation := "1000001000", added := true },
  .field "Color"
    { name := "BLUE", value := 1000001000, representation := "1000001000", added := true },
  .constant "BLUE_VERSION" "1",
  .fieldAlias "Color" { name := "VERT", target := "GREEN", added := true },
  .field "Color"
    { name := "NAVY", value := -1000001001, representation := "-1000001001", added := true }]

theorem gains_enumRegistry : enumSections.withContributions = .ok enumRegistry ∧
    enumSections.contributions.mapM (Contribution.entry enumSections) = .ok enumEntries ∧
      enumSections.Gains enumEntries enumRegistry := by
  have hentries :
      enumSections.contributions.mapM (Contribution.entry enumSections) = .ok enumEntries := by
    decide +kernel
  obtain ⟨xs, hxs, hgains⟩ := gains_of_withContributions withContributions_enumSections
  obtain rfl : enumEntries = xs := Except.ok.inj (hentries.symm.trans hxs)
  exact ⟨withContributions_enumSections, hentries, hgains⟩

end Registry
end VulkanFoundry
