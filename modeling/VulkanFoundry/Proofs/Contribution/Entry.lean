/-
# What a contribution enters

Against a registry a contribution comes to an entry: a constant, or a field or an
alias of the enum that stands under a key. Which enum that is, and how wide its
values are, is changed by no contribution, so all contributions can be resolved
before the first one is made.

An entry fits into a registry if nothing stands there that speaks against it, and
two entries agree if neither speaks against the other. Once an entry is made, what
fits is what did fit before and agrees with the entry (`Entry.fitsIn_withEntry_iff`).
So a list of contributions succeeds exactly if each comes to an entry that fits and
any two of the entries agree, and the result is the registry with the entries made
in turn (`foldlM_apply_eq_ok_iff`).

Key theorems: `Registry.get?_withEntry`, `Contribution.apply_eq_ok_iff`.
-/
import VulkanFoundry.Proofs.Success
import VulkanFoundry.Registry.Contribution

namespace VulkanFoundry

/-- What a contribution comes to in a registry. -/
inductive Entry where
  | constant (name value : String)
  /-- A field of the enum under the key. -/
  | field (key : String) (f : EnumField)
  /-- A field alias of the enum under the key. -/
  | fieldAlias (key : String) (a : EnumFieldAlias)
  deriving DecidableEq

namespace Contribution

def targetEnum (c : Contribution) (r : Registry) (extended : String) :
    Except LoadError EnumType :=
  match r.types.get? (r.extendedName extended) with
  | some (.enum e) => .ok e
  | _ => .error (.unresolvedReference extended c.place)

def entry (r : Registry) (c : Contribution) : Except LoadError Entry :=
  match c.addition with
  | .constant value => .ok (.constant c.name value)
  | .field extended source => do
    let e ← c.targetEnum r extended
    let v ← c.fieldValue source e.bit64
    return .field (r.extendedName extended)
      { name := c.name, value := v.value, representation := v.representation, added := true }
  | .fieldAlias extended target => do
    let _ ← c.targetEnum r extended
    return .fieldAlias (r.extendedName extended) { name := c.name, target, added := true }

end Contribution

namespace EnumType

/-- The field can be added: its name is no alias, and a field of its name has its
value. -/
def AcceptsField (e : EnumType) (f : EnumField) : Prop :=
  e.aliases.get? f.name = none ∧ ∀ g, e.field? f.name = some g → g.value = f.value

/-- The alias can be added: its name is no field, and an alias of its name has its
target. -/
def AcceptsAlias (e : EnumType) (a : EnumFieldAlias) : Prop :=
  e.field? a.name = none ∧ ∀ b, e.aliases.get? a.name = some b → b.target = a.target

def withField (e : EnumType) (f : EnumField) : EnumType :=
  if (e.field? f.name).isSome then e else { e with fields := e.fields ++ [f] }

def withAlias (e : EnumType) (a : EnumFieldAlias) : EnumType :=
  if e.aliases.contains a.name then e else { e with aliases := e.aliases.insert a.name a }

def withEntry (e : EnumType) (key : String) : Entry → EnumType
  | .constant _ _ => e
  | .field k f => if k = key then e.withField f else e
  | .fieldAlias k a => if k = key then e.withAlias a else e

end EnumType

namespace Entry

/-- Nothing in the registry speaks against the entry, and there is an enum for
it. -/
def FitsIn (r : Registry) : Entry → Prop
  | .constant name value =>
    ∀ t, r.types.get? name = some t → ∃ d : Define, t = .define d ∧ d.value = value
  | .field key f => ∃ e, r.types.get? key = some (.enum e) ∧ e.AcceptsField f
  | .fieldAlias key a => ∃ e, r.types.get? key = some (.enum e) ∧ e.AcceptsAlias a

/-- The entries do not speak against each other. -/
def Agrees : Entry → Entry → Prop
  | .constant n v, .constant n' v' => n = n' → v = v'
  | .field k f, .field k' f' => k = k' → f.name = f'.name → f.value = f'.value
  | .fieldAlias k a, .fieldAlias k' a' => k = k' → a.name = a'.name → a.target = a'.target
  | .field k f, .fieldAlias k' a => k = k' → f.name ≠ a.name
  | .fieldAlias k a, .field k' f => k = k' → a.name ≠ f.name
  | .constant _ _, _ => True
  | _, .constant _ _ => True

def define? (name : String) : Entry → Option Define
  | .constant n value =>
    if n = name then some { name, signature := none, value, added := true } else none
  | _ => none

end Entry

def RegistryType.mapEnum (change : EnumType → EnumType) : RegistryType → RegistryType
  | .enum e => .enum (change e)
  | t => t

namespace Registry

def mapEnum (r : Registry) (key : String) (change : EnumType → EnumType) : Registry :=
  match r.types.get? key with
  | some (.enum e) => { r with types := r.types.insert key (.enum (change e)) }
  | _ => r

def withEntry (r : Registry) : Entry → Registry
  | .constant name value =>
    if r.types.contains name then r
    else { r with
      types := r.types.insert name (.define { name, signature := none, value, added := true }) }
  | .field key f => r.mapEnum key (·.withField f)
  | .fieldAlias key a => r.mapEnum key (·.withAlias a)

/-- All entries fit, and they agree with each other. -/
structure Takes (r : Registry) (xs : List Entry) : Prop where
  fits : ∀ x ∈ xs, x.FitsIn r
  agree : ∀ x ∈ xs, ∀ y ∈ xs, x.Agrees y

end Registry

variable {r r' : Registry} {e e' : EnumType} {x y : Entry} {key : String}

/-! ### Fields and aliases of one enum -/

theorem Entry.FitsIn.acceptsField {f : EnumField} (h : (Entry.field key f).FitsIn r)
    (he : r.types.get? key = some (.enum e)) : e.AcceptsField f := by
  obtain ⟨e₁, he₁, hf⟩ := h
  obtain rfl : e₁ = e := by simpa [he] using he₁.symm
  exact hf

theorem Entry.FitsIn.acceptsAlias {a : EnumFieldAlias} (h : (Entry.fieldAlias key a).FitsIn r)
    (he : r.types.get? key = some (.enum e)) : e.AcceptsAlias a := by
  obtain ⟨e₁, he₁, ha⟩ := h
  obtain rfl : e₁ = e := by simpa [he] using he₁.symm
  exact ha

namespace EnumType

theorem addField_eq_ok_iff {f : EnumField} :
    e.addField f = .ok e' ↔ e.AcceptsField f ∧ e' = e.withField f := by
  unfold addField AcceptsField withField
  rw [NameMap.contains]
  cases ha : e.aliases.get? f.name with
  | some a => simp
  | none =>
    cases hf : e.field? f.name with
    | none => simp [eq_comm]
    | some g =>
      by_cases hv : g.value = f.value
      · simp [hv, eq_comm]
      · simp [hv]

theorem addAlias_eq_ok_iff {a : EnumFieldAlias} :
    e.addAlias a = .ok e' ↔ e.AcceptsAlias a ∧ e' = e.withAlias a := by
  unfold addAlias AcceptsAlias withAlias
  rw [NameMap.contains]
  cases hf : e.field? a.name with
  | some f => simp
  | none =>
    cases ha : e.aliases.get? a.name with
    | none => simp [eq_comm]
    | some b =>
      by_cases ht : b.target = a.target
      · simp [ht, eq_comm]
      · simp [ht]

theorem field?_withField {f : EnumField} {name : String} :
    (e.withField f).field? name = (e.field? name).or (if f.name = name then some f else none) := by
  unfold withField
  by_cases hf : (e.field? f.name).isSome
  · rw [if_pos hf]
    by_cases hn : f.name = name
    · subst hn
      obtain ⟨g, hg⟩ := Option.isSome_iff_exists.1 hf
      simp [hg]
    · simp [hn]
  · rw [if_neg hf]
    simp only [field?, List.find?_append, List.find?_singleton, decide_eq_true_eq]

@[simp] theorem aliases_withField {f : EnumField} : (e.withField f).aliases = e.aliases := by
  unfold withField
  split <;> rfl

theorem get?_aliases_withAlias {a : EnumFieldAlias} {name : String} :
    (e.withAlias a).aliases.get? name =
      (e.aliases.get? name).or (if a.name = name then some a else none) := by
  unfold withAlias
  by_cases ha : e.aliases.contains a.name = true
  · rw [if_pos ha]
    by_cases hn : a.name = name
    · subst hn
      obtain ⟨b, hb⟩ := NameMap.contains_iff.1 ha
      simp [hb]
    · simp [hn]
  · rw [if_neg ha, NameMap.get?_insert]
    by_cases hn : a.name = name
    · subst hn
      have hnone : e.aliases.get? a.name = none := by simpa [NameMap.contains] using ha
      simp [hnone]
    · simp [hn, Ne.symm hn]

@[simp] theorem field?_withAlias {a : EnumFieldAlias} {name : String} :
    (e.withAlias a).field? name = e.field? name := by
  unfold withAlias field?
  split <;> rfl

theorem fields_aliases_withEntry_only (e : EnumType) (key : String) (x : Entry) :
    e.withEntry key x = { e with
      fields := (e.withEntry key x).fields, aliases := (e.withEntry key x).aliases } := by
  cases x with
  | constant name value => rfl
  | field k f =>
    simp only [withEntry, withField]
    split
    · split <;> rfl
    · rfl
  | fieldAlias k a =>
    simp only [withEntry, withAlias]
    split
    · split <;> rfl
    · rfl

theorem bit64_withEntry : (e.withEntry key x).bit64 = e.bit64 := by
  rw [fields_aliases_withEntry_only]

end EnumType

/-! ### The types with an entry made -/

theorem Entry.define?_eq_some_iff {name : String} {d : Define} :
    x.define? name = some d ↔
      x = .constant name d.value ∧
        d = { name, signature := none, value := d.value, added := true } := by
  cases x with
  | constant n v =>
    simp only [Entry.define?, Option.ite_some_none_eq_some, Entry.constant.injEq]
    constructor
    · rintro ⟨rfl, rfl⟩
      exact ⟨⟨rfl, rfl⟩, rfl⟩
    · rintro ⟨⟨rfl, rfl⟩, hd⟩
      exact ⟨rfl, hd.symm⟩
  | _ => simp [Entry.define?]

namespace RegistryType

@[simp] theorem mapEnum_enum (change : EnumType → EnumType) (e : EnumType) :
    mapEnum change (.enum e) = .enum (change e) := rfl

theorem mapEnum_of_not_enum (change : EnumType → EnumType) {t : RegistryType}
    (h : ∀ e, t ≠ .enum e) : mapEnum change t = t := by
  cases t with
  | enum e => exact absurd rfl (h e)
  | _ => rfl

@[simp] theorem mapEnum_id : mapEnum (fun e => e) = id := by
  funext t
  cases t <;> rfl

@[simp] theorem target?_mapEnum (change : EnumType → EnumType) (t : RegistryType) :
    (mapEnum change t).target? = t.target? := by
  cases t <;> rfl

theorem mapEnum_eq_enum_iff {change : EnumType → EnumType} {t : RegistryType} :
    mapEnum change t = .enum e' ↔ ∃ e, t = .enum e ∧ change e = e' := by
  cases t <;> simp [mapEnum]

end RegistryType

namespace Registry

theorem types_mapEnum_only (r : Registry) (key : String) (change : EnumType → EnumType) :
    r.mapEnum key change = { r with types := (r.mapEnum key change).types } := by
  unfold mapEnum
  split <;> rfl

/-- Only what the change makes of the enum under the key matters. -/
theorem mapEnum_congr {change change' : EnumType → EnumType}
    (he : r.types.get? key = some (.enum e)) (h : change e = change' e) :
    r.mapEnum key change = r.mapEnum key change' := by
  simp only [mapEnum, he, h]

theorem get?_mapEnum_self (r : Registry) (key : String) (change : EnumType → EnumType) :
    (r.mapEnum key change).types.get? key =
      (r.types.get? key).map (RegistryType.mapEnum change) := by
  unfold mapEnum
  split
  · rename_i e he
    simp [he]
  · rename_i hne
    cases ht : r.types.get? key with
    | none => rfl
    | some t =>
      rw [Option.map_some, RegistryType.mapEnum_of_not_enum change]
      rintro e rfl
      exact hne e ht

theorem get?_mapEnum_of_ne (r : Registry) {key name : String} (h : name ≠ key)
    (change : EnumType → EnumType) :
    (r.mapEnum key change).types.get? name = r.types.get? name := by
  unfold mapEnum
  split
  · exact NameMap.get?_insert_of_ne _ h _
  · rfl

theorem get?_mapEnum (r : Registry) (key name : String) (change : EnumType → EnumType) :
    (r.mapEnum key change).types.get? name =
      (r.types.get? name).map
        (RegistryType.mapEnum fun e => if key = name then change e else e) := by
  by_cases hn : key = name
  · subst hn
    simp [get?_mapEnum_self]
  · simp [hn, get?_mapEnum_of_ne r (Ne.symm hn)]

theorem types_withEntry_only (r : Registry) (x : Entry) :
    r.withEntry x = { r with types := (r.withEntry x).types } := by
  cases x with
  | constant name value =>
    simp only [withEntry]
    split <;> rfl
  | field key f => exact types_mapEnum_only r key _
  | fieldAlias key a => exact types_mapEnum_only r key _

/-- **What an entry changes.** An enum that is there changes as `EnumType.withEntry`
says, and where no type is there, one appears only if it is the entry's constant. -/
theorem get?_withEntry (r : Registry) (x : Entry) (name : String) :
    (r.withEntry x).types.get? name =
      ((r.types.get? name).map (RegistryType.mapEnum (·.withEntry name x))).or
        ((x.define? name).map .define) := by
  cases x with
  | constant n value =>
    simp only [EnumType.withEntry, RegistryType.mapEnum_id, Option.map_id_fun, id_eq,
      withEntry, Entry.define?]
    by_cases hn : n = name
    · subst hn
      by_cases hin : r.types.contains n = true
      · obtain ⟨t, ht⟩ := NameMap.contains_iff.1 hin
        simp [hin, ht]
      · have hnone : r.types.get? n = none := by simpa [NameMap.contains] using hin
        simp [hin, hnone]
    · split
      · simp
      · simp [NameMap.get?_insert_of_ne _ (Ne.symm hn)]
  | field key f =>
    rw [withEntry, get?_mapEnum]
    simp [EnumType.withEntry, Entry.define?]
  | fieldAlias key a =>
    rw [withEntry, get?_mapEnum]
    simp [EnumType.withEntry, Entry.define?]

/-- The enums are those that were there. -/
theorem get?_withEntry_eq_enum_iff {name : String} :
    (r.withEntry x).types.get? name = some (.enum e') ↔
      ∃ e, r.types.get? name = some (.enum e) ∧ e.withEntry name x = e' := by
  rw [get?_withEntry]
  cases r.types.get? name with
  | none => cases x.define? name <;> simp
  | some t => simp [RegistryType.mapEnum_eq_enum_iff]

theorem get?_withEntry_of_enum (he : r.types.get? key = some (.enum e)) (x : Entry) :
    (r.withEntry x).types.get? key = some (.enum (e.withEntry key x)) :=
  get?_withEntry_eq_enum_iff.2 ⟨e, he, rfl⟩

@[simp] theorem extendedName_withEntry (r : Registry) (x : Entry) (name : String) :
    (r.withEntry x).extendedName name = r.extendedName name := by
  unfold extendedName
  rw [get?_withEntry]
  cases r.types.get? name with
  | none => cases x.define? name <;> rfl
  | some t => cases t <;> rfl

end Registry

/-! ### The entry of a contribution -/

namespace Contribution

variable {c : Contribution} {extended : String}

theorem targetEnum_eq_ok_iff :
    c.targetEnum r extended = .ok e ↔ r.types.get? (r.extendedName extended) = some (.enum e) := by
  unfold targetEnum
  split
  · rename_i e' he
    simp [he]
  · rename_i hne
    simp only [reduceCtorEq, false_iff]
    exact hne e

theorem targetEnum_withEntry : c.targetEnum (r.withEntry x) extended =
    (c.targetEnum r extended).map (·.withEntry (r.extendedName extended) x) := by
  unfold targetEnum
  rw [Registry.extendedName_withEntry, Registry.get?_withEntry]
  cases r.types.get? (r.extendedName extended) with
  | none => cases x.define? (r.extendedName extended) <;> rfl
  | some t => cases t <;> rfl

/-- **What contributions come to is settled before any of them is made.** -/
theorem entry_withEntry (r : Registry) (x : Entry) : entry (r.withEntry x) = entry r := by
  funext c
  unfold entry
  cases c.addition with
  | constant value => rfl
  | field extended source =>
    simp only [targetEnum_withEntry, Registry.extendedName_withEntry]
    cases c.targetEnum r extended with
    | error err => rfl
    | ok e =>
      show (c.fieldValue source (e.withEntry _ x).bit64 >>= _) = (c.fieldValue source e.bit64 >>= _)
      rw [EnumType.bit64_withEntry]
  | fieldAlias extended target =>
    simp only [targetEnum_withEntry, Registry.extendedName_withEntry]
    cases c.targetEnum r extended <;> rfl

theorem added_of_field {f : EnumField} (h : c.entry r = .ok (.field key f)) : f.added = true := by
  unfold entry at h
  split at h
  · cases Except.ok.inj h
  · obtain ⟨e, -, h⟩ := bind_eq_ok_iff.1 h
    obtain ⟨v, -, h⟩ := bind_eq_ok_iff.1 h
    obtain ⟨-, rfl⟩ := Entry.field.inj (Except.ok.inj h)
    rfl
  · obtain ⟨e, -, h⟩ := bind_eq_ok_iff.1 h
    cases Except.ok.inj h

theorem added_of_fieldAlias {a : EnumFieldAlias} (h : c.entry r = .ok (.fieldAlias key a)) :
    a.added = true := by
  unfold entry at h
  split at h
  · cases Except.ok.inj h
  · obtain ⟨e, -, h⟩ := bind_eq_ok_iff.1 h
    obtain ⟨v, -, h⟩ := bind_eq_ok_iff.1 h
    cases Except.ok.inj h
  · obtain ⟨e, -, h⟩ := bind_eq_ok_iff.1 h
    obtain ⟨-, rfl⟩ := Entry.fieldAlias.inj (Except.ok.inj h)
    rfl

theorem addConstant_eq_ok_iff {name value : String} :
    addConstant r name value = .ok r' ↔
      (Entry.constant name value).FitsIn r ∧ r' = r.withEntry (.constant name value) := by
  have hcontains : r.types.contains name = (r.types.get? name).isSome := rfl
  simp only [addConstant, Entry.FitsIn, Registry.withEntry]
  cases hget : r.types.get? name with
  | none =>
    rw [hget] at hcontains
    simp [hcontains, eq_comm]
  | some t =>
    rw [hget] at hcontains
    cases t with
    | define d =>
      by_cases hv : d.value = value
      · simp [hcontains, hv, eq_comm]
      · simp [hv]
    | _ => simp

theorem changeEnum_eq_ok_iff {change : EnumType → Except LoadError EnumType} :
    c.changeEnum r extended change = .ok r' ↔ ∃ e e', c.targetEnum r extended = .ok e ∧
      change e = .ok e' ∧ r' = r.mapEnum (r.extendedName extended) fun _ => e' := by
  simp only [targetEnum_eq_ok_iff]
  unfold changeEnum
  constructor
  · intro h
    simp only at h
    split at h
    · rename_i e he
      obtain ⟨e', he', h⟩ := bind_eq_ok_iff.1 h
      refine ⟨e, e', he, he', ?_⟩
      rw [Registry.mapEnum, he]
      exact (Except.ok.inj h).symm
    · cases h
  · rintro ⟨e, e', he, he', rfl⟩
    simp only [he, he', Registry.mapEnum]
    rfl

/-- **A contribution is made if its entry fits.** -/
theorem apply_eq_ok_iff :
    apply r c = .ok r' ↔ ∃ x, entry r c = .ok x ∧ x.FitsIn r ∧ r' = r.withEntry x := by
  unfold apply entry
  cases c.addition with
  | constant value => simp [addConstant_eq_ok_iff]
  | field extended source =>
    simp only [changeEnum_eq_ok_iff, bind_eq_ok_iff, targetEnum_eq_ok_iff,
      EnumType.addField_eq_ok_iff]
    constructor
    · rintro ⟨e, e', he, ⟨v, hv, hfits, rfl⟩, rfl⟩
      refine ⟨_, ⟨e, he, v, hv, rfl⟩, ⟨e, he, hfits⟩, ?_⟩
      exact Registry.mapEnum_congr he rfl
    · rintro ⟨x, ⟨e, he, v, hv, hx⟩, hfits, rfl⟩
      obtain rfl := Except.ok.inj hx
      refine ⟨e, _, he, ⟨v, hv, hfits.acceptsField he, rfl⟩, ?_⟩
      exact Registry.mapEnum_congr he rfl
  | fieldAlias extended target =>
    simp only [changeEnum_eq_ok_iff, bind_eq_ok_iff, targetEnum_eq_ok_iff,
      EnumType.addAlias_eq_ok_iff]
    constructor
    · rintro ⟨e, e', he, ⟨hfits, rfl⟩, rfl⟩
      refine ⟨_, ⟨e, he, rfl⟩, ⟨e, he, hfits⟩, ?_⟩
      exact Registry.mapEnum_congr he rfl
    · rintro ⟨x, ⟨e, he, hx⟩, hfits, rfl⟩
      obtain rfl := Except.ok.inj hx
      refine ⟨e, _, he, ⟨hfits.acceptsAlias he, rfl⟩, ?_⟩
      exact Registry.mapEnum_congr he rfl

end Contribution

/-! ### What fits once an entry is made -/

namespace EnumType

variable {f g : EnumField} {a b : EnumFieldAlias}

theorem acceptsField_withField (hg : e.AcceptsField g) :
    (e.withField g).AcceptsField f ↔
      e.AcceptsField f ∧ (g.name = f.name → g.value = f.value) := by
  unfold AcceptsField
  rw [aliases_withField, field?_withField, and_assoc]
  refine and_congr_right fun _ => ?_
  by_cases hn : g.name = f.name
  · cases hf : e.field? f.name with
    | none => simp [hn]
    | some h =>
      -- the field that is there has the value of the one that was added
      have hv : h.value = g.value := hg.2 h (hn ▸ hf)
      simp [hn, hv]
  · simp [hn]

theorem acceptsField_withAlias :
    (e.withAlias a).AcceptsField f ↔ e.AcceptsField f ∧ a.name ≠ f.name := by
  unfold AcceptsField
  rw [get?_aliases_withAlias, field?_withAlias, Option.or_eq_none_iff]
  by_cases hn : a.name = f.name
  · simp [hn]
  · simp [hn]

theorem acceptsAlias_withField :
    (e.withField g).AcceptsAlias a ↔ e.AcceptsAlias a ∧ g.name ≠ a.name := by
  unfold AcceptsAlias
  rw [aliases_withField, field?_withField, Option.or_eq_none_iff]
  by_cases hn : g.name = a.name
  · simp [hn]
  · simp [hn]

theorem acceptsAlias_withAlias (hb : e.AcceptsAlias b) :
    (e.withAlias b).AcceptsAlias a ↔
      e.AcceptsAlias a ∧ (b.name = a.name → b.target = a.target) := by
  unfold AcceptsAlias
  rw [get?_aliases_withAlias, field?_withAlias, and_assoc]
  refine and_congr_right fun _ => ?_
  by_cases hn : b.name = a.name
  · cases ha : e.aliases.get? a.name with
    | none => simp [hn]
    | some c =>
      -- the alias that is there has the target of the one that was added
      have ht : c.target = b.target := hb.2 c (hn ▸ ha)
      simp [hn, ht]
  · simp [hn]

theorem acceptsField_withEntry (hx : x.FitsIn r) (he : r.types.get? key = some (.enum e)) :
    (e.withEntry key x).AcceptsField f ↔ e.AcceptsField f ∧ x.Agrees (.field key f) := by
  cases x with
  | constant name value => simp [withEntry, Entry.Agrees]
  | field k g =>
    by_cases hk : k = key
    · subst hk
      simp [withEntry, Entry.Agrees, acceptsField_withField (hx.acceptsField he)]
    · simp [withEntry, Entry.Agrees, hk]
  | fieldAlias k a =>
    by_cases hk : k = key
    · simp [withEntry, Entry.Agrees, hk, acceptsField_withAlias]
    · simp [withEntry, Entry.Agrees, hk]

theorem acceptsAlias_withEntry (hx : x.FitsIn r) (he : r.types.get? key = some (.enum e)) :
    (e.withEntry key x).AcceptsAlias a ↔ e.AcceptsAlias a ∧ x.Agrees (.fieldAlias key a) := by
  cases x with
  | constant name value => simp [withEntry, Entry.Agrees]
  | field k g =>
    by_cases hk : k = key
    · simp [withEntry, Entry.Agrees, hk, acceptsAlias_withField]
    · simp [withEntry, Entry.Agrees, hk]
  | fieldAlias k b =>
    by_cases hk : k = key
    · subst hk
      simp [withEntry, Entry.Agrees, acceptsAlias_withAlias (hx.acceptsAlias he)]
    · simp [withEntry, Entry.Agrees, hk]

end EnumType

namespace Entry

theorem Agrees.refl (x : Entry) : x.Agrees x := by
  cases x <;> simp [Agrees]

theorem Agrees.symm (h : x.Agrees y) : y.Agrees x := by
  cases x <;> cases y <;> simp_all [Agrees, eq_comm]

theorem constant_fitsIn_withEntry_iff (hx : x.FitsIn r) {name value : String} :
    (Entry.constant name value).FitsIn (r.withEntry x) ↔
      (Entry.constant name value).FitsIn r ∧ x.Agrees (.constant name value) := by
  simp only [FitsIn, Registry.get?_withEntry]
  cases hget : r.types.get? name with
  | none =>
    cases x with
    | constant n v =>
      by_cases hn : n = name
      · simp [define?, Agrees, hn]
      · simp [define?, Agrees, hn]
    | _ => simp [define?, Agrees]
  | some t =>
    have hkeep : (∃ d : Define, t.mapEnum (·.withEntry name x) = .define d ∧ d.value = value) ↔
        ∃ d : Define, t = .define d ∧ d.value = value := by
      cases t <;> simp [RegistryType.mapEnum]
    simp only [Option.map_some, Option.some_or, Option.some.injEq, forall_eq', hkeep]
    refine (and_iff_left_of_imp ?_).symm
    rintro ⟨d, rfl, rfl⟩
    cases x with
    | constant n v =>
      rintro rfl
      obtain ⟨d', hd', rfl⟩ := hx _ hget
      rw [RegistryType.define.inj hd']
    | _ => trivial

/-- **What fits once an entry is made** is what did fit before and agrees with the
entry. -/
theorem fitsIn_withEntry_iff (hx : x.FitsIn r) :
    y.FitsIn (r.withEntry x) ↔ y.FitsIn r ∧ x.Agrees y := by
  cases y with
  | constant name value => exact constant_fitsIn_withEntry_iff hx
  | field key f =>
    simp only [FitsIn, Registry.get?_withEntry_eq_enum_iff]
    constructor
    · rintro ⟨_, ⟨e, he, rfl⟩, hf⟩
      obtain ⟨hf, hagree⟩ := (EnumType.acceptsField_withEntry hx he).1 hf
      exact ⟨⟨e, he, hf⟩, hagree⟩
    · rintro ⟨⟨e, he, hf⟩, hagree⟩
      exact ⟨_, ⟨e, he, rfl⟩, (EnumType.acceptsField_withEntry hx he).2 ⟨hf, hagree⟩⟩
  | fieldAlias key a =>
    simp only [FitsIn, Registry.get?_withEntry_eq_enum_iff]
    constructor
    · rintro ⟨_, ⟨e, he, rfl⟩, ha⟩
      obtain ⟨ha, hagree⟩ := (EnumType.acceptsAlias_withEntry hx he).1 ha
      exact ⟨⟨e, he, ha⟩, hagree⟩
    · rintro ⟨⟨e, he, ha⟩, hagree⟩
      exact ⟨_, ⟨e, he, rfl⟩, (EnumType.acceptsAlias_withEntry hx he).2 ⟨ha, hagree⟩⟩

end Entry

/-! ### A list of contributions -/

theorem Registry.takes_cons_iff {xs : List Entry} :
    r.Takes (x :: xs) ↔ x.FitsIn r ∧ (r.withEntry x).Takes xs := by
  constructor
  · rintro ⟨hfits, hagree⟩
    obtain ⟨hx, hxs⟩ := List.forall_mem_cons.1 hfits
    refine ⟨hx, fun y hy => ?_, fun y hy z hz => ?_⟩
    · have hxy := hagree x List.mem_cons_self y (List.mem_cons_of_mem x hy)
      exact (Entry.fitsIn_withEntry_iff hx).2 ⟨hxs y hy, hxy⟩
    · exact hagree y (List.mem_cons_of_mem x hy) z (List.mem_cons_of_mem x hz)
  · rintro ⟨hx, hfits, hagree⟩
    have hxs : ∀ y ∈ xs, y.FitsIn r ∧ x.Agrees y := fun y hy =>
      (Entry.fitsIn_withEntry_iff hx).1 (hfits y hy)
    refine ⟨List.forall_mem_cons.2 ⟨hx, fun y hy => (hxs y hy).1⟩, ?_⟩
    refine List.forall_mem_cons.2 ⟨?_, fun y hy => ?_⟩
    · exact List.forall_mem_cons.2 ⟨.refl x, fun y hy => (hxs y hy).2⟩
    · exact List.forall_mem_cons.2 ⟨(hxs y hy).2.symm, hagree y hy⟩

/-- **When contributions succeed, and what they give.** Each comes to an entry of the
registry as it is at first, the entries fit and agree, and they are made in turn. -/
theorem foldlM_apply_eq_ok_iff :
    ∀ {cs : List Contribution} {r r' : Registry}, cs.foldlM Contribution.apply r = .ok r' ↔
      ∃ xs, cs.mapM (Contribution.entry r) = .ok xs ∧ r.Takes xs ∧
        r' = xs.foldl Registry.withEntry r
  | [], r, r' => by
    constructor
    · intro h
      refine ⟨[], rfl, ⟨?_, ?_⟩, (Except.ok.inj h).symm⟩
      · exact fun x hx => absurd hx List.not_mem_nil
      · exact fun x hx => absurd hx List.not_mem_nil
    · rintro ⟨xs, hxs, -, rfl⟩
      obtain rfl := Except.ok.inj hxs
      rfl
  | c :: cs, r, r' => by
    rw [List.foldlM_cons, List.mapM_cons, bind_eq_ok_iff]
    constructor
    · rintro ⟨r₁, hc, hcs⟩
      obtain ⟨x, hx, hfits, rfl⟩ := Contribution.apply_eq_ok_iff.1 hc
      obtain ⟨xs, hxs, htakes, rfl⟩ := foldlM_apply_eq_ok_iff.1 hcs
      rw [Contribution.entry_withEntry] at hxs
      refine ⟨x :: xs, ?_, Registry.takes_cons_iff.2 ⟨hfits, htakes⟩, rfl⟩
      exact bind_eq_ok_iff.2 ⟨x, hx, bind_eq_ok_iff.2 ⟨xs, hxs, rfl⟩⟩
    · rintro ⟨ys, hys, htakes, rfl⟩
      obtain ⟨x, hx, hys⟩ := bind_eq_ok_iff.1 hys
      obtain ⟨xs, hxs, hys⟩ := bind_eq_ok_iff.1 hys
      obtain rfl := Except.ok.inj hys
      obtain ⟨hfits, htakes⟩ := Registry.takes_cons_iff.1 htakes
      refine ⟨r.withEntry x, Contribution.apply_eq_ok_iff.2 ⟨x, hx, hfits, rfl⟩, ?_⟩
      refine foldlM_apply_eq_ok_iff.2 ⟨xs, ?_, htakes, rfl⟩
      rw [Contribution.entry_withEntry]
      exact hxs

end VulkanFoundry
