/-
# Which enum elements count

An enum element that decides is heard: the enum that it extends is there, and means by
the element's name what the element says. And whatever an enum means by a name, its
own block says or a deciding element does (`Registry.meaning?_of_ofDocument`). So an
element with another entry of its name behind it is lost, without an error even if it
gives another value (`overruled_element_is_lost`).

Key theorems: `EnumAddition.of_ofElement?`, `meaning?_entry_of_ofEnum`.
-/
import VulkanFoundry.Proofs.Contribution.Meaning
import VulkanFoundry.Proofs.Registry.Features

namespace VulkanFoundry

/-- What the attributes of an element say that its name means in an enum whose values
have 32 or 64 bits. The number is that of the extension around, if there is one. -/
def EnumElement.meaning? (e : EnumElement) (number : Option UInt32) (bit64 : Bool) :
    Option Meaning :=
  match e.target, e.value, e.bitPosition, e.offset with
  | some target, _, _, _ => some (.target target)
  | none, some literal, _, _ => do
    let v ← (EnumValue.ofLiteral literal).toOption
    return .value v.value
  | none, none, some position, _ => do
    let n ← (Attribute.readNumber "bitpos" position).toOption
    let v ← (EnumValue.ofBitPosition n bit64).toOption
    return .value v.value
  | none, none, none, some offset => do
    let own ← (Attribute.readNumber? "extnumber" e.extensionNumber).toOption
    let n ← (Attribute.readNumber "offset" offset).toOption
    let number ← own.or number
    let v ← (EnumValue.ofOffset number n (e.direction = some "-")).toOption
    return .value v.value
  | none, none, none, none => none

variable {doc : Document} {owner name : String} {number : Option UInt32}

/-! ### What an element adds -/

/-- What an element that extends an enum adds is what its attributes say: the value
that its source gives is the value that they mean. -/
theorem EnumAddition.of_ofElement? {e : EnumElement} {a : EnumAddition}
    (h : EnumAddition.ofElement? e name owner = .ok (some a)) :
    (e.extended = none ∧ ∃ value, a = .constant value) ∨
    ∃ extended, e.extended = some extended ∧
      ((∃ target, a = .fieldAlias extended target ∧
          ∀ number bit64, e.meaning? number bit64 = some (.target target)) ∨
        ∃ source, a = .field extended source ∧ ∀ (c : Contribution) bit64 v,
          c.fieldValue source bit64 = .ok v →
          e.meaning? c.extensionNumber bit64 = some (.value v.value)) := by
  unfold EnumAddition.ofElement? at h
  split at h
  · rename_i hext
    obtain ⟨value, -, rfl⟩ := Option.map_eq_some_iff.1 (Except.ok.inj h)
    exact .inl ⟨hext, value, rfl⟩
  · rename_i extended hext
    refine .inr ⟨extended, hext, ?_⟩
    split at h
    · rename_i target htarget
      obtain rfl := Option.some.inj (Except.ok.inj h)
      refine .inl ⟨target, rfl, fun number bit64 => ?_⟩
      simp [EnumElement.meaning?, htarget]
    · rename_i literal htarget hvalue
      obtain rfl := Option.some.inj (Except.ok.inj h)
      refine .inr ⟨_, rfl, fun c bit64 v hv => ?_⟩
      have hv : EnumValue.ofLiteral literal = .ok v := hv
      simp [EnumElement.meaning?, htarget, hvalue, hv, Except.toOption]
    · rename_i position htarget hvalue hposition
      obtain ⟨n, hn, h⟩ := bind_eq_ok_iff.1 h
      obtain rfl := Option.some.inj (Except.ok.inj h)
      refine .inr ⟨_, rfl, fun c bit64 v hv => ?_⟩
      have hv : EnumValue.ofBitPosition n bit64 = .ok v := hv
      simp [EnumElement.meaning?, htarget, hvalue, hposition, hn, hv, Except.toOption]
    · rename_i offset htarget hvalue hposition hoffset
      obtain ⟨own, hown, h⟩ := bind_eq_ok_iff.1 h
      obtain ⟨n, hn, h⟩ := bind_eq_ok_iff.1 h
      obtain rfl := Option.some.inj (Except.ok.inj h)
      refine .inr ⟨_, rfl, fun c bit64 v hv => ?_⟩
      rw [Contribution.fieldValue] at hv
      cases hnumber : own.or c.extensionNumber with
      | none =>
        rw [hnumber] at hv
        cases hv
      | some number =>
        rw [hnumber] at hv
        simp [EnumElement.meaning?, htarget, hvalue, hposition, hoffset, hown, hn, hnumber,
          hv, Except.toOption]
    · cases h

theorem EnumAddition.exists_of_ofElement? {e : EnumElement} {o : Option EnumAddition}
    {extended : String} (h : EnumAddition.ofElement? e name owner = .ok o)
    (hext : e.extended = some extended) : ∃ a, o = some a := by
  cases o with
  | some a => exact ⟨a, rfl⟩
  | none =>
    simp only [EnumAddition.ofElement?, hext] at h
    split at h
    · cases Except.ok.inj h
    · cases Except.ok.inj h
    · obtain ⟨n, -, h⟩ := bind_eq_ok_iff.1 h
      cases Except.ok.inj h
    · obtain ⟨own, -, h⟩ := bind_eq_ok_iff.1 h
      obtain ⟨n, -, h⟩ := bind_eq_ok_iff.1 h
      cases Except.ok.inj h
    · cases h

theorem Registry.DeclaredBy.exists_contribution {s : Registry} (h : s.DeclaredBy doc)
    {e : EnumElement} {extended : String}
    (hdecides : doc.Decides owner number e) (hext : e.extended = some extended) :
    ∃ c ∈ s.contributions, ∃ f, c.origin = owner ∧ c.extensionNumber = number ∧
      Feature.ofEnum c.origin e = .ok f ∧ f.addition = some c.addition ∧ f.name = c.name := by
  obtain ⟨before, after, hl, hafter⟩ := hdecides
  obtain ⟨m, hm, -⟩ := h.exists_features_of_lists hl
  obtain ⟨os, hos, -⟩ := bind_eq_ok_iff.1 hm
  have hmem : RequireEntry.enum e ∈ before ++ .enum e :: after := by simp
  obtain ⟨o, -, ho⟩ := exists_eq_ok_of_mapM_eq_ok hos hmem
  obtain ⟨f, hf, -⟩ := map_eq_ok_iff.1 ho
  obtain ⟨a, ha⟩ : ∃ a, f.addition = some a := by
    obtain ⟨-, hadd⟩ := Feature.of_ofEnum hf
    exact EnumAddition.exists_of_ofElement? hadd hext
  refine ⟨⟨owner, number, f.name, a⟩, h.mem_contributions_iff.2 ?_, f, rfl, rfl, hf, ha, rfl⟩
  exact ⟨e, f, ⟨before, after, hl, hafter⟩, hf, ha, rfl⟩

/-! ### What the entry of an element says -/

section entry

variable {s : Registry} {c : Contribution} {e : EnumElement} {f : Feature} {x : Entry}
  {key extended : String} {m : Meaning}

/-- The entry that the contribution of an element comes to says what the element says,
in the enum that the element extends. -/
theorem meaning?_entry_of_ofEnum (hf : Feature.ofEnum c.origin e = .ok f)
    (ha : f.addition = some c.addition) (hx : c.entry s = .ok x)
    (hext : e.extended = some extended) :
    ∃ enum m, s.types.get? (s.extendedName extended) = some (.enum enum) ∧
      e.meaning? c.extensionNumber enum.bit64 = some m ∧
      ∀ key name m', x.meaning? key name = some m' ↔
        key = s.extendedName extended ∧ name = c.name ∧ m' = m := by
  obtain ⟨-, hadd⟩ := Feature.of_ofEnum hf
  rw [ha] at hadd
  rcases EnumAddition.of_ofElement? hadd with ⟨hnone, -⟩ | ⟨extended', hext', hsays⟩
  · rw [hext] at hnone
    cases hnone
  obtain rfl : extended = extended' := Option.some.inj (hext.symm.trans hext')
  unfold Contribution.entry at hx
  rcases hsays with ⟨target, hc, hsays⟩ | ⟨source, hc, hsays⟩
  · simp only [hc] at hx
    obtain ⟨enum, henum, hx⟩ := bind_eq_ok_iff.1 hx
    obtain rfl := Except.ok.inj hx
    exact ⟨enum, _, Contribution.targetEnum_eq_ok_iff.1 henum, hsays _ _,
      fun key name m' => Entry.meaning?_fieldAlias_eq_some_iff⟩
  · simp only [hc] at hx
    obtain ⟨enum, henum, hx⟩ := bind_eq_ok_iff.1 hx
    obtain ⟨v, hv, hx⟩ := bind_eq_ok_iff.1 hx
    obtain rfl := Except.ok.inj hx
    exact ⟨enum, _, Contribution.targetEnum_eq_ok_iff.1 henum, hsays c _ v hv,
      fun key name m' => Entry.meaning?_field_eq_some_iff⟩

/-- An entry that says something of an enum is that of an element that extends one. -/
theorem extended_of_meaning?_entry (hf : Feature.ofEnum c.origin e = .ok f)
    (ha : f.addition = some c.addition) (hx : c.entry s = .ok x)
    (hm : x.meaning? key name = some m) : ∃ extended, e.extended = some extended := by
  obtain ⟨-, hadd⟩ := Feature.of_ofEnum hf
  rw [ha] at hadd
  rcases EnumAddition.of_ofElement? hadd with ⟨-, value, hc⟩ | ⟨extended, hext, -⟩
  · simp only [Contribution.entry, hc] at hx
    obtain rfl := Except.ok.inj hx
    cases hm
  · exact ⟨extended, hext⟩

end entry

/-! ### The enums of the registry -/

namespace Registry

variable {r s : Registry} {xs : List Entry} {enum : EnumType}

theorem enum?_eq_some_iff : r.enum? name = some enum ↔
    ∃ t, r.types.get? name = some t ∧ r.types.get? (t.target?.getD name) = some (.enum enum) := by
  have hsome : ∀ t : RegistryType, t.enum? = some enum ↔ t = .enum enum := by
    intro t
    cases t <;> simp [RegistryType.enum?]
  unfold enum? resolve?
  cases ht : r.types.get? name with
  | none => simp
  | some t =>
    cases htarget : t.target? with
    | none => simp [htarget, ht, hsome]
    | some target =>
      simp [htarget, Option.bind_eq_some_iff, hsome]

theorem enum?_of_extendedName (h : r.types.get? (r.extendedName name) = some (.enum enum)) :
    r.enum? name = some enum := by
  rw [enum?_eq_some_iff]
  unfold extendedName at h
  split at h
  · rename_i a ha
    exact ⟨_, ha, h⟩
  · exact ⟨_, h, h⟩

theorem extendedName_foldl_withEntry : ∀ (xs : List Entry) (s : Registry),
    (xs.foldl withEntry s).extendedName name = s.extendedName name
  | [], _ => rfl
  | x :: xs, s => by
    rw [List.foldl_cons, extendedName_foldl_withEntry xs, extendedName_withEntry]

theorem enum?_foldl_withEntry (h : (xs.foldl withEntry s).enum? name = some enum) :
    ∃ key own, s.types.get? key = some (.enum own) ∧ s.enum? name = some own ∧
      own.withEntries key xs = enum ∧
      (xs.foldl withEntry s).types.get? key = some (.enum enum) := by
  obtain ⟨t, ht, hkey⟩ := enum?_eq_some_iff.1 h
  obtain ⟨own, hown, hentries⟩ := get?_foldl_withEntry_eq_enum_iff.1 hkey
  refine ⟨_, own, hown, enum?_eq_some_iff.2 ?_, hentries, hkey⟩
  rw [get?_foldl_withEntry] at ht
  cases hs : s.types.get? name with
  | none =>
    -- a constant is no alias, and no enum stands under its name
    rw [hs] at ht
    obtain ⟨d, -, rfl⟩ := Option.map_eq_some_iff.1 ht
    have hown : s.types.get? name = some (.enum own) := hown
    rw [hs] at hown
    cases hown
  | some t₀ =>
    rw [hs, Option.map_some, Option.some_or, Option.some.injEq] at ht
    refine ⟨t₀, rfl, ?_⟩
    rw [← ht, RegistryType.target?_mapEnum] at hown
    exact hown

section entries

variable {e : EnumElement} {extended : String} {m : Meaning}

/-- What a deciding element says is so once the contributions are made. -/
theorem DeclaredBy.meaning?_of_decides (h : s.DeclaredBy doc)
    (hxs : s.contributions.mapM (Contribution.entry s) = .ok xs) (htakes : s.Takes xs)
    (hdecides : doc.Decides owner number e) (hext : e.extended = some extended) :
    ∃ name enum m, e.name = some name ∧ (xs.foldl withEntry s).enum? extended = some enum ∧
      e.meaning? number enum.bit64 = some m ∧ enum.meaning? name = some m := by
  obtain ⟨c, hc, f, rfl, rfl, hf, ha, hname⟩ := h.exists_contribution hdecides hext
  obtain ⟨x, hx, hcx⟩ := exists_eq_ok_of_mapM_eq_ok hxs hc
  obtain ⟨own, m, hown, hsays, hiff⟩ := meaning?_entry_of_ofEnum hf ha hcx hext
  have hkey := get?_foldl_withEntry_of_enum hown xs
  refine ⟨c.name, own.withEntries (s.extendedName extended) xs, m, ?_, ?_, ?_, ?_⟩
  · rw [(Feature.of_ofEnum hf).1, hname]
  · refine enum?_of_extendedName ?_
    rw [extendedName_foldl_withEntry]
    exact hkey
  · rw [EnumType.bit64_withEntries]
    exact hsays
  · refine (EnumType.meaning?_withEntries htakes hown).2 (.inr ⟨x, hx, ?_⟩)
    exact (hiff _ _ _).2 ⟨rfl, rfl, rfl⟩

/-- Once the contributions are made, a name means what it meant before or what a
deciding element says. -/
theorem DeclaredBy.decides_of_meaning? (h : s.DeclaredBy doc)
    (hxs : s.contributions.mapM (Contribution.entry s) = .ok xs) (htakes : s.Takes xs)
    (henum : (xs.foldl withEntry s).enum? extended = some enum)
    (hm : enum.meaning? name = some m) :
    (∃ own, s.enum? extended = some own ∧ own.meaning? name = some m) ∨
      ∃ owner number e extended', doc.Decides owner number e ∧ e.name = some name ∧
        e.extended = some extended' ∧ (xs.foldl withEntry s).enum? extended' = some enum ∧
        e.meaning? number enum.bit64 = some m := by
  obtain ⟨key, own, hown, hsown, rfl, hkey⟩ := enum?_foldl_withEntry henum
  rcases (EnumType.meaning?_withEntries htakes hown).1 hm with hm | ⟨x, hx, hm⟩
  · exact .inl ⟨own, hsown, hm⟩
  · obtain ⟨c, hc, hcx⟩ := (mem_iff_of_mapM_eq_ok hxs).1 hx
    obtain ⟨e, f, hdecides, hf, ha, hname⟩ := h.mem_contributions_iff.1 hc
    obtain ⟨extended', hext⟩ := extended_of_meaning?_entry hf ha hcx hm
    obtain ⟨own', m', hown', hsays, hiff⟩ := meaning?_entry_of_ofEnum hf ha hcx hext
    obtain ⟨rfl, rfl, rfl⟩ := (hiff _ _ _).1 hm
    obtain rfl : own' = own := by simpa [hown] using hown'.symm
    refine .inr ⟨c.origin, c.extensionNumber, e, extended', hdecides, ?_, hext, ?_, ?_⟩
    · rw [(Feature.of_ofEnum hf).1, hname]
    · refine enum?_of_extendedName ?_
      rw [extendedName_foldl_withEntry]
      exact hkey
    · rw [EnumType.bit64_withEntries]
      exact hsays

end entries

/-- **What the names of the enums mean.** In a registry that was loaded, the enum that
a deciding element extends is there, and the element's name means in it what the
attributes of the element say. And whatever a name means in an enum is said by the
enum's own block or by a deciding element. -/
theorem meaning?_of_ofDocument (h : ofDocument doc = .ok r) :
    (∀ owner number e extended, doc.Decides owner number e → e.extended = some extended →
      ∃ name enum m, e.name = some name ∧ r.enum? extended = some enum ∧
        e.meaning? number enum.bit64 = some m ∧ enum.meaning? name = some m) ∧
    ∀ extended enum name m, r.enum? extended = some enum → enum.meaning? name = some m →
      (∃ s own, ofSections doc = .ok s ∧ s.enum? extended = some own ∧
        own.meaning? name = some m) ∨
      ∃ owner number e extended', doc.Decides owner number e ∧ e.name = some name ∧
        e.extended = some extended' ∧ r.enum? extended' = some enum ∧
        e.meaning? number enum.bit64 = some m := by
  obtain ⟨s, hs, hwith, -⟩ := ofDocument_eq_ok_iff.1 h
  have hdeclared : s.DeclaredBy doc := declaredBy_of_ofSections hs
  obtain ⟨xs, hxs, htakes, rfl⟩ := foldlM_apply_eq_ok_iff.1 hwith
  constructor
  · intro owner number e extended hdecides hext
    exact hdeclared.meaning?_of_decides hxs htakes hdecides hext
  · intro extended enum name m henum hm
    refine (hdeclared.decides_of_meaning? hxs htakes henum hm).imp_left ?_
    rintro ⟨own, hown, hm⟩
    exact ⟨s, own, hs, hown, hm⟩

theorem blue_is_heard : ofDocument enumDocument = .ok enumRegistry ∧
    enumRegistry.enum? "Color" = some colorEnum ∧
    colorEnum.meaning? "BLUE" = some (.value 1000001000) := by
  have hdecides : enumDocument.Decides "VK_KHR_blue" (some 2)
      { name := some "BLUE", extended := some "Color", offset := some "0" } := by
    have hlists : enumDocument.Lists "VK_KHR_blue" (some 2) blueRequirement.counted :=
      .extension List.mem_cons_self rfl rfl rfl List.mem_cons_self
    exact ⟨[], _, hlists, by decide⟩
  obtain ⟨name, enum, m, hname, henum, hm, hmeans⟩ :=
    (meaning?_of_ofDocument ofDocument_enumDocument).1 _ _ _ _ hdecides rfl
  obtain rfl : "BLUE" = name := Option.some.inj hname
  have hcolor : enumRegistry.enum? "Color" = some colorEnum := by decide +kernel
  obtain rfl : colorEnum = enum := Option.some.inj (hcolor.symm.trans henum)
  refine ⟨ofDocument_enumDocument, hcolor, ?_⟩
  rw [hmeans, ← hm]
  decide +kernel

/-- A requirement that gives a name of an enum one value, and then another one. -/
def overrulingRequirement : RequireElement where
  entries := [
    .enum { name := some "X", extended := some "E", value := some "1" },
    .enum { name := some "X", extended := some "E", value := some "2" }]

def overrulingDocument : Document where
  types := [{ name := some "E", category := some "enum" }]
  enumBlocks := [{ name := some "E", kind := some "enum" }]
  extensions := [
    { name := some "VK_KHR_x", number := some "1", supported := some "vulkan",
      requirements := [overrulingRequirement] }]

/-- **An element that does not decide is lost.** The document is accepted, and the name
does not mean what the first of the two elements says. -/
theorem overruled_element_is_lost :
    ∃ entries e r enum, overrulingDocument.Lists "VK_KHR_x" (some 1) entries ∧
      RequireEntry.enum e ∈ entries ∧ e.name = some "X" ∧ e.extended = some "E" ∧
      ofDocument overrulingDocument = .ok r ∧ r.enum? "E" = some enum ∧
      e.meaning? (some 1) enum.bit64 = some (.value 1) ∧
      enum.meaning? "X" = some (.value 2) := by
  have hload : ∃ r, ofDocument overrulingDocument = .ok r ∧
      r.enum? "E" = some ⟨"E", [⟨"X", 2, "2", true⟩], ∅, false, false⟩ :=
    exists_eq_ok_of_check (by decide +kernel)
  obtain ⟨r, hr, henum⟩ := hload
  have hlists : overrulingDocument.Lists "VK_KHR_x" (some 1) overrulingRequirement.counted :=
    .extension List.mem_cons_self rfl rfl rfl List.mem_cons_self
  refine ⟨_, _, r, _, hlists, List.mem_cons_self, rfl, rfl, hr, henum, ?_, ?_⟩
  · decide +kernel
  · decide +kernel

end Registry

end VulkanFoundry
