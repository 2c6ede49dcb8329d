/-
# The text of an enum value is a literal of it

A value is decoded from a literal, from the position of a bit or from an offset in the
block of an extension, and with it goes a text that is written in its place. Whichever
way a value came in, its text is a literal that is decoded as this value with this
text: what was a literal is trimmed and stays one, a bit is written in hexadecimal with
or without a suffix, an offset in decimal with its sign.

The values of offsets are far from the ends of the signed words, so none is wrapped.

All fields of a loaded registry hold decoded values, whether an enum's own block gave
them or a version or extension did.

Key theorems: `EnumValue.literalValue?_hex`, `EnumValue.literalValue?_decimalInt`,
`EnumValue.Decoded.ofLiteral_representation`, `EnumValue.toInt_ofOffset`,
`Registry.decoded_of_load`, `ofLiteral_representation_of_load`.
-/
import VulkanFoundry.Proofs.Registry.Enums
import VulkanFoundry.Proofs.Text.Numerals

namespace VulkanFoundry

/-- The value was decoded in one of the three ways. -/
inductive EnumValue.Decoded : EnumValue → Prop where
  | literal {text : String} {v : EnumValue} (h : EnumValue.ofLiteral text = .ok v) : Decoded v
  | bitPosition {position : UInt32} {bit64 : Bool} {v : EnumValue}
      (h : EnumValue.ofBitPosition position bit64 = .ok v) : Decoded v
  | offset {number offset : UInt32} {negative : Bool} {v : EnumValue}
      (h : EnumValue.ofOffset number offset negative = .ok v) : Decoded v

/-- The value at an offset in an extension's block, as a number of any size. -/
def EnumValue.offsetValue (number offset : UInt32) (negative : Bool) : Int :=
  (if negative then -1 else 1) * (1000000000 + (number.toNat - 1) * 1000 + offset.toNat)

def EnumField.enumValue (f : EnumField) : EnumValue := ⟨f.value, f.representation⟩

namespace EnumValue

variable {v : EnumValue} {suffix : List Char}

/-! ### Literals -/

theorem ofLiteral_eq_ok_iff {literal : String} : ofLiteral literal = .ok v ↔
    literalValue? (Text.trim literal.toList) = some v.value ∧
      v.representation = Text.trimmed literal := by
  obtain ⟨value, representation⟩ := v
  unfold ofLiteral
  cases literalValue? (Text.trim literal.toList) with
  | none => simp
  | some x => simp [eq_comm]

theorem ofLiteral_of_no_blank {literal : String}
    (hblank : ∀ c ∈ literal.toList, Text.isBlank c = false) :
    ofLiteral literal = match literalValue? literal.toList with
      | some value => .ok ⟨value, literal⟩
      | none => .error (.invalidAttribute "value" literal) := by
  have htrim : Text.trim literal.toList = literal.toList := Text.trim_eq_self hblank
  have htrimmed : Text.trimmed literal = literal := by
    rw [Text.trimmed, htrim, String.ofList_toList]
  rw [ofLiteral, htrim]
  cases literalValue? literal.toList with
  | none => rfl
  | some value => exact congrArg (fun written => Except.ok (EnumValue.mk value written)) htrimmed

/-- A magnitude in hexadecimal, filled up with zeros, and a suffix. -/
theorem literalValue?_hex {n : Nat} (hn : n < UInt64.size) (k : Nat)
    (hsuffix : ∀ c ∈ suffix, isSuffixLetter c = true) :
    literalValue? ('0' :: 'x' :: (List.replicate k '0' ++ Text.digits 16 n) ++ suffix) =
      some (Int64.ofNat n) := by
  have hdigits : ∀ c ∈ Text.digits 16 n, isSuffixLetter c = false :=
    Text.forall_mem_digits (by decide) (by decide) (by decide)
  have hbody : ∀ c ∈ '0' :: 'x' :: (List.replicate k '0' ++ Text.digits 16 n),
      isSuffixLetter c = false := by
    refine List.forall_mem_cons.2 ⟨by decide, List.forall_mem_cons.2 ⟨by decide, fun c hc => ?_⟩⟩
    rcases List.mem_append.1 hc with hc | hc
    · rw [List.eq_of_mem_replicate hc]
      decide
    · exact hdigits c hc
  rw [literalValue?, Text.dropEndWhile_append hbody hsuffix]
  show (magnitude? ('0' :: 'x' :: (List.replicate k '0' ++ Text.digits 16 n))).map _ = _
  rw [magnitude?, Text.readUInt64?_digits (by decide) (by decide), if_pos hn, Option.map_some,
    UInt64.toNat_ofNat_of_lt' hn, Int64.ofInt_eq_ofNat]

theorem magnitude?_digits (n : Nat) :
    magnitude? (Text.digits 10 n) = if n < UInt64.size then some (UInt64.ofNat n) else none := by
  have hx : ∀ c ∈ Text.digits 10 n, c ≠ 'x' ∧ c ≠ 'X' :=
    Text.forall_mem_digits (by decide) (by decide) (by decide)
  have hread : Text.readUInt64? 10 (Text.digits 10 n) =
      if n < UInt64.size then some (UInt64.ofNat n) else none :=
    Text.readUInt64?_digits (by decide) (by decide) 0 n
  unfold magnitude?
  split
  · rename_i hex heq
    exact absurd rfl (hx 'x' (by simp [heq])).1
  · rename_i hex heq
    exact absurd rfl (hx 'X' (by simp [heq])).2
  · exact hread

/-- **An integer in decimal, and a suffix.** Without a sign the magnitude may fill the whole
word, with a sign it has to stay below the highest bit. -/
theorem literalValue?_decimalInt (n : Int) (hsuffix : ∀ c ∈ suffix, isSuffixLetter c = true) :
    literalValue? ((Text.decimalInt n).toList ++ suffix) =
      if -(signedBound : Int) < n ∧ n < UInt64.size then some (Int64.ofInt n) else none := by
  have hsize : signedBound < UInt64.size := by decide
  have hdigits : ∀ c ∈ Text.digits 10 n.natAbs, isSuffixLetter c = false ∧ c ≠ '-' :=
    Text.forall_mem_digits (by decide) (by decide) (by decide)
  have hletters : ∀ c ∈ Text.digits 10 n.natAbs, isSuffixLetter c = false := fun c hc =>
    (hdigits c hc).1
  have hmagnitude := magnitude?_digits n.natAbs
  unfold Text.decimalInt
  split
  · rename_i hneg
    have hbody : ∀ c ∈ '-' :: Text.digits 10 n.natAbs, isSuffixLetter c = false :=
      List.forall_mem_cons.2 ⟨by decide, hletters⟩
    have htext : ("-" ++ Text.decimal n.natAbs).toList = '-' :: Text.digits 10 n.natAbs := by
      simp [Text.decimal]
    have habs : -(n.natAbs : Int) = n := by omega
    rw [htext, literalValue?, Text.dropEndWhile_append hbody hsuffix]
    by_cases hfits : n.natAbs < UInt64.size
    · have hnat : (UInt64.ofNat n.natAbs).toNat = n.natAbs := UInt64.toNat_ofNat_of_lt' hfits
      have hsame : n.natAbs < signedBound ↔ -(signedBound : Int) < n ∧ n < UInt64.size := by omega
      simp only [hmagnitude, if_pos hfits, hnat, habs, hsame]
    · have hlow : ¬ (-(signedBound : Int) < n ∧ n < UInt64.size) := by omega
      simp only [hmagnitude, if_neg hfits, if_neg hlow]
  · rename_i hpos
    have htext : (Text.decimal n.natAbs).toList = Text.digits 10 n.natAbs := by
      simp [Text.decimal]
    have habs : (n.natAbs : Int) = n := by omega
    have hbound : 0 < signedBound := by decide
    have hsame : n.natAbs < UInt64.size ↔ -(signedBound : Int) < n ∧ n < UInt64.size := by omega
    rw [htext, literalValue?, Text.dropEndWhile_append hletters hsuffix]
    split
    · rename_i digits heq
      exact absurd rfl (hdigits '-' (by simp [heq])).2
    · rw [hmagnitude, ← if_congr hsame rfl rfl]
      split
      · rename_i hfits
        rw [Option.map_some, UInt64.toNat_ofNat_of_lt' hfits, habs]
      · rfl

/-! ### Decoded values -/

/-- The text of a literal is the literal without the blanks around it. -/
theorem ofLiteral_representation_of_literal {literal : String} (h : ofLiteral literal = .ok v) :
    ofLiteral v.representation = .ok v := by
  obtain ⟨hvalue, htext⟩ := ofLiteral_eq_ok_iff.1 h
  refine ofLiteral_eq_ok_iff.2 ⟨?_, ?_⟩
  · rw [htext, Text.trimmed, String.toList_ofList, Text.trim_trim, hvalue]
  · rw [htext, Text.trimmed_trimmed]

theorem isBlank_of_isSuffixLetter {c : Char} (h : isSuffixLetter c = true) :
    Text.isBlank c = false := by
  simp only [isSuffixLetter, Bool.or_eq_true, decide_eq_true_eq, or_assoc] at h
  rcases h with rfl | rfl | rfl | rfl <;> decide

theorem ofLiteral_hex {n : Nat} (hn : n < UInt64.size) (width : Nat)
    (hsuffix : ∀ c ∈ suffix, isSuffixLetter c = true) :
    ofLiteral ("0x" ++ Text.paddedHex width n ++ String.ofList suffix) =
      .ok ⟨Int64.ofNat n, "0x" ++ Text.paddedHex width n ++ String.ofList suffix⟩ := by
  have htext : ("0x" ++ Text.paddedHex width n ++ String.ofList suffix).toList =
      '0' :: 'x' :: (List.replicate (width - (Text.digits 16 n).length) '0' ++
        Text.digits 16 n) ++ suffix := by
    simp [Text.paddedHex]
  have hdigits : ∀ c ∈ Text.digits 16 n, Text.isBlank c = false :=
    Text.forall_mem_digits (by decide) (by decide) (by decide)
  have hblank : ∀ c ∈ ("0x" ++ Text.paddedHex width n ++ String.ofList suffix).toList,
      Text.isBlank c = false := by
    intro c hc
    simp only [htext, List.mem_append, List.mem_cons, List.mem_replicate] at hc
    rcases hc with (rfl | rfl | ⟨-, rfl⟩ | hc) | hc
    · decide
    · decide
    · decide
    · exact hdigits c hc
    · exact isBlank_of_isSuffixLetter (hsuffix c hc)
  rw [ofLiteral_of_no_blank hblank, htext, literalValue?_hex hn _ hsuffix]

/-- An integer in decimal is decoded in a range that is wider than that of the signed
words at one end, and refused otherwise. -/
theorem ofLiteral_decimalInt (n : Int) (hsuffix : ∀ c ∈ suffix, isSuffixLetter c = true) :
    ofLiteral (Text.decimalInt n ++ String.ofList suffix) =
      if -(signedBound : Int) < n ∧ n < UInt64.size then
        .ok ⟨Int64.ofInt n, Text.decimalInt n ++ String.ofList suffix⟩
      else .error (.invalidAttribute "value" (Text.decimalInt n ++ String.ofList suffix)) := by
  have hdigits : ∀ c ∈ Text.digits 10 n.natAbs, Text.isBlank c = false :=
    Text.forall_mem_digits (by decide) (by decide) (by decide)
  have hnumber : ∀ c ∈ (Text.decimalInt n).toList, Text.isBlank c = false := by
    intro c hc
    unfold Text.decimalInt Text.decimal at hc
    split at hc
    · simp only [String.toList_append, String.toList_ofList, List.mem_append] at hc
      rcases hc with hc | hc
      · rw [List.mem_singleton.1 hc]
        decide
      · exact hdigits c hc
    · rw [String.toList_ofList] at hc
      exact hdigits c hc
  have hblank : ∀ c ∈ (Text.decimalInt n ++ String.ofList suffix).toList,
      Text.isBlank c = false := by
    intro c hc
    rw [String.toList_append, String.toList_ofList] at hc
    rcases List.mem_append.1 hc with hc | hc
    · exact hnumber c hc
    · exact isBlank_of_isSuffixLetter (hsuffix c hc)
  rw [ofLiteral_of_no_blank hblank, String.toList_append, String.toList_ofList,
    literalValue?_decimalInt n hsuffix]
  by_cases hfits : -(signedBound : Int) < n ∧ n < UInt64.size
  · rw [if_pos hfits, if_pos hfits]
  · rw [if_neg hfits, if_neg hfits]

theorem exists_of_ofBitPosition {position : UInt32} {bit64 : Bool}
    (h : ofBitPosition position bit64 = .ok v) :
    ∃ suffix, (∀ c ∈ suffix, isSuffixLetter c = true) ∧ position.toNat < 64 ∧
      v = ⟨Int64.ofNat (1 <<< position.toNat),
        "0x" ++ Text.paddedHex 8 (1 <<< position.toNat) ++ String.ofList suffix⟩ := by
  unfold ofBitPosition at h
  simp only at h
  by_cases hwidth : (if bit64 = true then 64 else 32) ≤ position.toNat
  · rw [if_pos hwidth] at h
    cases h
  · rw [if_neg hwidth] at h
    obtain rfl := Except.ok.inj h
    cases bit64 with
    | false =>
      refine ⟨[], fun c hc => absurd hc List.not_mem_nil, ?_, by simp⟩
      exact Nat.lt_of_lt_of_le (Nat.lt_of_not_le hwidth) (by decide)
    | true =>
      have hletters : ∀ c ∈ "ULL".toList, isSuffixLetter c = true := by simp [isSuffixLetter]
      exact ⟨"ULL".toList, hletters, Nat.lt_of_not_le hwidth, by simp⟩

/-- What an offset gives: the formula's value as it is, and the decimal text of it. -/
theorem ofOffset_eq_ok_iff {number offset : UInt32} {negative : Bool} :
    ofOffset number offset negative = .ok v ↔ number ≠ 0 ∧
      v = ⟨Int64.ofInt (offsetValue number offset negative),
        Text.decimalInt (offsetValue number offset negative)⟩ := by
  unfold ofOffset offsetValue
  by_cases hnumber : number = 0
  · simp [hnumber]
  · cases negative <;> simp [hnumber, eq_comm]

/-- The formula stays far from the ends of the signed words. -/
theorem offsetValue_bounds {number : UInt32} (hnumber : number ≠ 0) (offset : UInt32)
    (negative : Bool) :
    -(signedBound : Int) < offsetValue number offset negative ∧
      offsetValue number offset negative < signedBound := by
  have hbound : (signedBound : Int) = 9223372036854775808 := by decide
  have hpos : number.toNat ≠ 0 := fun h => hnumber (UInt32.toNat_inj.1 h)
  have hlt := number.toNat_lt
  have hlt' := offset.toNat_lt
  unfold offsetValue
  rw [hbound]
  split <;> omega

/-- **The text of a decoded value is a literal of it.** -/
theorem Decoded.ofLiteral_representation (h : v.Decoded) : ofLiteral v.representation = .ok v := by
  cases h with
  | literal h => exact ofLiteral_representation_of_literal h
  | @bitPosition position bit64 _ h =>
    obtain ⟨suffix, hsuffix, hposition, rfl⟩ := exists_of_ofBitPosition h
    have hbit : 1 <<< position.toNat < UInt64.size := by
      rw [Nat.one_shiftLeft]
      exact Nat.pow_lt_pow_right (by decide) hposition
    exact ofLiteral_hex hbit 8 hsuffix
  | @offset number offset negative _ h =>
    obtain ⟨hnumber, rfl⟩ := ofOffset_eq_ok_iff.1 h
    obtain ⟨hlow, hhigh⟩ := offsetValue_bounds hnumber offset negative
    have hnone : ∀ c ∈ [], isSuffixLetter c = true := fun c hc => absurd hc List.not_mem_nil
    have hread := ofLiteral_decimalInt (offsetValue number offset negative) hnone
    rw [if_pos ⟨hlow, Int.lt_trans hhigh (by decide)⟩, String.ofList_nil,
      String.append_empty] at hread
    exact hread

end EnumValue

/-! ### The fields of a registry -/

variable {doc : Document} {r : Registry} {e e' : EnumType} {f : EnumField} {key text : String}

theorem EnumElement.decoded_of_fieldValue {el : EnumElement} {name : String} {bit64 : Bool}
    {v : EnumValue} (h : el.fieldValue name bit64 = .ok v) : v.Decoded := by
  unfold EnumElement.fieldValue at h
  split at h
  · exact .literal h
  · obtain ⟨position, -, h⟩ := bind_eq_ok_iff.1 h
    exact .bitPosition h
  · cases h

theorem Contribution.decoded_of_fieldValue {c : Contribution} {source : ValueSource} {bit64 : Bool}
    {v : EnumValue} (h : c.fieldValue source bit64 = .ok v) : v.Decoded := by
  unfold Contribution.fieldValue at h
  split at h
  · exact .literal h
  · exact .bitPosition h
  · split at h
    · exact .offset h
    · cases h

theorem Contribution.decoded_of_entry {c : Contribution} (h : c.entry r = .ok (.field key f)) :
    f.enumValue.Decoded := by
  unfold Contribution.entry at h
  split at h
  · cases Except.ok.inj h
  · obtain ⟨e, -, h⟩ := bind_eq_ok_iff.1 h
    obtain ⟨v, hv, h⟩ := bind_eq_ok_iff.1 h
    obtain ⟨-, rfl⟩ := Entry.field.inj (Except.ok.inj h)
    exact decoded_of_fieldValue hv
  · obtain ⟨e, -, h⟩ := bind_eq_ok_iff.1 h
    cases Except.ok.inj h

namespace EnumType

theorem decoded_of_addElement {el : EnumElement} (h : e.addElement el = .ok e')
    (he : ∀ f ∈ e.fields, f.enumValue.Decoded) : ∀ f ∈ e'.fields, f.enumValue.Decoded := by
  obtain ⟨name, -, h⟩ := bind_eq_ok_iff.1 h
  split at h
  · cases h
  · split at h
    · obtain ⟨-, rfl⟩ := addAlias_eq_ok_iff.1 h
      rw [fields_withAlias]
      exact he
    · obtain ⟨v, hv, h⟩ := bind_eq_ok_iff.1 h
      obtain ⟨-, rfl⟩ := addField_eq_ok_iff.1 h
      rw [fields_withField]
      split
      · exact he
      · refine List.forall_mem_append.2 ⟨he, List.forall_mem_singleton.2 ?_⟩
        exact EnumElement.decoded_of_fieldValue hv

theorem decoded_of_ofBlock {name : String} {b : EnumBlock} (h : ofBlock name b = .ok e) :
    ∀ f ∈ e.fields, f.enumValue.Decoded := by
  obtain ⟨bitmask, -, h⟩ := bind_eq_ok_iff.1 h
  obtain ⟨bit64, -, h⟩ := bind_eq_ok_iff.1 h
  exact foldlM_preserves (motive := fun e => ∀ f ∈ e.fields, f.enumValue.Decoded)
    (fun e el e' _ he hstep => decoded_of_addElement hstep he)
    (fun f hf => absurd hf List.not_mem_nil) h

end EnumType

theorem Document.DeclaresType.decoded (h : doc.DeclaresType (.enum e)) :
    ∀ f ∈ e.fields, f.enumValue.Decoded := by
  generalize ht : RegistryType.enum e = t at h
  cases h with
  | element he hvulkan hel => exact absurd ht.symm (Declared.ne_enum_of_ofElement hel)
  | constant hb he hd => cases ht
  | block hb hname he =>
    obtain rfl := RegistryType.enum.inj ht
    exact EnumType.decoded_of_ofBlock he
  | named name =>
    obtain rfl := RegistryType.enum.inj ht
    exact fun f hf => absurd hf List.not_mem_nil

namespace Registry

/-- The fields of a registry that a document gives hold decoded values. -/
theorem decoded_of_ofDocument (h : ofDocument doc = .ok r)
    (he : r.types.get? key = some (.enum e)) (hf : f ∈ e.fields) : f.enumValue.Decoded := by
  obtain ⟨s, hs, hwith, -⟩ := ofDocument_eq_ok_iff.1 h
  obtain ⟨xs, hxs, -, rfl⟩ := foldlM_apply_eq_ok_iff.1 hwith
  obtain ⟨own, hown, rfl⟩ := get?_foldl_withEntry_eq_enum_iff.1 he
  rw [EnumType.fields_withEntries] at hf
  rcases List.mem_append.1 hf with hf | hf
  · obtain ⟨-, hdeclares⟩ := (declaredBy_of_ofSections hs).types _ _ hown
    exact hdeclares.decoded f hf
  · obtain ⟨hf, -⟩ := newFields_subset hf
    obtain ⟨x, hx, hxf⟩ := List.mem_filterMap.1 hf
    obtain ⟨c, -, hc⟩ := (mem_iff_of_mapM_eq_ok hxs).1 hx
    rw [Entry.field?_eq_some_iff.1 hxf] at hc
    exact Contribution.decoded_of_entry hc

end Registry

/-- **Every value is read back from its text.** The text of a field of a loaded registry
is a literal of the field's value, as is the text of anything that is decoded, and the
value at an offset is the formula's, not wrapped around. -/
theorem ofLiteral_representation_of_load :
    (∀ text r, Registry.load text = .ok r → ∀ key e, r.types.get? key = some (.enum e) →
      ∀ f ∈ e.fields, EnumValue.ofLiteral f.representation = .ok ⟨f.value, f.representation⟩) ∧
    (∀ v : EnumValue, v.Decoded → EnumValue.ofLiteral v.representation = .ok v) ∧
    ∀ number offset negative, number ≠ 0 →
      ∃ v, EnumValue.ofOffset number offset negative = .ok v ∧
        v.value.toInt = EnumValue.offsetValue number offset negative := by
  refine ⟨fun text r h key e he f hf => ?_, fun v hv => hv.ofLiteral_representation,
    fun number offset negative hnumber => ?_⟩
  · obtain ⟨doc, hdoc⟩ := Registry.exists_document_of_load h
    exact (Registry.decoded_of_ofDocument hdoc he hf).ofLiteral_representation
  · obtain ⟨hlow, hhigh⟩ := EnumValue.offsetValue_bounds hnumber offset negative
    refine ⟨_, EnumValue.ofOffset_eq_ok_iff.2 ⟨hnumber, rfl⟩, ?_⟩
    exact Int64.toInt_ofInt_of_le (Int.le_of_lt hlow) hhigh

/-- A wide enum with the highest bit, a literal that fills the word, and a negative
offset. -/
def wideDocument : String := r#"<registry>
<enums name="Wide" type="bitmask" bitwidth="64">
<enum name="TOP" bitpos="63"/>
<enum name="ALL" value=" 0XFFFFFFFFFFFFFFFFull "/>
</enums>
<extensions><extension name="VK_KHR_lost" number="2" supported="vulkan">
<require><enum extends="Wide" name="LOST" offset="5" dir="-"/></require>
</extension></extensions>
</registry>"#

def wideEnum : EnumType where
  name := "Wide"
  fields := [
    { name := "TOP", value := -9223372036854775808, representation := "0x8000000000000000ULL",
      added := false },
    { name := "ALL", value := -1, representation := "0XFFFFFFFFFFFFFFFFull", added := false },
    { name := "LOST", value := -1000001005, representation := "-1000001005", added := true }]
  aliases := ∅
  bitmask := true
  bit64 := true

set_option maxRecDepth 20000 in
/-- Values at the ends of the words, each read back from its text. -/
theorem ofLiteral_representation_wideDocument :
    (∃ r, Registry.load wideDocument = .ok r ∧ r.types.get? "Wide" = some (.enum wideEnum)) ∧
      (∀ f ∈ wideEnum.fields,
        EnumValue.ofLiteral f.representation = .ok ⟨f.value, f.representation⟩) ∧
      EnumValue.ofLiteral "0x80000000" = .ok ⟨2147483648, "0x80000000"⟩ ∧
      ∃ v, EnumValue.ofOffset 4294967295 4294967295 true = .ok v ∧
        v.value.toInt = -4300262261295 := by
  obtain ⟨hfields, hdecoded, hoffsets⟩ := ofLiteral_representation_of_load
  have hload : ∃ r, Registry.load wideDocument = .ok r ∧
      r.types.get? "Wide" = some (.enum wideEnum) := by
    rw [Registry.load_eq_loadChars (rfl : wideDocument = _)]
    exact exists_eq_ok_of_check (by decide +kernel)
  refine ⟨hload, ?_, ?_, hoffsets 4294967295 4294967295 true (by decide)⟩
  · obtain ⟨r, hr, he⟩ := hload
    exact hfields wideDocument r hr "Wide" wideEnum he
  · have hbit : EnumValue.ofBitPosition 31 false = .ok ⟨2147483648, "0x80000000"⟩ := by
      decide +kernel
    exact hdecoded _ (.bitPosition hbit)

end VulkanFoundry
