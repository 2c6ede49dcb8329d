/-
# Names that are made from names

Names in the generated code are made from names in the registry: the first letter may
change its case, and fixed words are put around the name. Small and capital letters of
ASCII change into each other, so a name that starts with such a letter is found again, no
matter which characters follow (`Text.lowerFirst_upperFirst`, `Text.upperFirst_lowerFirst`).

Several names can be made from one. They are told apart if no two ways of making a name ever
give the same, and no way gives the same for two names; then all names that are made from
different names are different (`Code.ToldApart.nodup_flatMap`).

Setters and getters are told apart from each other, and so are fields from one another, but
a field can have the name of an accessor. That takes a member named for the accessor of
another one, whose name ends in an underscore (`Code.accessor_eq_fieldName_iff`).

Key theorems: `Code.toldApart_accessors`, `Code.memberOfAccessor?_setterName`.
-/
import Mathlib.Data.List.Nodup
import Mathlib.Data.List.Pairwise
import VulkanFoundry.Code.Naming
import VulkanFoundry.Proofs.Text.Writing

namespace VulkanFoundry

/-! ### Letters of ASCII -/

namespace Text

variable {c : Char} {s t : String}

def StartsLower (s : String) : Prop := s.toList.head?.any Char.isLower = true

instance (s : String) : Decidable (StartsLower s) :=
  inferInstanceAs (Decidable (s.toList.head?.any Char.isLower = true))

def StartsUpper (s : String) : Prop := s.toList.head?.any Char.isUpper = true

instance (s : String) : Decidable (StartsUpper s) :=
  inferInstanceAs (Decidable (s.toList.head?.any Char.isUpper = true))

theorem startsLower_cons {cs : List Char} :
    StartsLower (String.ofList (c :: cs)) ↔ c.isLower = true := by
  simp [StartsLower]

theorem startsUpper_cons {cs : List Char} :
    StartsUpper (String.ofList (c :: cs)) ↔ c.isUpper = true := by
  simp [StartsUpper]

theorem exists_cons_of_head?_any {p : Char → Bool} (h : s.toList.head?.any p = true) :
    ∃ c cs, s = String.ofList (c :: cs) ∧ p c = true := by
  cases hs : s.toList with
  | nil => simp [hs] at h
  | cons c cs =>
    have hc : p c = true := by simpa [hs] using h
    exact ⟨c, cs, by rw [← hs, String.ofList_toList], hc⟩

theorem exists_of_isLower (h : c.isLower = true) : ∃ n < 26, c = Char.ofNat (97 + n) := by
  have hrange : 97 ≤ c.val ∧ c.val ≤ 122 :=
    (Bool.and_eq_true_iff.1 h).imp of_decide_eq_true of_decide_eq_true
  have hcode : 97 ≤ c.toNat ∧ c.toNat ≤ 122 := by simpa [UInt32.le_iff_toNat_le] using hrange
  refine ⟨c.toNat - 97, by omega, ?_⟩
  rw [Nat.add_sub_cancel' hcode.1, Char.ofNat_toNat]

theorem exists_of_isUpper (h : c.isUpper = true) : ∃ n < 26, c = Char.ofNat (65 + n) := by
  have hrange : 65 ≤ c.val ∧ c.val ≤ 90 := of_decide_eq_true h
  have hcode : 65 ≤ c.toNat ∧ c.toNat ≤ 90 := by simpa [UInt32.le_iff_toNat_le] using hrange
  refine ⟨c.toNat - 65, by omega, ?_⟩
  rw [Nat.add_sub_cancel' hcode.1, Char.ofNat_toNat]

/-- A small letter is made a capital, and found again when that is made small. -/
theorem exists_upperCase_of_isLower (h : c.isLower = true) :
    ∃ d, upperCase c = [d] ∧ lowerCase d = [c] ∧ d.isUpper = true := by
  have hletters : ∀ n < 26, upperCase (Char.ofNat (97 + n)) = [Char.ofNat (65 + n)] ∧
      lowerCase (Char.ofNat (65 + n)) = [Char.ofNat (97 + n)] ∧
      (Char.ofNat (65 + n)).isUpper = true := by decide +kernel
  obtain ⟨n, hn, rfl⟩ := exists_of_isLower h
  exact ⟨_, hletters n hn⟩

/-- A capital stays a capital; it is made small, and found again when that is made a capital. -/
theorem exists_lowerCase_of_isUpper (h : c.isUpper = true) :
    upperCase c = [c] ∧ ∃ d, lowerCase c = [d] ∧ upperCase d = [c] ∧ d.isLower = true := by
  have hletters : ∀ n < 26, upperCase (Char.ofNat (65 + n)) = [Char.ofNat (65 + n)] ∧
      lowerCase (Char.ofNat (65 + n)) = [Char.ofNat (97 + n)] ∧
      upperCase (Char.ofNat (97 + n)) = [Char.ofNat (65 + n)] ∧
      (Char.ofNat (97 + n)).isLower = true := by decide +kernel
  obtain ⟨n, hn, rfl⟩ := exists_of_isUpper h
  obtain ⟨hsame, hcases⟩ := hletters n hn
  exact ⟨hsame, _, hcases⟩

theorem isUpper_eq_false_of_isLower (h : c.isLower = true) : c.isUpper = false := by
  have hletters : ∀ n < 26, (Char.ofNat (97 + n)).isUpper = false := by decide
  obtain ⟨n, hn, rfl⟩ := exists_of_isLower h
  exact hletters n hn

theorem lowerFirst_upperFirst (h : StartsLower s) : lowerFirst (upperFirst s) = s := by
  obtain ⟨c, cs, rfl, hc⟩ := exists_cons_of_head?_any h
  obtain ⟨d, hupper, hlower, -⟩ := exists_upperCase_of_isLower hc
  rw [upperFirst_cons, hupper, List.singleton_append, lowerFirst_cons, hlower,
    List.singleton_append]

theorem upperFirst_lowerFirst (h : StartsUpper s) : upperFirst (lowerFirst s) = s := by
  obtain ⟨c, cs, rfl, hc⟩ := exists_cons_of_head?_any h
  obtain ⟨-, d, hlower, hupper, -⟩ := exists_lowerCase_of_isUpper hc
  rw [lowerFirst_cons, hlower, List.singleton_append, upperFirst_cons, hupper,
    List.singleton_append]

theorem eq_of_upperFirst_eq (hs : StartsLower s) (ht : StartsLower t)
    (h : upperFirst s = upperFirst t) : s = t := by
  calc s = lowerFirst (upperFirst s) := (lowerFirst_upperFirst hs).symm
    _ = lowerFirst (upperFirst t) := by rw [h]
    _ = t := lowerFirst_upperFirst ht

theorem eq_of_lowerFirst_eq (hs : StartsUpper s) (ht : StartsUpper t)
    (h : lowerFirst s = lowerFirst t) : s = t := by
  calc s = upperFirst (lowerFirst s) := (upperFirst_lowerFirst hs).symm
    _ = upperFirst (lowerFirst t) := by rw [h]
    _ = t := upperFirst_lowerFirst ht

theorem upperFirst_eq_self (h : StartsUpper s) : upperFirst s = s := by
  obtain ⟨c, cs, rfl, hc⟩ := exists_cons_of_head?_any h
  obtain ⟨hsame, -⟩ := exists_lowerCase_of_isUpper hc
  rw [upperFirst_cons, hsame, List.singleton_append]

theorem startsLower_lowerFirst (h : StartsUpper s) : StartsLower (lowerFirst s) := by
  obtain ⟨c, cs, rfl, hc⟩ := exists_cons_of_head?_any h
  obtain ⟨-, d, hlower, -, hsmall⟩ := exists_lowerCase_of_isUpper hc
  rw [lowerFirst_cons, hlower, List.singleton_append]
  exact startsLower_cons.2 hsmall

theorem ne_of_startsUpper_of_startsLower (hs : StartsUpper s) (ht : StartsLower t) : s ≠ t := by
  rintro rfl
  obtain ⟨c, cs, rfl, hc⟩ := exists_cons_of_head?_any ht
  have hupper : c.isUpper = true := startsUpper_cons.1 hs
  rw [isUpper_eq_false_of_isLower hc] at hupper
  cases hupper

theorem head?_any_append {p : Char → Bool} (h : s.toList.head?.any p = true) (t : String) :
    (s ++ t).toList.head?.any p = true := by
  obtain ⟨c, cs, rfl, hc⟩ := exists_cons_of_head?_any h
  simp [hc]

theorem StartsLower.append (h : StartsLower s) (t : String) : StartsLower (s ++ t) :=
  head?_any_append h t

theorem StartsUpper.append (h : StartsUpper s) (t : String) : StartsUpper (s ++ t) :=
  head?_any_append h t

theorem upperFirst_append (hs : s ≠ "") (t : String) : upperFirst (s ++ t) = upperFirst s ++ t := by
  cases hcs : s.toList with
  | nil => exact absurd (String.toList_eq_nil_iff.1 hcs) hs
  | cons c cs =>
    obtain rfl : s = String.ofList (c :: cs) := by rw [← hcs, String.ofList_toList]
    refine String.toList_inj.1 ?_
    simp [upperFirst]

/-! ### Line feeds -/

theorem ofNat_ne_lineFeed {n : Nat} (h : 10 < n) : Char.ofNat n ≠ '\n' := by
  intro heq
  have hcode : (Char.ofNat n).toNat = 10 := congrArg Char.toNat heq
  by_cases hvalid : n.isValidChar
  · rw [Char.ofNat, dif_pos hvalid] at hcode
    exact absurd hcode (Nat.ne_of_gt h)
  · rw [Char.ofNat, dif_neg hvalid] at hcode
    cases hcode

theorem lineFeed_not_mem_upperCase (hc : c ≠ '\n') : '\n' ∉ upperCase c := by
  have hexpansions : ∀ e ∈ upperExpansions, '\n' ∉ e.2.map Char.ofNat := by decide +kernel
  have hruns : ∀ run ∈ upperRuns, 10 < run.first + run.shift := by decide +kernel
  unfold upperCase mapCase
  split
  · rename_i codes hlookup
    obtain ⟨before, after, htable, -⟩ := List.lookup_eq_some_iff.1 hlookup
    exact hexpansions (c.toNat, codes) (htable ▸ List.mem_append_right before List.mem_cons_self)
  · split
    · rename_i run hfind
      have hmoved := hruns run (List.mem_of_find?_eq_some hfind)
      have hholds := List.find?_some hfind
      simp only [CaseRun.holds, Bool.and_eq_true, decide_eq_true_eq] at hholds
      obtain ⟨⟨hfirst, -⟩, -⟩ := hholds
      exact fun hmem => ofNat_ne_lineFeed (by omega) (List.mem_singleton.1 hmem).symm
    · exact fun hmem => hc (List.mem_singleton.1 hmem).symm

theorem lineFeed_not_mem_upperFirst (h : '\n' ∉ s.toList) : '\n' ∉ (upperFirst s).toList := by
  unfold upperFirst
  split
  · decide
  · rename_i c cs hs
    rw [hs] at h
    obtain ⟨hc, hcs⟩ := List.ne_and_not_mem_of_not_mem_cons h
    rw [String.toList_ofList]
    exact List.not_mem_append (lineFeed_not_mem_upperCase (Ne.symm hc)) hcs

/-! ### Texts around a name -/

/-- If neither of two texts starts the other one, what follows them does not matter. -/
theorem append_ne_append_of_not_prefix {front front' : String}
    (h : ¬ front.toList <+: front'.toList) (h' : ¬ front'.toList <+: front.toList)
    (s t : String) : front ++ s ≠ front' ++ t := by
  intro heq
  have hfront : front.toList <+: (front ++ s).toList :=
    ⟨s.toList, (String.toList_append ..).symm⟩
  have hfront' : front'.toList <+: (front ++ s).toList :=
    ⟨t.toList, by rw [heq, String.toList_append]⟩
  exact (List.prefix_or_prefix_of_prefix hfront hfront').elim h h'

/-- If neither of two texts ends the other one, what stands before them does not matter. -/
theorem append_ne_append_of_not_suffix {back back' : String}
    (h : ¬ back.toList <:+ back'.toList) (h' : ¬ back'.toList <:+ back.toList)
    (s t : String) : s ++ back ≠ t ++ back' := by
  intro heq
  have hback : back.toList <:+ (s ++ back).toList :=
    ⟨s.toList, (String.toList_append ..).symm⟩
  have hback' : back'.toList <:+ (s ++ back).toList :=
    ⟨t.toList, by rw [heq, String.toList_append]⟩
  exact (List.suffix_or_suffix_of_suffix hback hback').elim h h'

end Text

/-! ### Several names from one -/

namespace Code

open Text

variable {kind : String → Prop} {f g : String → String} {ways : List (String → String)}

/-- Ways to make a name from a name of some kind, of which none ever gives what another one
gives, and each gives different names for different names. -/
structure ToldApart (kind : String → Prop) (ways : List (String → String)) : Prop where
  injective : ∀ f ∈ ways, ∀ a b, kind a → kind b → f a = f b → a = b
  apart : ways.Pairwise fun f g => ∀ a b, kind a → kind b → f a ≠ g b

/-- The two ways, which may be one and the same, give different names for different names. -/
def Separates (kind : String → Prop) (f g : String → String) : Prop :=
  ∀ a b, kind a → kind b → a ≠ b → f a ≠ g b

instance : Std.Symm (Separates kind) :=
  ⟨fun _ _ hfg a b ha hb hab => (hfg b a hb ha hab.symm).symm⟩

theorem ToldApart.separates (h : ToldApart kind ways) (hf : f ∈ ways) (hg : g ∈ ways) :
    Separates kind f g := by
  have hself : ∀ f ∈ ways, Separates kind f f := fun f hf a b ha hb hab heq =>
    hab (h.injective f hf a b ha hb heq)
  have hpairs : ways.Pairwise (Separates kind) := h.apart.imp fun hfg a b ha hb _ => hfg a b ha hb
  exact List.Pairwise.forall_of_forall hself hpairs hf hg

/-- **All names that are made from different names are different.** -/
theorem ToldApart.nodup_flatMap (h : ToldApart kind ways) {names : List String}
    (hkind : ∀ a ∈ names, kind a) (hnames : names.Nodup) :
    (names.flatMap fun a => ways.map fun f => f a).Nodup := by
  refine List.nodup_flatMap.2 ⟨fun a ha => ?_, hnames.imp_of_mem fun ha hb hab => ?_⟩
  · have hone := h.apart.imp fun hfg => hfg a a (hkind a ha) (hkind a ha)
    exact List.pairwise_map.2 hone
  · intro x hx hy
    obtain ⟨f, hf, rfl⟩ := List.mem_map.1 hx
    obtain ⟨g, hg, heq⟩ := List.mem_map.1 hy
    exact h.separates hf hg _ _ (hkind _ ha) (hkind _ hb) hab heq.symm

/-! ### Accessors and fields -/

variable {m n : String}

theorem setterName_ne_getterName : setterName m ≠ getterName n :=
  append_ne_append_of_not_prefix (by decide) (by decide) _ _

theorem toldApart_accessors : ToldApart StartsLower [setterName, getterName] where
  injective f hf a b ha hb h := by
    rcases List.mem_cons.1 hf with rfl | hf
    · exact eq_of_upperFirst_eq ha hb ((String.append_right_inj _).1 h)
    · obtain rfl := List.mem_singleton.1 hf
      exact eq_of_upperFirst_eq ha hb ((String.append_right_inj _).1 h)
  apart := List.pairwise_pair.2 fun a b _ _ => setterName_ne_getterName

theorem startsLower_of_mem_accessors {x : String} (h : x ∈ [setterName, getterName].map (· m)) :
    StartsLower x := by
  have hset : StartsLower "set" := by decide
  have hget : StartsLower "get" := by decide
  rcases List.mem_cons.1 h with rfl | h
  · exact hset.append _
  · obtain rfl := List.mem_singleton.1 h
    exact hget.append _

theorem fieldName_injective : Function.Injective fieldName := fun _ _ h =>
  (String.append_left_inj _).1 h

/-- The member that an accessor is for, read off the name of the accessor. -/
def memberOfAccessor? (accessor : String) : Option String :=
  (dropLeading? "set".toList accessor.toList <|> dropLeading? "get".toList accessor.toList).map
    fun rest => lowerFirst (String.ofList rest)

theorem memberOfAccessor?_setterName (hm : StartsLower m) :
    memberOfAccessor? (setterName m) = some m := by
  have hdrop : dropLeading? "set".toList (setterName m).toList = some (upperFirst m).toList := by
    rw [setterName, String.toList_append, dropLeading?_append]
  rw [memberOfAccessor?, hdrop]
  show some (lowerFirst (String.ofList (upperFirst m).toList)) = some m
  rw [String.ofList_toList, lowerFirst_upperFirst hm]

theorem memberOfAccessor?_getterName (hm : StartsLower m) :
    memberOfAccessor? (getterName m) = some m := by
  have hset : dropLeading? "set".toList (getterName m).toList = none := by
    simp [getterName, dropLeading?]
  have hdrop : dropLeading? "get".toList (getterName m).toList = some (upperFirst m).toList := by
    rw [getterName, String.toList_append, dropLeading?_append]
  rw [memberOfAccessor?, hset, hdrop]
  show some (lowerFirst (String.ofList (upperFirst m).toList)) = some m
  rw [String.ofList_toList, lowerFirst_upperFirst hm]

theorem memberOfAccessor?_of_mem {accessor : String} (hm : StartsLower m)
    (h : accessor ∈ [setterName m, getterName m]) : memberOfAccessor? accessor = some m := by
  rcases List.mem_cons.1 h with rfl | h
  · exact memberOfAccessor?_setterName hm
  · obtain rfl := List.mem_singleton.1 h
    exact memberOfAccessor?_getterName hm

/-- **Where an accessor has the name of a field.** The member of the accessor is then named as
a field is, and the member of the field as the accessor is that belongs to that one. -/
theorem accessor_eq_fieldName_iff (verb : String) (hm : StartsLower m) :
    verb ++ upperFirst m = fieldName n ↔
      ∃ stem, m = fieldName stem ∧ n = verb ++ upperFirst stem := by
  constructor
  · intro h
    obtain ⟨c, cs, rfl, hc⟩ := exists_cons_of_head?_any hm
    obtain ⟨d, hupper, -, hcapital⟩ := exists_upperCase_of_isLower hc
    have hchars : verb.toList ++ d :: cs = n.toList ++ ['_'] := by
      have hlist := congrArg String.toList h
      rwa [upperFirst_cons, hupper, String.toList_append, String.toList_ofList, fieldName,
        String.toList_append] at hlist
    -- the name of a field ends in an underscore, and a capital letter is none
    obtain rfl | ⟨stem, e, rfl⟩ := List.eq_nil_or_concat' cs
    · obtain ⟨-, hlast⟩ := List.append_inj' hchars rfl
      obtain rfl : d = '_' := List.head_eq_of_cons_eq hlast
      exact absurd hcapital (by decide)
    · rw [← List.cons_append, ← List.append_assoc] at hchars
      obtain ⟨hfront, hlast⟩ := List.append_inj' hchars rfl
      obtain rfl : e = '_' := List.head_eq_of_cons_eq hlast
      refine ⟨String.ofList (c :: stem), String.toList_inj.1 ?_, String.toList_inj.1 ?_⟩
      · simp [fieldName]
      · rw [← hfront, upperFirst_cons, hupper, String.toList_append, String.toList_ofList]
        rfl
  · rintro ⟨stem, rfl, rfl⟩
    have hstem : stem ≠ "" := by
      rintro rfl
      exact absurd hm (by decide)
    rw [fieldName, fieldName, upperFirst_append hstem, String.append_assoc]

example : setterName "x_" = fieldName "setX" := by decide

end Code
end VulkanFoundry
