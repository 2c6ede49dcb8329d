/-
# Numerals are read back

A number that is written in a base is read back in it, also behind zeros that fill it
up. Its text has digits only, so nothing is lost when blanks or the letters of a suffix
are cut off around it.

Trimming only takes blanks away at both ends, and a second time it changes nothing.

Key theorems: `Text.trim_trim`, `Text.exists_eq_append_trim`,
`Text.trim_append_append`, `Text.readDigits?_digits`, `Text.readBelow?_digits`.
-/
import Mathlib.Data.List.DropRight
import VulkanFoundry.Text.Number

namespace VulkanFoundry
namespace Text

variable {base limit n : Nat} {p : Char → Bool} {cs suffix : List Char}

/-! ### Cutting off characters -/

/-- What starts with no blank still does when its end is cut off. -/
theorem dropWhile_dropEndWhile (h : cs.dropWhile p = cs) :
    (dropEndWhile p cs).dropWhile p = dropEndWhile p cs := by
  rw [List.dropWhile_eq_self_iff] at h ⊢
  intro hpos
  have hstart : dropEndWhile p cs <+: cs := List.rdropWhile_prefix p cs
  rw [hstart.getElem hpos]
  exact h (Nat.lt_of_lt_of_le hpos hstart.length_le)

/-- **Trimming twice is trimming once.** -/
theorem trim_trim (cs : List Char) : trim (trim cs) = trim cs := by
  have hstart : trimStart (trimStart cs) = trimStart cs := List.dropWhile_idempotent isBlank cs
  have hend : trimEnd (trimEnd (trimStart cs)) = trimEnd (trimStart cs) :=
    List.rdropWhile_idempotent isBlank (trimStart cs)
  calc trim (trim cs)
      = trimEnd (trimStart (trimEnd (trimStart cs))) := rfl
    _ = trimEnd (trimEnd (trimStart cs)) := congrArg trimEnd (dropWhile_dropEndWhile hstart)
    _ = trim cs := hend

theorem trimmed_trimmed (s : String) : trimmed (trimmed s) = trimmed s := by
  rw [trimmed, trimmed, String.toList_ofList, trim_trim]

theorem dropWhile_eq_self (h : ∀ c ∈ cs, p c = false) : cs.dropWhile p = cs := by
  rw [List.dropWhile_eq_self_iff]
  intro hpos
  rw [h _ (List.getElem_mem hpos)]
  exact Bool.false_ne_true

theorem dropEndWhile_append (hcs : ∀ c ∈ cs, p c = false) (hsuffix : ∀ c ∈ suffix, p c = true) :
    dropEndWhile p (cs ++ suffix) = cs := by
  have hdrop : suffix.reverse.dropWhile p = [] :=
    List.dropWhile_eq_nil_iff.2 fun c hc => hsuffix c (List.mem_reverse.1 hc)
  have hkeep : cs.reverse.dropWhile p = cs.reverse :=
    dropWhile_eq_self fun c hc => hcs c (List.mem_reverse.1 hc)
  rw [dropEndWhile, List.reverse_append, List.dropWhile_append, hdrop]
  simp [hkeep]

/-- What trimming cuts off at the end are blanks. -/
theorem exists_trimStart_eq_append (cs : List Char) :
    ∃ blanks, trimStart cs = trim cs ++ blanks ∧ ∀ c ∈ blanks, isBlank c = true := by
  refine ⟨((trimStart cs).reverse.takeWhile isBlank).reverse, ?_, fun c hc => ?_⟩
  · rw [trim, trimEnd, dropEndWhile, ← List.reverse_append, List.takeWhile_append_dropWhile,
      List.reverse_reverse]
  · exact List.mem_takeWhile_imp (List.mem_reverse.1 hc)

/-- **Trimming only takes blanks away**, at both ends. -/
theorem exists_eq_append_trim (cs : List Char) :
    ∃ front back, cs = front ++ (trim cs ++ back) ∧ (∀ c ∈ front, isBlank c = true) ∧
      ∀ c ∈ back, isBlank c = true := by
  obtain ⟨back, hsplit, hback⟩ := exists_trimStart_eq_append cs
  refine ⟨cs.takeWhile isBlank, back, ?_, fun c => List.mem_takeWhile_imp, hback⟩
  rw [← hsplit]
  exact List.takeWhile_append_dropWhile.symm

theorem isBlank_of_mem_head?_trim {c : Char} (h : c ∈ (trim cs).head?) : isBlank c = false := by
  have hstart : (trim cs).dropWhile isBlank = trim cs :=
    dropWhile_dropEndWhile (List.dropWhile_idempotent isBlank cs)
  have hhead := List.head?_dropWhile_not isBlank (trim cs)
  rw [hstart, Option.mem_def.1 h] at hhead
  exact hhead

theorem trim_append_append {front back : List Char} (hfront : ∀ c ∈ front, isBlank c = true)
    (hcs : ∀ c ∈ cs, isBlank c = false) (hback : ∀ c ∈ back, isBlank c = true) :
    trim (front ++ (cs ++ back)) = cs := by
  have hstart : trimStart (front ++ (cs ++ back)) = (cs ++ back).dropWhile isBlank :=
    List.dropWhile_append_of_pos hfront
  rw [trim, hstart, trimEnd]
  cases cs with
  | nil =>
    rw [List.nil_append, List.dropWhile_eq_nil_iff.2 hback]
    rfl
  | cons c cs =>
    have hc : ¬ isBlank c = true := by simp [hcs c List.mem_cons_self]
    rw [List.cons_append, List.dropWhile_cons_of_neg hc]
    exact dropEndWhile_append hcs hback

theorem trim_eq_self (h : ∀ c ∈ cs, isBlank c = false) : trim cs = cs := by
  have hnone : ∀ c ∈ ([] : List Char), isBlank c = true := fun c hc => absurd hc List.not_mem_nil
  have htrim := trim_append_append hnone h hnone
  rwa [List.nil_append, List.append_nil] at htrim

theorem trim_eq_nil (h : ∀ c ∈ cs, isBlank c = true) : trim cs = [] := by
  have hnone : ∀ c ∈ ([] : List Char), isBlank c = false := fun c hc => absurd hc List.not_mem_nil
  have htrim := trim_append_append h hnone fun c hc => absurd hc List.not_mem_nil
  rwa [List.append_nil, List.append_nil] at htrim

/-! ### Digits -/

theorem digit?_digitChar {d : Nat} (hbase : base ≤ 16) (hd : d < base) :
    digit? base (digitChar d) = some d := by
  have hvalue : ∀ d < 16, digit? 16 (digitChar d) = some d := by decide
  have h16 := hvalue d (Nat.lt_of_lt_of_le hd hbase)
  -- the base only decides whether the digit is small enough
  unfold digit? at h16 ⊢
  simp only [Option.filter_eq_some_iff] at h16 ⊢
  exact ⟨h16.1, by simpa using hd⟩

theorem exists_of_mem_digits (hbase : 2 ≤ base) {c : Char} (hc : c ∈ digits base n) :
    ∃ d < base, c = digitChar d := by
  induction n using Nat.strongRecOn with
  | ind n ih =>
    have hlast : n % base < base := Nat.mod_lt n (by omega)
    rw [digits] at hc
    split at hc
    · exact ⟨n % base, hlast, List.mem_singleton.1 hc⟩
    · rename_i hlarge
      rcases List.mem_append.1 hc with hc | hc
      · exact ih (n / base) (Nat.div_lt_self (by omega) (by omega)) hc
      · exact ⟨n % base, hlast, List.mem_singleton.1 hc⟩

/-- What holds of all sixteen digits holds of every digit of a number. -/
theorem forall_mem_digits {motive : Char → Prop} (hbase : 2 ≤ base) (hbase' : base ≤ 16)
    (h : ∀ d < 16, motive (digitChar d)) : ∀ c ∈ digits base n, motive c := by
  intro c hc
  obtain ⟨d, hd, rfl⟩ := exists_of_mem_digits hbase hc
  exact h d (Nat.lt_of_lt_of_le hd hbase')

theorem digits_ne_nil (base n : Nat) : digits base n ≠ [] := by
  rw [digits]
  split
  · exact List.cons_ne_nil _ _
  · exact List.append_ne_nil_of_right_ne_nil _ (List.cons_ne_nil _ _)

theorem readDigits?_append (base : Nat) : ∀ (cs ds : List Char) (value : Nat),
    readDigits? base value (cs ++ ds) =
      (readDigits? base value cs).bind fun v => readDigits? base v ds
  | [], _, _ => rfl
  | c :: cs, ds, value => by
    rw [List.cons_append, readDigits?, readDigits?]
    cases digit? base c with
    | none => rfl
    | some d => exact readDigits?_append base cs ds (value * base + d)

/-- **The digits of a number are read as the number.** -/
theorem readDigits?_digits (hbase : 2 ≤ base) (hbase' : base ≤ 16) (n : Nat) :
    readDigits? base 0 (digits base n) = some n := by
  induction n using Nat.strongRecOn with
  | ind n ih =>
    have hlast : digit? base (digitChar (n % base)) = some (n % base) :=
      digit?_digitChar hbase' (Nat.mod_lt n (by omega))
    have hstep : ∀ v, readDigits? base v [digitChar (n % base)] = some (v * base + n % base) := by
      intro v
      rw [readDigits?, hlast]
      rfl
    rw [digits]
    split
    · rename_i hsmall
      have hmod : n % base = n := Nat.mod_eq_of_lt (by omega)
      rw [hstep, hmod, Nat.zero_mul, Nat.zero_add]
    · rename_i hlarge
      have hinit := ih (n / base) (Nat.div_lt_self (by omega) (by omega))
      rw [readDigits?_append, hinit, Option.bind_some, hstep, Nat.div_add_mod']

theorem readDigits?_replicate_zero (hbase : 2 ≤ base) (cs : List Char) :
    ∀ k, readDigits? base 0 (List.replicate k '0' ++ cs) = readDigits? base 0 cs
  | 0 => rfl
  | k + 1 => by
    have hzero : digit? base '0' = some 0 := by
      have hlt : 0 < base := by omega
      simp [digit?, hlt]
    rw [List.replicate_succ, List.cons_append, readDigits?, hzero]
    simpa using readDigits?_replicate_zero hbase cs k

/-! ### Numerals -/

/-- Digits that are read as a number are a numeral of it, if it is below the limit. -/
theorem readBelow?_eq (hcs : cs ≠ []) (hplus : '+' ∉ cs) (h : readDigits? base 0 cs = some n) :
    readBelow? base limit cs = if n < limit then some n else none := by
  cases cs with
  | nil => exact absurd rfl hcs
  | cons c cs =>
    have hc : c ≠ '+' := fun heq => hplus (heq ▸ List.mem_cons_self)
    have hread : readBelow? base limit (c :: cs) =
        (readDigits? base 0 (c :: cs)).filter (· < limit) := by
      unfold readBelow?
      split
      · rename_i heq
        exact absurd (List.cons.inj heq).1 hc
      · rfl
    rw [hread, h]
    simp [Option.filter]

/-- **A number is read back from its digits**, also behind zeros, unless it is too large. -/
theorem readBelow?_digits (hbase : 2 ≤ base) (hbase' : base ≤ 16) (k n : Nat) :
    readBelow? base limit (List.replicate k '0' ++ digits base n) =
      if n < limit then some n else none := by
  have hread : readDigits? base 0 (List.replicate k '0' ++ digits base n) = some n := by
    rw [readDigits?_replicate_zero hbase, readDigits?_digits hbase hbase']
  have hplus : '+' ∉ List.replicate k '0' ++ digits base n := by
    intro hmem
    rcases List.mem_append.1 hmem with hmem | hmem
    · exact absurd (List.eq_of_mem_replicate hmem) (by decide)
    · have hdigit : ∀ c ∈ digits base n, c ≠ '+' := forall_mem_digits hbase hbase' (by decide)
      exact hdigit '+' hmem rfl
  have hne : List.replicate k '0' ++ digits base n ≠ [] :=
    List.append_ne_nil_of_right_ne_nil _ (digits_ne_nil base n)
  exact readBelow?_eq hne hplus hread

theorem readUInt64?_digits (hbase : 2 ≤ base) (hbase' : base ≤ 16) (k n : Nat) :
    readUInt64? base (List.replicate k '0' ++ digits base n) =
      if n < UInt64.size then some (UInt64.ofNat n) else none := by
  rw [readUInt64?, readBelow?_digits hbase hbase']
  split <;> rfl

theorem readUInt32?_digits (n : UInt32) : readUInt32? 10 (digits 10 n.toNat) = some n := by
  have hread : readBelow? 10 UInt32.size (digits 10 n.toNat) =
      if n.toNat < UInt32.size then some n.toNat else none :=
    readBelow?_digits (by decide) (by decide) 0 n.toNat
  rw [readUInt32?, hread, if_pos n.toNat_lt, Option.map_some, UInt32.ofNat_toNat]

end Text
end VulkanFoundry
