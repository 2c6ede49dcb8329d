/-
# Where decimal literals are exact

A decimal literal ought to mean the number that it writes, or to be refused if a signed
64-bit word has no room for it. Only hexadecimal ones are bit patterns, of which the
highest bit counts as a sign.

That holds of all decimal literals but those at the ends of the range. The magnitude of a
literal without a sign may fill the word, in whatever base it is written, so numbers from
2^63 up to 2^64 come out too small by 2^64. With a sign the magnitude has to fit a signed
word by itself, so the least number of the range is refused
(`EnumValue.decodedExactly_decimalInt_iff`).

Key theorems: `EnumValue.toInt_ofInt_of_fitsSigned`, `EnumValue.toInt_ofInt_wrapped`.
-/
import Mathlib.Algebra.Ring.Int.Defs
import Mathlib.Algebra.Ring.Nat
import VulkanFoundry.Proofs.Registry.FieldValues

namespace VulkanFoundry
namespace EnumValue

variable {n : Int} {suffix : List Char}

/-- A signed 64-bit word has room for the number. -/
def FitsSigned (n : Int) : Prop := Int64.minValue.toInt ≤ n ∧ n ≤ Int64.maxValue.toInt

instance (n : Int) : Decidable (FitsSigned n) :=
  inferInstanceAs (Decidable (Int64.minValue.toInt ≤ n ∧ n ≤ Int64.maxValue.toInt))

/-- The literal is decoded as the number if there is room for it, and refused if not. -/
def DecodedExactly (literal : String) (n : Int) : Prop :=
  if FitsSigned n then ∃ v, ofLiteral literal = .ok v ∧ v.value.toInt = n
  else ∃ fault, ofLiteral literal = .error fault

/-! ### Signed words -/

theorem fitsSigned_iff : FitsSigned n ↔ -2 ^ 63 ≤ n ∧ n < 2 ^ 63 := by
  have hmin : Int64.minValue.toInt = -2 ^ 63 := by decide
  have hmax : Int64.maxValue.toInt = 2 ^ 63 - 1 := by decide
  rw [FitsSigned, hmin, hmax]
  omega

theorem toInt_ofInt_of_fitsSigned (h : FitsSigned n) : (Int64.ofInt n).toInt = n := by
  obtain ⟨hlow, hhigh⟩ := fitsSigned_iff.1 h
  exact Int64.toInt_ofInt_of_le hlow hhigh

/-- A number that needs the highest bit comes out negative. -/
theorem toInt_ofInt_wrapped (hlow : 2 ^ 63 ≤ n) (hhigh : n < 2 ^ 64) :
    (Int64.ofInt n).toInt = n - 2 ^ 64 := by
  have hsize : (Int64.size : Int) = 2 ^ 64 := by decide
  have hmod : n % 2 ^ 64 = n := Int.emod_eq_of_lt (by omega) hhigh
  rw [Int64.toInt_ofInt, Int.bmod_def, hsize, hmod, if_neg (by omega)]

/-! ### Decimal literals -/

/-- The numbers whose decimal literals are decoded at all. -/
theorem decimalInt_decoded_iff :
    (-(signedBound : Int) < n ∧ n < UInt64.size) ↔ -2 ^ 63 < n ∧ n < 2 ^ 64 := by
  have hbound : (signedBound : Int) = 2 ^ 63 := by decide
  have hsize : (UInt64.size : Int) = 2 ^ 64 := by decide
  rw [hbound, hsize]

/-- **Decimal literals are exact but at the ends of the range.** The literal of an integer,
with a suffix or without one, is decoded as that integer, or refused for want of room,
unless the integer is the least one that there is room for, which is refused, or lies
from 2^63 up to 2^64, where the value wraps around. A hexadecimal literal of a magnitude
that fits a word is decoded as a bit pattern. -/
theorem decodedExactly_decimalInt_iff (n : Int) (hsuffix : ∀ c ∈ suffix, isSuffixLetter c = true) :
    (DecodedExactly (Text.decimalInt n ++ String.ofList suffix) n ↔
      n ≠ -2 ^ 63 ∧ ¬ (2 ^ 63 ≤ n ∧ n < 2 ^ 64)) ∧
    (n = -2 ^ 63 → ofLiteral (Text.decimalInt n ++ String.ofList suffix) =
      .error (.invalidAttribute "value" (Text.decimalInt n ++ String.ofList suffix))) ∧
    (2 ^ 63 ≤ n → n < 2 ^ 64 → ∃ v, ofLiteral (Text.decimalInt n ++ String.ofList suffix) = .ok v ∧
      v.value.toInt = n - 2 ^ 64) ∧
    ∀ width (m : Nat), m < 2 ^ 64 → ∃ v,
      ofLiteral ("0x" ++ Text.paddedHex width m ++ String.ofList suffix) = .ok v ∧
        v.value.toInt = if m < 2 ^ 63 then (m : Int) else m - 2 ^ 64 := by
  have hread := ofLiteral_decimalInt n hsuffix
  rw [if_congr decimalInt_decoded_iff rfl rfl] at hread
  refine ⟨?_, fun hmin => ?_, fun hlow hhigh => ?_, fun width m hm => ?_⟩
  · by_cases hdecoded : -2 ^ 63 < n ∧ n < 2 ^ 64
    · rw [if_pos hdecoded] at hread
      by_cases hfits : FitsSigned n
      · rw [DecodedExactly, if_pos hfits, hread]
        have hrange := fitsSigned_iff.1 hfits
        exact iff_of_true ⟨_, rfl, toInt_ofInt_of_fitsSigned hfits⟩ (by omega)
      · rw [DecodedExactly, if_neg hfits, hread]
        have hrange := mt fitsSigned_iff.2 hfits
        exact iff_of_false (fun ⟨_, h⟩ => nomatch h) (by omega)
    · rw [if_neg hdecoded] at hread
      by_cases hfits : FitsSigned n
      · rw [DecodedExactly, if_pos hfits, hread]
        have hrange := fitsSigned_iff.1 hfits
        exact iff_of_false (fun ⟨_, h, _⟩ => nomatch h) (by omega)
      · rw [DecodedExactly, if_neg hfits, hread]
        have hrange := mt fitsSigned_iff.2 hfits
        exact iff_of_true ⟨_, rfl⟩ (by omega)
  · rw [hread, if_neg (by omega)]
  · rw [hread, if_pos ⟨by omega, hhigh⟩]
    exact ⟨_, rfl, toInt_ofInt_wrapped hlow hhigh⟩
  · refine ⟨_, ofLiteral_hex hm width hsuffix, ?_⟩
    rw [← Int64.ofInt_eq_ofNat]
    split
    · rename_i hsmall
      exact toInt_ofInt_of_fitsSigned (fitsSigned_iff.2 (by omega))
    · rename_i hlarge
      exact toInt_ofInt_wrapped (by omega) (by omega)

/-- The greatest number that there is room for is exact, the greatest magnitude is taken
for a bit pattern in both bases, and the least number is refused. -/
theorem decodedExactly_maxValue :
    (∀ c ∈ ['U', 'L', 'L'], isSuffixLetter c = true) ∧
      DecodedExactly "9223372036854775807ULL" 9223372036854775807 ∧
      (∃ v, ofLiteral "18446744073709551615ULL" = .ok v ∧ v.value.toInt = -1) ∧
      (∃ v, ofLiteral "0xffffffffffffffffULL" = .ok v ∧ v.value.toInt = -1) ∧
      ofLiteral "-9223372036854775808ULL" =
        .error (.invalidAttribute "value" "-9223372036854775808ULL") := by
  have hsuffix : ∀ c ∈ ['U', 'L', 'L'], isSuffixLetter c = true := by simp [isSuffixLetter]
  have hmax : Text.decimalInt 9223372036854775807 ++ String.ofList ['U', 'L', 'L'] =
      "9223372036854775807ULL" := by decide +kernel
  have hall : Text.decimalInt 18446744073709551615 ++ String.ofList ['U', 'L', 'L'] =
      "18446744073709551615ULL" := by decide +kernel
  have hhex : "0x" ++ Text.paddedHex 16 18446744073709551615 ++ String.ofList ['U', 'L', 'L'] =
      "0xffffffffffffffffULL" := by decide +kernel
  have hmin : Text.decimalInt (-9223372036854775808) ++ String.ofList ['U', 'L', 'L'] =
      "-9223372036854775808ULL" := by decide +kernel
  obtain ⟨hexact, -⟩ := decodedExactly_decimalInt_iff 9223372036854775807 hsuffix
  obtain ⟨-, -, hwraps, hpattern⟩ := decodedExactly_decimalInt_iff 18446744073709551615 hsuffix
  obtain ⟨-, hrefused, -⟩ := decodedExactly_decimalInt_iff (-9223372036854775808) hsuffix
  rw [hmax] at hexact
  rw [hall] at hwraps
  rw [hmin] at hrefused
  refine ⟨hsuffix, hexact.2 (by decide), hwraps (by decide) (by decide), ?_, hrefused (by decide)⟩
  exact hhex ▸ hpattern 16 18446744073709551615 (by decide)

/-- **Decimal literals at the ends of the range.** One above the greatest number wraps
around, and the greatest magnitude of all is decoded as minus one, while the least number
is refused though there is room for it. -/
theorem decimal_ends_of_range :
    ofLiteral "9223372036854775808" = .ok ⟨-9223372036854775808, "9223372036854775808"⟩ ∧
      ¬ DecodedExactly "9223372036854775808" 9223372036854775808 ∧
      ofLiteral "18446744073709551615" = .ok ⟨-1, "18446744073709551615"⟩ ∧
      ¬ DecodedExactly "-9223372036854775808" (-9223372036854775808) := by
  have hwraps : ofLiteral "9223372036854775808" =
      .ok ⟨-9223372036854775808, "9223372036854775808"⟩ := by decide +kernel
  have hleast : ofLiteral "-9223372036854775808" =
      .error (.invalidAttribute "value" "-9223372036854775808") := by decide +kernel
  refine ⟨hwraps, fun h => ?_, by decide +kernel, fun h => ?_⟩
  · rw [DecodedExactly, if_neg (by decide), hwraps] at h
    obtain ⟨fault, hfault⟩ := h
    cases hfault
  · rw [DecodedExactly, if_pos (by decide), hleast] at h
    obtain ⟨v, hv, -⟩ := h
    cases hv

end EnumValue
end VulkanFoundry
