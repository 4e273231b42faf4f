import Mathlib
import Spreadsheet.Decimal.Binary64

namespace Spreadsheet.Decimal

open Float.Model (Format)
open Float.Model.UnpackedFloat

section Fields

variable (b : BitVec Format.binary64.numBits)

lemma toNat_unpackMantissa : (unpackMantissa b).toNat = b.toNat % 2 ^ 52 := by
  simp [unpackMantissa, BitVec.extractLsb]

lemma toNat_unpackExponent : (unpackExponent b).toNat = b.toNat / 2 ^ 52 % 2 ^ 11 := by
  simp [unpackExponent, BitVec.extractLsb, Nat.shiftRight_eq_div_pow]

end Fields

section Finite

lemma exponent_ne_of_isFinite {b : BitVec Format.binary64.numBits}
    (h : (unpack .binary64 b).isFinite = true) : (unpackExponent b).toNat ≠ 2 ^ 11 - 1 := by
  intro he
  have hexponent : unpackExponent b = -1#11 := BitVec.eq_of_toNat_eq he
  rw [unpack, if_pos hexponent] at h
  split at h <;> cases h

lemma toBits_mod_lt {x : Float} (h : x.isFinite = true) :
    x.toBits.toNat % signBit < infinityBits := by
  obtain ⟨⟨b, hb⟩⟩ := x
  have hlast := exponent_ne_of_isFinite h
  rw [toNat_unpackExponent] at hlast
  have hlt : b.toNat < 2 ^ 64 := b.toNat_lt
  have htoNat : b.toBitVec.toNat = b.toNat := rfl
  rw [htoNat] at hlast
  change b.toNat % 2 ^ 63 < 0x7FF * 2 ^ 52
  omega

end Finite

section Unsigned

variable {x y : Float}

lemma toBits_ofBits {b : UInt64} (h : b.toNat ≤ infinityBits) : (Float.ofBits b).toBits = b := by
  have hnumber : @isNaNBits .binary64 b.toBitVec = false := by
    rw [isNaNBits, decide_eq_false_iff_not]
    rintro ⟨hexponent, hmantissa⟩
    apply hmantissa
    have he := congrArg BitVec.toNat hexponent
    rw [toNat_unpackExponent] at he
    apply BitVec.eq_of_toNat_eq
    rw [toNat_unpackMantissa]
    change b.toNat / 2 ^ 52 % 2 ^ 11 = 2 ^ 11 - 1 at he
    change b.toNat ≤ 0x7FF * 2 ^ 52 at h
    change b.toNat % 2 ^ 52 = 0
    omega
  have hpack : pack .binary64 (unpack .binary64 b.toBitVec) = b.toBitVec := by
    rw [pack_unpack, hnumber]
    rfl
  exact UInt64.toBitVec_inj.mp hpack

lemma ne_nan_of_toBits_le (h : x.toBits.toNat ≤ infinityBits) : x ≠ .nan := by
  rintro rfl
  exact absurd h (by decide +kernel)

lemma eq_of_beq_of_toBits_le (hx : x.toBits.toNat ≤ infinityBits)
    (hy : y.toBits.toNat ≤ infinityBits) (h : (x == y) = true) : x = y := by
  obtain ⟨-, -, heq | ⟨-, rfl⟩ | ⟨rfl, -⟩⟩ := Float.beq_iff_ne_nan_and_eq.mp h
  · exact heq
  · exact absurd hy (by decide +kernel)
  · exact absurd hx (by decide +kernel)

end Unsigned

end Spreadsheet.Decimal
