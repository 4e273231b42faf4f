import Spreadsheet.Decimal.Shortest
import Spreadsheet.Proofs.Decimal.Nearest

/-! The numeral that is printed for a double is read back as that double: whatever numeral is found
has been checked, and the exact value of a double is its own nearest double. -/

namespace Spreadsheet.Decimal

def Numeral.value (x : Numeral) : ℚ := x.digits * 10 ^ x.exponent

def Dyadic.value (x : Dyadic) : ℚ := x.significand * 2 ^ x.exponent

lemma Numeral.value_pos {x : Numeral} (h : x.digits ≠ 0) : 0 < x.value := by
  have hd : (0 : ℚ) < x.digits := by exact_mod_cast Nat.pos_of_ne_zero h
  rw [value]
  positivity

lemma eight_zpow (e : ℤ) : (8 : ℚ) ^ e = 2 ^ (3 * e) := by
  rw [zpow_mul]
  norm_num

lemma Numeral.bits_le (x : Numeral) : x.bits ≤ infinityBits := by
  rw [Numeral.bits]
  split_ifs
  · exact Nat.zero_le _
  · exact le_rfl
  · exact Nat.zero_le _
  · exact Nat.min_le_left _ _

lemma Numeral.bits_of_ne {x : Numeral} (h : x.digits ≠ 0) : x.bits = nearest x.value := by
  have hlow : (2 : ℚ) ^ (x.digits.log2 : ℤ) ≤ x.digits := by
    exact_mod_cast Nat.log2_self_le h
  have hhigh : (x.digits : ℚ) < 2 ^ (x.digits.log2 + 1 : ℤ) := by
    exact_mod_cast Nat.lt_log2_self
  simp only [bits, if_neg h]
  split
  · rename_i hbig
    refine (nearest_of_overflow ?_).symm
    calc (2 : ℚ) ^ (1024 : ℤ) ≤ 2 ^ (x.digits.log2 + 3 * x.exponent : ℤ) :=
          zpow_le_zpow_right₀ (by norm_num) hbig.2
      _ = 2 ^ (x.digits.log2 : ℤ) * 8 ^ x.exponent := by
          rw [zpow_add₀ (by norm_num), eight_zpow]
      _ ≤ x.digits * 10 ^ x.exponent := by
          gcongr
          exact zpow_le_zpow_left₀ hbig.1 (by norm_num) (by norm_num)
  split
  · rename_i hsmall
    refine (nearest_of_underflow (value_pos h) ?_).symm
    have hpow : (10 : ℚ) ^ x.exponent ≤ 8 ^ x.exponent := by
      obtain ⟨k, hk⟩ : ∃ k : ℕ, x.exponent = -k := ⟨(-x.exponent).toNat, by omega⟩
      rw [hk, zpow_neg, zpow_neg, zpow_natCast, zpow_natCast]
      gcongr
      norm_num
    calc x.value ≤ x.digits * 8 ^ x.exponent := by
          rw [value]
          gcongr
      _ < 2 ^ (x.digits.log2 + 1 : ℤ) * 8 ^ x.exponent := by
          gcongr
      _ = 2 ^ (x.digits.log2 + 1 + 3 * x.exponent : ℤ) := by
          rw [eight_zpow, ← zpow_add₀ (by norm_num)]
      _ ≤ 2 ^ (-1075 : ℤ) := zpow_le_zpow_right₀ (by norm_num) (by omega)
  · rw [Nat.pow_eq, Nat.pow_eq, nearestBits_eq (by positivity) (by positivity), value,
      zpow_eq_quotient]
    push_cast
    rw [mul_div_assoc]

lemma Numeral.value_eq_zero (x : Numeral) : x.value = 0 ↔ x.digits = 0 := by
  rw [value, mul_eq_zero, or_iff_left (zpow_ne_zero _ (by norm_num)), Nat.cast_eq_zero]

lemma Numeral.bits_congr {x y : Numeral} (h : x.value = y.value) : x.bits = y.bits := by
  by_cases hx : x.digits = 0
  · have hy : y.digits = 0 := by rwa [← value_eq_zero, ← h, value_eq_zero]
    simp only [bits, if_pos hx, if_pos hy]
  · have hy : y.digits ≠ 0 := by rwa [Ne, ← value_eq_zero, ← h, value_eq_zero]
    rw [bits_of_ne hx, bits_of_ne hy, h]

lemma Dyadic.expand_value (x : Dyadic) : x.expand.value = x.value := by
  rw [expand]
  split
  · rename_i h
    rw [Numeral.value, value, numerator, Nat.pow_eq, zpow_zero, mul_one]
    push_cast
    rw [← zpow_natCast, Int.toNat_of_nonneg h]
  · rename_i h
    obtain ⟨k, hk⟩ : ∃ k : ℕ, x.exponent = -k := ⟨(-x.exponent).toNat, by omega⟩
    have hten : (10 : ℚ) ^ k = 5 ^ k * 2 ^ k := by rw [← mul_pow]; norm_num
    rw [Numeral.value, value, hk, neg_neg, Int.toNat_natCast, Nat.pow_eq, zpow_neg, zpow_neg,
      zpow_natCast, zpow_natCast, hten]
    push_cast
    field_simp

lemma nearest_ofBits {m : ℕ} (hm : 0 < m) (hlt : m < infinityBits) :
    nearest (Dyadic.ofBits m).value = m := by
  have hfield : m / 2 ^ 52 < 0x7FF := Nat.div_lt_of_lt_mul (by rw [mul_comm]; exact hlt)
  have hfraction : m % 2 ^ 52 < 2 ^ 52 := Nat.mod_lt m (by norm_num)
  have hsplit := Nat.div_add_mod m (2 ^ 52)
  rw [Dyadic.ofBits, Dyadic.value, Nat.pow_eq]
  split
  · rename_i h
    dsimp only
    rw [nearest_of_dyadic (by omega) (by omega) le_rfl (Or.inr rfl)]
    omega
  · rename_i h
    dsimp only
    rw [nearest_of_dyadic (by omega) (by omega) (by omega) (Or.inl (by omega))]
    omega

lemma significand_pos {m : ℕ} (hm : 0 < m) : 0 < (Dyadic.ofBits m).significand := by
  rw [Dyadic.ofBits, Nat.pow_eq]
  split
  · dsimp only
    omega
  · dsimp only
    omega

lemma expand_bits {m : ℕ} (hm : 0 < m) (hlt : m < infinityBits) :
    (Dyadic.ofBits m).expand.bits = m := by
  have hvalue := (Dyadic.ofBits m).expand_value
  have hdigits : (Dyadic.ofBits m).expand.digits ≠ 0 := by
    have hs : (0 : ℚ) < (Dyadic.ofBits m).significand := by exact_mod_cast significand_pos hm
    rw [Ne, ← Numeral.value_eq_zero, hvalue, Dyadic.value]
    positivity
  rw [Numeral.bits_of_ne hdigits, hvalue, nearest_ofBits hm hlt]

lemma shortest_bits {m : ℕ} (hlt : m < infinityBits) : (shortest m).bits = m := by
  simp only [shortest]
  by_cases hm : m = 0
  · subst hm
    rfl
  · rw [if_neg hm]
    cases hfound : (List.range 17).findSome? _ with
    | none => exact expand_bits (Nat.pos_of_ne_zero hm) hlt
    | some y =>
      obtain ⟨i, -, hi⟩ := List.exists_of_findSome?_eq_some hfound
      have hy := List.find?_some hi
      exact of_decide_eq_true hy

end Spreadsheet.Decimal
