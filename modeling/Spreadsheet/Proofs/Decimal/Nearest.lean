import Mathlib
import Spreadsheet.Decimal.Numeral

/-! Rounding to doubles as a function of rational numbers. Which quotient stands for a number makes
no difference to its pattern, and the value of a pattern is rounded to that pattern. -/

namespace Spreadsheet.Decimal

def roundEven (x : ℚ) : ℕ :=
  let q := ⌊x⌋₊
  if 2 * (x - q) < 1 ∨ 2 * (x - q) = 1 ∧ q % 2 = 0 then q else q + 1

def ulp (x : ℚ) : ℤ := max (Int.log 2 x - 52) (-1074)

def nearest (x : ℚ) : ℕ :=
  min infinityBits ((ulp x + 1074).toNat * 2 ^ 52 + roundEven (x / 2 ^ ulp x))

section Quotients

variable {n d : ℕ} (hn : 0 < n) (hd : 0 < d)

include hd in
lemma roundDiv_eq (n : ℕ) : roundDiv n d = roundEven (n / d) := by
  have hd' : (0 : ℚ) < d := by exact_mod_cast hd
  have hsplit : (n : ℚ) = d * (n / d : ℕ) + (n % d : ℕ) := by
    exact_mod_cast (Nat.div_add_mod n d).symm
  have hrest : (n : ℚ) / d - (n / d : ℕ) = (n % d : ℕ) / d := by
    rw [eq_div_iff hd'.ne', sub_mul, div_mul_cancel₀ _ hd'.ne']
    linarith
  have hlt : 2 * ((n % d : ℕ) / d : ℚ) < 1 ↔ 2 * (n % d) < d := by
    rw [← mul_div_assoc, div_lt_one hd']
    exact_mod_cast Iff.rfl
  have heq : 2 * ((n % d : ℕ) / d : ℚ) = 1 ↔ 2 * (n % d) = d := by
    rw [← mul_div_assoc, div_eq_one_iff_eq hd'.ne']
    exact_mod_cast Iff.rfl
  simp only [roundDiv, roundEven, Nat.floor_div_eq_div, hrest, hlt, heq]

lemma zpow_eq_quotient (b : ℚ) (e : ℤ) : b ^ e = b ^ e.toNat / b ^ (-e).toNat := by
  obtain ⟨k, rfl | rfl⟩ := e.eq_nat_or_neg
  · simp
  · simp

include hd in
lemma zpow_le_quotient (e : ℤ) :
    (2 : ℚ) ^ e ≤ n / d ↔ d * 2 ^ e.toNat ≤ n * 2 ^ (-e).toNat := by
  have hd' : (0 : ℚ) < d := by exact_mod_cast hd
  rw [zpow_eq_quotient, div_le_div_iff₀ (by positivity) hd', mul_comm]
  exact_mod_cast Iff.rfl

lemma log_eq {x : ℚ} {e : ℤ} (hlow : 2 ^ e ≤ x) (hhigh : x < 2 ^ (e + 1)) : Int.log 2 x = e := by
  have hx : 0 < x := (zpow_pos (by norm_num) e).trans_le hlow
  have h1 : e ≤ Int.log 2 x := (Int.zpow_le_iff_le_log Nat.one_lt_two hx).mp hlow
  have h2 : Int.log 2 x < e + 1 := (Int.lt_zpow_iff_log_lt Nat.one_lt_two hx).mp hhigh
  omega

include hn hd in
lemma binaryExponent_eq : binaryExponent n d = Int.log 2 (n / d : ℚ) := by
  have hn' : (0 : ℚ) < n := by exact_mod_cast hn
  have hd' : (0 : ℚ) < d := by exact_mod_cast hd
  have hnlow : (2 : ℚ) ^ n.log2 ≤ n := by exact_mod_cast Nat.log2_self_le hn.ne'
  have hnhigh : (n : ℚ) < 2 ^ (n.log2 + 1) := by exact_mod_cast Nat.lt_log2_self
  have hdlow : (2 : ℚ) ^ d.log2 ≤ d := by exact_mod_cast Nat.log2_self_le hd.ne'
  have hdhigh : (d : ℚ) < 2 ^ (d.log2 + 1) := by exact_mod_cast Nat.lt_log2_self
  have hlow : (2 : ℚ) ^ ((n.log2 : ℤ) - d.log2 - 1) ≤ n / d := by
    have he : (n.log2 : ℤ) - d.log2 - 1 = n.log2 - (d.log2 + 1 : ℕ) := by push_cast; ring
    rw [he, zpow_sub₀ (by norm_num), zpow_natCast, zpow_natCast]
    gcongr
  have hhigh : (n : ℚ) / d < 2 ^ ((n.log2 : ℤ) - d.log2 + 1) := by
    have he : (n.log2 : ℤ) - d.log2 + 1 = (n.log2 + 1 : ℕ) - d.log2 := by push_cast; ring
    rw [he, zpow_sub₀ (by norm_num), zpow_natCast, zpow_natCast]
    gcongr
  simp only [binaryExponent, Nat.pow_eq, ← zpow_le_quotient hd]
  split
  · rename_i h
    exact (log_eq h hhigh).symm
  · rename_i h
    exact (log_eq hlow (by rw [sub_add_cancel]; exact not_le.mp h)).symm

include hn hd in
lemma nearestBits_eq : nearestBits n d = nearest (n / d) := by
  have hulp : lastPlace n d = ulp (n / d) := by rw [lastPlace, binaryExponent_eq hn hd, ulp]
  have hscaled (q : ℤ) : (n / d : ℚ) / 2 ^ q =
      (n * 2 ^ (-q).toNat : ℕ) / (d * 2 ^ q.toNat : ℕ) := by
    rw [zpow_eq_quotient]
    push_cast
    field_simp
  simp only [nearestBits, Nat.pow_eq, nearest, hulp]
  rw [roundDiv_eq (by positivity), ← hscaled]

end Quotients

section Bounds

variable {x : ℚ}

lemma le_roundEven {n : ℕ} (h : n ≤ x) : n ≤ roundEven x := by
  have hfloor : n ≤ ⌊x⌋₊ := Nat.le_floor h
  simp only [roundEven]
  split
  · exact hfloor
  · exact hfloor.trans (Nat.le_succ _)

lemma roundEven_of_lt_half (h : 2 * x < 1) : roundEven x = 0 := by
  have hfloor : ⌊x⌋₊ = 0 := Nat.floor_eq_zero.mpr (by linarith)
  simp only [roundEven, hfloor, Nat.cast_zero, sub_zero]
  exact if_pos (Or.inl h)

lemma roundEven_natCast (n : ℕ) : roundEven n = n := by
  simp only [roundEven, Nat.floor_natCast, sub_self, mul_zero]
  exact if_pos (Or.inl one_pos)

lemma nearest_of_overflow (h : 2 ^ (1024 : ℤ) ≤ x) : nearest x = infinityBits := by
  have hx : 0 < x := (zpow_pos (by norm_num) _).trans_le h
  have hlog : 1024 ≤ Int.log 2 x := (Int.zpow_le_iff_le_log Nat.one_lt_two hx).mp h
  have hulp : ulp x = Int.log 2 x - 52 := max_eq_left (by omega)
  have hscaled : ((2 ^ 52 : ℕ) : ℚ) ≤ x / 2 ^ ulp x := by
    have hpow : (2 : ℚ) ^ Int.log 2 x ≤ x := Int.zpow_log_le_self Nat.one_lt_two hx
    rw [le_div_iff₀ (zpow_pos (by norm_num) _), hulp, zpow_sub₀ (by norm_num)]
    push_cast
    linarith
  have hround := le_roundEven hscaled
  have hplace : 2046 ≤ (ulp x + 1074).toNat := by omega
  rw [nearest, infinityBits]
  omega

lemma nearest_of_underflow (hx : 0 < x) (h : x < 2 ^ (-1075 : ℤ)) : nearest x = 0 := by
  have hlog : Int.log 2 x < -1075 := (Int.lt_zpow_iff_log_lt Nat.one_lt_two hx).mp h
  have hulp : ulp x = -1074 := max_eq_right (by omega)
  have hscaled : 2 * (x / 2 ^ (-1074 : ℤ)) < 1 := by
    have hhalf : (2 : ℚ) ^ (-1074 : ℤ) = 2 * 2 ^ (-1075 : ℤ) := by
      rw [← zpow_one_add₀ (by norm_num)]
      rfl
    rw [← mul_div_assoc, div_lt_one (zpow_pos (by norm_num) _), hhalf]
    linarith
  rw [nearest, hulp, roundEven_of_lt_half hscaled]
  rfl

lemma nearest_of_dyadic {s : ℕ} {e : ℤ} (hs : 0 < s) (hlt : s < 2 ^ 53) (he : -1074 ≤ e)
    (hnormal : 2 ^ 52 ≤ s ∨ e = -1074) :
    nearest (s * 2 ^ e) = min infinityBits ((e + 1074).toNat * 2 ^ 52 + s) := by
  have hs' : (0 : ℚ) < s := by exact_mod_cast hs
  have hulp : ulp (s * 2 ^ e) = e := by
    have hlog : Int.log 2 (s * 2 ^ e : ℚ) = Nat.log2 s + e := by
      apply log_eq
      · rw [zpow_add₀ (by norm_num), zpow_natCast]
        gcongr
        exact_mod_cast Nat.log2_self_le hs.ne'
      · rw [add_right_comm, zpow_add₀ (by norm_num)]
        gcongr
        exact_mod_cast Nat.lt_log2_self
    have hmax : Nat.log2 s < 53 := (Nat.log2_lt hs.ne').mpr hlt
    rw [ulp, hlog]
    rcases hnormal with hn | rfl
    · have hmin : 52 ≤ Nat.log2 s := (Nat.le_log2 hs.ne').mpr hn
      omega
    · omega
  rw [nearest, hulp, mul_div_cancel_right₀ _ (zpow_pos (by norm_num) e).ne', roundEven_natCast]

end Bounds

end Spreadsheet.Decimal
