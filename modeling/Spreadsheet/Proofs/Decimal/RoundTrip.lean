import Mathlib
import Spreadsheet.Proofs.Decimal.Bits
import Spreadsheet.Proofs.Decimal.Shortest
import Spreadsheet.Proofs.Text.Span

namespace Spreadsheet.Decimal

section Text

variable {whole ds : List Char} (hw : ∀ c ∈ whole, c.isDigit = true)
  (hds : ∀ c ∈ ds, c.isDigit = true) (hne : whole ≠ [])

include hw hne in
lemma read_whole : Numeral.read? whole = some ⟨Nat.ofDigitChars 10 whole 0, 0⟩ := by
  simp [Numeral.read?, splitPoint, Text.takeWhile_self hw, Text.dropWhile_self hw, hne,
    readExponent?]

include hw hds hne in
lemma read_point : Numeral.read? (whole ++ '.' :: ds) =
    some ⟨Nat.ofDigitChars 10 (whole ++ ds) 0, -ds.length⟩ := by
  have hpoint : Text.Stops Char.isDigit ('.' :: ds) := Text.stops_cons.mpr rfl
  simp [Numeral.read?, splitPoint, Text.takeWhile_append hw hpoint,
    Text.dropWhile_append hw hpoint, Text.takeWhile_self hds, Text.dropWhile_self hds, hne,
    readExponent?]

lemma isDigit_of_mem_leftpad {places n : ℕ} {c : Char}
    (hc : c ∈ (Nat.toDigits 10 n).leftpad places '0') : c.isDigit = true := by
  rcases List.mem_append.mp hc with hc | hc
  · rw [List.eq_of_mem_replicate hc]
    rfl
  · exact Nat.isDigit_of_mem_toDigits (by decide) (by decide) hc

lemma exists_stripped (cs : List Char) :
    ∃ z, (cs.reverse.dropWhile (· = '0')).reverse ++ List.replicate z '0' = cs := by
  have hzero : ∀ c ∈ cs.reverse.takeWhile (· = '0'), c = '0' := by
    intro c hc
    have hc' := List.mem_takeWhile_imp hc
    exact of_decide_eq_true hc'
  refine ⟨(cs.reverse.takeWhile (· = '0')).length, ?_⟩
  rw [← List.reverse_replicate, ← List.eq_replicate_of_mem hzero, ← List.reverse_append,
    List.takeWhile_append_dropWhile, List.reverse_reverse]

lemma exists_fraction (places : ℕ) {n : ℕ} (hp : 0 < places) (hn : n < 10 ^ places) :
    ∃ ds z, fractionText places n = (if ds = [] then [] else '.' :: ds) ∧
      (∀ c ∈ ds, c.isDigit = true) ∧ ds.length + z = places ∧
      Nat.ofDigitChars 10 ds 0 * 10 ^ z = n := by
  obtain ⟨z, hz⟩ := exists_stripped ((Nat.toDigits 10 n).leftpad places '0')
  have hpadded : Nat.ofDigitChars 10 ((Nat.toDigits 10 n).leftpad places '0') 0 = n := by
    rw [List.leftpad, Nat.ofDigitChars_append, Nat.ofDigitChars_replicate_zero, mul_zero,
      Nat.ofDigitChars_ten_toDigits]
  refine ⟨_, z, ?_, fun c hc => isDigit_of_mem_leftpad (hz ▸ List.mem_append_left _ hc), ?_, ?_⟩
  · simp only [fractionText]
    split
    · rename_i h
      rw [if_pos h]
    · rename_i h
      rw [if_neg h]
  · have hlength := congrArg List.length hz
    rw [List.length_append, List.length_replicate, List.length_leftpad] at hlength
    rw [hlength]
    exact max_eq_left ((Nat.length_toDigits_le_iff (by decide) hp).mpr hn)
  · have hvalue := congrArg (fun cs => Nat.ofDigitChars 10 cs 0) hz
    simp only [Nat.ofDigitChars_append, Nat.ofDigitChars_replicate_zero, hpadded] at hvalue
    rw [mul_comm, hvalue]

lemma isDigit_of_mem_toDigits {n : ℕ} (c : Char) (hc : c ∈ Nat.toDigits 10 n) :
    c.isDigit = true := Nat.isDigit_of_mem_toDigits (by decide) (by decide) hc

lemma read_text (x : Numeral) : ∃ y, Numeral.read? x.text = some y ∧ y.value = x.value := by
  simp only [Numeral.text, Nat.pow_eq]
  split
  · rename_i h
    refine ⟨_, read_whole isDigit_of_mem_toDigits Nat.toDigits_ne_nil, ?_⟩
    rw [Numeral.value, Numeral.value, Nat.ofDigitChars_ten_toDigits, zpow_zero, mul_one]
    push_cast
    rw [← zpow_natCast, Int.toNat_of_nonneg h]
  · rename_i h
    obtain ⟨k, hk⟩ : ∃ k : ℕ, x.exponent = -k := ⟨(-x.exponent).toNat, by omega⟩
    have hplaces : (-x.exponent).toNat = k := by omega
    have hsplit := Nat.div_add_mod x.digits (10 ^ k)
    obtain ⟨ds, z, htext, hds, rfl, hvalue⟩ := exists_fraction k (by omega)
      (Nat.mod_lt x.digits (by positivity))
    rw [← hvalue] at hsplit
    have hdigits : x.digits = Nat.ofDigitChars 10
        (Nat.toDigits 10 (x.digits / 10 ^ (ds.length + z)) ++ ds) 0 * 10 ^ z := by
      rw [Nat.ofDigitChars_append, Nat.ofDigitChars_eq_ofDigitChars_zero,
        Nat.ofDigitChars_ten_toDigits]
      exact hsplit.symm.trans (by ring)
    have hread : Numeral.read? (Nat.toDigits 10 (x.digits / 10 ^ (ds.length + z)) ++
        fractionText (ds.length + z) (x.digits % 10 ^ (ds.length + z))) =
        some ⟨Nat.ofDigitChars 10
          (Nat.toDigits 10 (x.digits / 10 ^ (ds.length + z)) ++ ds) 0, -ds.length⟩ := by
      rw [htext]
      split
      · rename_i hnil
        subst hnil
        rw [List.append_nil]
        exact read_whole isDigit_of_mem_toDigits Nat.toDigits_ne_nil
      · exact read_point isDigit_of_mem_toDigits hds Nat.toDigits_ne_nil
    refine ⟨_, by rw [hplaces]; exact hread, ?_⟩
    have hdigits' := congrArg (Nat.cast : ℕ → ℚ) hdigits
    push_cast at hdigits'
    rw [Numeral.value, Numeral.value, hk, hdigits']
    push_cast
    rw [zpow_neg, zpow_neg, zpow_add₀ (by norm_num), zpow_natCast, zpow_natCast]
    field_simp

lemma exists_digit_text (x : Numeral) : ∃ c cs, x.text = c :: cs ∧ c.isDigit = true := by
  have hdigits (n : ℕ) (rest : List Char) :
      ∃ c cs, Nat.toDigits 10 n ++ rest = c :: cs ∧ c.isDigit = true := by
    obtain ⟨c, cs, hcs⟩ := List.exists_cons_of_ne_nil (Nat.toDigits_ne_nil (n := n) (b := 10))
    have hc : c ∈ Nat.toDigits 10 n := by
      rw [hcs]
      exact List.mem_cons_self
    exact ⟨c, cs ++ rest, by rw [hcs, List.cons_append], isDigit_of_mem_toDigits c hc⟩
  rw [Numeral.text]
  split
  · have h := hdigits (x.digits * 10 ^ x.exponent.toNat) []
    rwa [List.append_nil] at h
  · exact hdigits _ _

lemma isDigit_of_mem_fractionText {places n : ℕ} {c : Char} (hc : c ∈ fractionText places n) :
    c.isDigit = true ∨ c = '.' := by
  simp only [fractionText] at hc
  split at hc
  · exact (List.not_mem_nil hc).elim
  · rcases List.mem_cons.mp hc with rfl | hc
    · exact Or.inr rfl
    · have hpadded := (List.dropWhile_sublist _).subset (List.mem_reverse.mp hc)
      exact Or.inl (isDigit_of_mem_leftpad (List.mem_reverse.mp hpadded))

lemma isDigit_of_mem_text {x : Numeral} {c : Char} (hc : c ∈ x.text) :
    c.isDigit = true ∨ c = '.' := by
  rw [Numeral.text] at hc
  split at hc
  · exact Or.inl (isDigit_of_mem_toDigits c hc)
  · rcases List.mem_append.mp hc with hc | hc
    · exact Or.inl (isDigit_of_mem_toDigits c hc)
    · exact isDigit_of_mem_fractionText hc

end Text

lemma not_isBlank_of_mem_numberText {x : Float} (h : x.isFinite = true) {c : Char}
    (hc : c ∈ (numberText x).toList) : Text.isBlank c = false := by
  have hlt := toBits_mod_lt h
  simp only [numberText, text, String.toList_ofList] at hc
  rw [if_neg (by omega), if_neg (by omega)] at hc
  rcases List.mem_append.mp hc with hc | hc
  · split at hc
    · rw [List.mem_singleton.mp hc]
      rfl
    · exact (List.not_mem_nil hc).elim
  · rcases isDigit_of_mem_text hc with hc | rfl
    · exact Text.isBlank_of_isDigit hc
    · rfl

section Magnitude

variable {c : Char} (hc : c.isDigit = true ∨ c = '.') (cs : List Char)
include hc

lemma readMagnitude?_numeral (negative : Bool) : readMagnitude? negative (c :: cs) =
    (Numeral.read? (c :: cs)).map fun x => ofSignAndBits negative x.bits := by
  have hlower : c.toLower = c := by
    rcases hc with hc | rfl
    · rw [Char.toLower, dif_neg]
      rintro ⟨hA, -⟩
      rw [Char.isDigit, Bool.and_eq_true, decide_eq_true_eq, decide_eq_true_eq] at hc
      exact absurd (UInt32.le_trans hA hc.2) (by decide)
    · rfl
  have hword {d : Char} {ds : List Char} (hd : d.isDigit = false) (hd' : d ≠ '.') :
      String.ofList ((c :: cs).map Char.toLower) ≠ String.ofList (d :: ds) := by
    intro h
    have hcons := String.ofList_injective h
    rw [List.map_cons, hlower] at hcons
    rw [(List.cons.inj hcons).1] at hc
    rcases hc with hc | hc
    · rw [hd] at hc
      cases hc
    · exact hd' hc
  have hinf : String.ofList ((c :: cs).map Char.toLower) ≠ "inf" := hword rfl (by decide)
  have hinfinity : String.ofList ((c :: cs).map Char.toLower) ≠ "infinity" :=
    hword rfl (by decide)
  have hnan : String.ofList ((c :: cs).map Char.toLower) ≠ "nan" := hword rfl (by decide)
  simp only [readMagnitude?, hinf, hinfinity, hnan, or_self, if_false]

lemma read?_numeral : read? (c :: cs) = readMagnitude? false (c :: cs) := by
  have hne {d : Char} (hd : d.isDigit = false) (hd' : d ≠ '.') (cs' : List Char)
      (hcs : c :: cs = d :: cs') : False := by
    rw [(List.cons.inj hcs).1] at hc
    rcases hc with hc | hc
    · rw [hd] at hc
      cases hc
    · exact hd' hc
  rw [read?]
  · exact hne rfl (by decide)
  · exact hne rfl (by decide)

end Magnitude

lemma ofSignAndBits_mod {x : Float} {negative : Bool}
    (hn : negative = true ↔ signBit ≤ x.toBits.toNat) :
    ofSignAndBits negative (x.toBits.toNat % signBit) = x := by
  have hlt : x.toBits.toNat < 2 * signBit := x.toBits.toNat_lt
  have hbits : (if negative then signBit + x.toBits.toNat % signBit
      else x.toBits.toNat % signBit) = x.toBits.toNat := by
    rw [signBit] at *
    cases negative with
    | true =>
      have hle := hn.mp rfl
      rw [if_pos rfl]
      omega
    | false =>
      have hgt := mt hn.mpr Bool.false_ne_true
      rw [if_neg Bool.false_ne_true]
      omega
  rw [ofSignAndBits, hbits, UInt64.ofNat_toNat, Float.ofBits_toBits]

theorem readNumber?_numberText {x : Float} (h : x.isFinite = true) :
    readNumber? (numberText x) = some x := by
  have hlt := toBits_mod_lt h
  obtain ⟨y, hread, hvalue⟩ := read_text (shortest (x.toBits.toNat % signBit))
  obtain ⟨c, cs, hcs, hc⟩ := exists_digit_text (shortest (x.toBits.toNat % signBit))
  have hbits : y.bits = x.toBits.toNat % signBit := by
    rw [Numeral.bits_congr hvalue, shortest_bits hlt]
  have hmagnitude (negative : Bool) : readMagnitude? negative (c :: cs) =
      some (ofSignAndBits negative (x.toBits.toNat % signBit)) := by
    rw [readMagnitude?_numeral (Or.inl hc), ← hcs, hread, Option.map_some, hbits]
  simp only [numberText, text, readNumber?, String.toList_ofList]
  rw [if_neg (by omega), if_neg (by omega), hcs]
  by_cases hsign : signBit ≤ x.toBits.toNat
  · rw [if_pos hsign]
    change readMagnitude? true (c :: cs) = some x
    rw [hmagnitude, ofSignAndBits_mod (by simp [hsign])]
  · rw [if_neg hsign, List.nil_append, read?_numeral (Or.inl hc), hmagnitude,
      ofSignAndBits_mod (by simp [hsign])]

end Spreadsheet.Decimal
