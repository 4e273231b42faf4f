import Mathlib
import Spreadsheet.Proofs.Decimal.RoundTrip
import Spreadsheet.Proofs.Formula.Lexeme

namespace Spreadsheet

open Lexeme

namespace Decimal

section Literal

variable {whole ds cs rest : List Char} (hw : ∀ c ∈ whole, c.isDigit = true)
  (hds : ∀ c ∈ ds, c.isDigit = true) (hr : Text.Stops Char.isDigit rest)

include hw hr in
lemma splitPoint_whole (hpoint : rest.head? ≠ some '.') :
    splitPoint (whole ++ rest) = (whole, [], rest) := by
  rw [splitPoint, Text.takeWhile_append hw hr, Text.dropWhile_append hw hr]
  split
  · exact (hpoint rfl).elim
  · rfl

include hw hds hr in
lemma splitPoint_fraction : splitPoint (whole ++ ('.' :: ds ++ rest)) = (whole, ds, rest) := by
  have hpoint : Text.Stops Char.isDigit ('.' :: ds ++ rest) := Text.stops_cons.mpr rfl
  rw [splitPoint, Text.takeWhile_append hw hpoint, Text.dropWhile_append hw hpoint,
    List.cons_append]
  simp only [Text.takeWhile_append hds hr, Text.dropWhile_append hds hr]

include hds in
lemma readDigits?_digits (hne : ds ≠ []) : readDigits? ds = some (Nat.ofDigitChars 10 ds 0) := by
  rw [readDigits?, if_pos ⟨hne, List.all_eq_true.mpr hds⟩]

lemma exists_readExponent? (h : IsExponent cs) : ∃ n, readExponent? cs = some n := by
  rcases h with rfl | ⟨sign, ds, rfl, hsign, hne, hds⟩
  · exact ⟨0, rfl⟩
  · have hread := readDigits?_digits hds hne
    change ∃ n, readInt? (sign ++ ds) = some n
    rcases hsign with rfl | rfl | rfl
    · obtain ⟨d, ds, rfl⟩ := List.exists_cons_of_ne_nil hne
      have hd := hds d List.mem_cons_self
      rw [List.nil_append, readInt?, hread]
      · exact ⟨_, rfl⟩
      · exact fun cs hcs => Text.ne_of_class hd rfl (List.cons.inj hcs).1
      · exact fun cs hcs => Text.ne_of_class hd rfl (List.cons.inj hcs).1
    · rw [List.singleton_append, readInt?, hread]
      exact ⟨_, rfl⟩
    · rw [List.singleton_append, readInt?, hread]
      exact ⟨_, rfl⟩

lemma exists_read?_of_splitPoint {fraction : List Char}
    (h : splitPoint cs = (whole, fraction, rest)) (hne : whole ≠ [] ∨ fraction ≠ [])
    (hr : IsExponent rest) : ∃ x, Numeral.read? cs = some x := by
  obtain ⟨n, hn⟩ := exists_readExponent? hr
  have hdigits : ¬ (whole = [] ∧ fraction = []) := by tauto
  simp only [Numeral.read?, h, hdigits, if_false, hn]
  exact ⟨_, rfl⟩

lemma head_of_spelled_number (h : Spelled .number cs) :
    ∃ c rest, cs = c :: rest ∧ (c.isDigit = true ∨ c = '.') := by
  obtain ⟨c, rest, rfl⟩ := List.exists_cons_of_ne_nil h.ne_nil
  refine ⟨c, rest, rfl, ?_⟩
  generalize hcs : c :: rest = cs at h
  cases h with
  | @number whole fraction exponent hw hf he hn =>
    cases whole with
    | cons d whole =>
      rw [(List.cons.inj hcs).1]
      exact Or.inl (hw d List.mem_cons_self)
    | nil =>
      rcases hf with rfl | ⟨ds, rfl, -⟩
      · exact absurd (hn.resolve_left fun h => h rfl) (Nat.not_lt_zero 1)
      · exact Or.inr (List.cons.inj hcs).1

lemma exists_numeral_of_spelled (h : Spelled .number cs) :
    ∃ x : Numeral, readNumber? (String.ofList cs) = some (ofSignAndBits false x.bits) := by
  have hread : ∃ x, Numeral.read? cs = some x := by
    cases h with
    | @number whole fraction exponent hw hf he hn =>
      have hhead : ∀ c ∈ exponent.head?, c.isDigit = false ∧ c ≠ '.' := by
        intro c hc
        rcases he with rfl | ⟨sign, ds, rfl, -⟩
        · cases hc
        · obtain rfl : 'e' = c := Option.some.inj hc
          exact ⟨rfl, by decide⟩
      have hstops : Text.Stops Char.isDigit exponent := fun c hc => (hhead c hc).1
      rcases hf with rfl | ⟨ds, rfl, hds⟩
      · apply exists_read?_of_splitPoint (splitPoint_whole hw hstops ?_) (Or.inl ?_) he
        · exact fun hc => (hhead '.' hc).2 rfl
        · exact hn.resolve_right (Nat.not_lt_zero 1)
      · apply exists_read?_of_splitPoint (splitPoint_fraction hw hds hstops) ?_ he
        apply hn.imp_right
        rintro hlength rfl
        exact absurd hlength (lt_irrefl 1)
  obtain ⟨x, hx⟩ := hread
  obtain ⟨c, rest, rfl, hc⟩ := head_of_spelled_number h
  refine ⟨x, ?_⟩
  rw [readNumber?, String.toList_ofList, read?_numeral hc, readMagnitude?_numeral hc, hx]
  rfl

theorem exists_readNumber?_of_spelled (h : Spelled .number cs) :
    ∃ v, readNumber? (String.ofList cs) = some v := by
  obtain ⟨x, hx⟩ := exists_numeral_of_spelled h
  exact ⟨_, hx⟩

lemma toBits_le_of_spelled (h : Spelled .number cs) {v : Float}
    (hv : readNumber? (String.ofList cs) = some v) : v.toBits.toNat ≤ infinityBits := by
  obtain ⟨x, hx⟩ := exists_numeral_of_spelled h
  obtain rfl := Option.some.inj (hx.symm.trans hv)
  have hlt : x.bits < UInt64.size := x.bits_le.trans_lt (by decide)
  have hbits : (UInt64.ofNat x.bits).toNat ≤ infinityBits := by
    rw [UInt64.toNat_ofNat_of_lt' hlt]
    exact x.bits_le
  rw [ofSignAndBits, if_neg Bool.false_ne_true, toBits_ofBits hbits]
  exact hbits

end Literal

end Decimal

end Spreadsheet
