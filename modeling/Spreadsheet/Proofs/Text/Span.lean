import Mathlib
import Spreadsheet.Text.Blank

namespace Spreadsheet.Text

def Stops (p : Char → Bool) (rest : List Char) : Prop := ∀ c ∈ rest.head?, p c = false

section Span

variable {p : Char → Bool} {cs rest : List Char}

lemma stops_nil : Stops p [] := fun _ h => by cases h

lemma stops_cons {c : Char} : Stops p (c :: rest) ↔ p c = false := by
  simp [Stops]

lemma stops_append (hne : cs ≠ []) (hcs : ∀ c ∈ cs, p c = false) (rest : List Char) :
    Stops p (cs ++ rest) := by
  intro c hc
  rw [List.head?_append_of_ne_nil _ hne] at hc
  exact hcs c (List.mem_of_head? hc)

lemma Stops.takeWhile (h : Stops p rest) : rest.takeWhile p = [] := by
  cases rest with
  | nil => rfl
  | cons c rest => exact List.takeWhile_cons_of_neg (by simp [stops_cons.mp h])

lemma Stops.dropWhile (h : Stops p rest) : rest.dropWhile p = rest := by
  cases rest with
  | nil => rfl
  | cons c rest => exact List.dropWhile_cons_of_neg (by simp [stops_cons.mp h])

lemma takeWhile_append (hcs : ∀ c ∈ cs, p c = true) (h : Stops p rest) :
    (cs ++ rest).takeWhile p = cs := by
  rw [List.takeWhile_append_of_pos hcs, h.takeWhile, List.append_nil]

lemma dropWhile_append (hcs : ∀ c ∈ cs, p c = true) (h : Stops p rest) :
    (cs ++ rest).dropWhile p = rest := by
  rw [List.dropWhile_append_of_pos hcs, h.dropWhile]

lemma length_le_takeWhile (hcs : ∀ c ∈ cs, p c = true) (rest : List Char) :
    cs.length ≤ ((cs ++ rest).takeWhile p).length := by
  rw [List.takeWhile_append_of_pos hcs, List.length_append]
  exact Nat.le_add_right _ _

lemma takeWhile_self (hcs : ∀ c ∈ cs, p c = true) : cs.takeWhile p = cs := by
  have h := takeWhile_append hcs (stops_nil (p := p))
  rwa [List.append_nil] at h

lemma dropWhile_self (hcs : ∀ c ∈ cs, p c = true) : cs.dropWhile p = [] := by
  have h := dropWhile_append hcs (stops_nil (p := p))
  rwa [List.append_nil] at h

lemma stops_dropWhile (p : Char → Bool) (cs : List Char) : Stops p (cs.dropWhile p) := by
  intro c hc
  have h := List.head?_dropWhile_not p cs
  rw [Option.mem_def.mp hc] at h
  simpa using h

lemma dropWhile_eq_cons_iff {c : Char} : cs.dropWhile p = c :: rest ↔
    ∃ taken, taken.all p = true ∧ p c = false ∧ cs = taken ++ c :: rest := by
  constructor
  · intro h
    refine ⟨cs.takeWhile p, List.all_takeWhile, ?_, ?_⟩
    · exact stops_cons.mp (h ▸ stops_dropWhile p cs)
    · rw [← h, List.takeWhile_append_dropWhile]
  · rintro ⟨taken, htaken, hc, rfl⟩
    exact dropWhile_append (List.all_eq_true.mp htaken) (stops_cons.mpr hc)

end Span

lemma ne_of_class {p : Char → Bool} {d : Char} (hc : p c = true) (hd : p d = false) : c ≠ d := by
  rintro rfl
  rw [hc] at hd
  cases hd

lemma trim_of_not_blank {cs : List Char} (h : ∀ c ∈ cs, isBlank c = false) : trim cs = cs := by
  have hstart : Stops isBlank cs := fun c hc => h c (List.mem_of_head? hc)
  have hend : Stops isBlank cs.reverse := fun c hc =>
    h c (List.mem_reverse.mp (List.mem_of_head? hc))
  rw [trim, trimStart, hstart.dropWhile, trimEnd, hend.dropWhile, List.reverse_reverse]

lemma trimmed_of_not_blank {s : String} (h : ∀ c ∈ s.toList, isBlank c = false) :
    trimmed s = s := by
  rw [trimmed, trim_of_not_blank h, String.ofList_toList]

section Trim

variable {cs text : List Char}

lemma exists_blanks_around_trim (cs : List Char) :
    ∃ before after, cs = before ++ (trim cs ++ after) ∧ (∀ c ∈ before, isBlank c = true) ∧
      ∀ c ∈ after, isBlank c = true := by
  refine ⟨cs.takeWhile isBlank, ((trimStart cs).reverse.takeWhile isBlank).reverse, ?_,
    fun c hc => List.mem_takeWhile_imp hc,
    fun c hc => List.mem_takeWhile_imp (List.mem_reverse.mp hc)⟩
  rw [trim, trimEnd, ← List.reverse_append, List.takeWhile_append_dropWhile, List.reverse_reverse,
    trimStart, List.takeWhile_append_dropWhile]

lemma trim_eq_iff (hne : text ≠ []) (htext : ∀ c ∈ text, isBlank c = false) : trim cs = text ↔
    ∃ before after, cs = before ++ (text ++ after) ∧ (∀ c ∈ before, isBlank c = true) ∧
      ∀ c ∈ after, isBlank c = true := by
  constructor
  · rintro rfl
    exact exists_blanks_around_trim cs
  · rintro ⟨before, after, rfl, hbefore, hafter⟩
    have hstart := stops_append hne htext after
    have hend : Stops isBlank text.reverse := fun c hc =>
      htext c (List.mem_reverse.mp (List.mem_of_head? hc))
    rw [trim, trimStart, dropWhile_append hbefore hstart, trimEnd, List.reverse_append,
      dropWhile_append (fun c hc => hafter c (List.mem_reverse.mp hc)) hend, List.reverse_reverse]

end Trim

lemma isBlank_of_between {c : Char} (hlow : 0x21 ≤ c.toNat) (hhigh : c.toNat ≤ 0x7E) :
    isBlank c = false := by
  rw [Bool.eq_false_iff]
  intro h
  simp only [isBlank, Bool.or_eq_true, Bool.and_eq_true, decide_eq_true_eq, beq_iff_eq] at h
  omega

lemma toNat_of_isDigit {c : Char} (h : c.isDigit = true) : 48 ≤ c.toNat ∧ c.toNat ≤ 57 := by
  rw [Char.isDigit, Bool.and_eq_true, decide_eq_true_eq, decide_eq_true_eq] at h
  exact h

lemma toNat_of_isAlpha {c : Char} (h : c.isAlpha = true) : 65 ≤ c.toNat ∧ c.toNat ≤ 122 := by
  simp only [Char.isAlpha, Char.isUpper, Char.isLower, Bool.or_eq_true, Bool.and_eq_true,
    decide_eq_true_eq] at h
  rcases h with ⟨hlow, hhigh⟩ | ⟨hlow, hhigh⟩
  · have h1 : 65 ≤ c.toNat := hlow
    have h2 : c.toNat ≤ 90 := hhigh
    omega
  · have h1 : 97 ≤ c.toNat := hlow
    have h2 : c.toNat ≤ 122 := hhigh
    omega

lemma isBlank_of_isDigit {c : Char} (h : c.isDigit = true) : isBlank c = false := by
  have hc := toNat_of_isDigit h
  exact isBlank_of_between (by omega) (by omega)

lemma isBlank_of_isAlpha {c : Char} (h : c.isAlpha = true) : isBlank c = false := by
  have hc := toNat_of_isAlpha h
  exact isBlank_of_between (by omega) (by omega)

end Spreadsheet.Text
