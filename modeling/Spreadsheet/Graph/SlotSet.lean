namespace Spreadsheet

def insertAscending (i : Nat) : List Nat → List Nat
  | [] => [i]
  | j :: js => if i < j then i :: j :: js else if i = j then j :: js else j :: insertAscending i js

theorem mem_insertAscending (i k : Nat) (js : List Nat) :
    k ∈ insertAscending i js ↔ k = i ∨ k ∈ js := by
  induction js with
  | nil => simp [insertAscending]
  | cons j js ih =>
    simp only [insertAscending]
    split
    · simp
    split
    · rename_i h
      subst h
      simp
    · simp only [List.mem_cons, ih]
      exact or_left_comm

theorem pairwise_insertAscending (i : Nat) (js : List Nat) (h : js.Pairwise (· < ·)) :
    (insertAscending i js).Pairwise (· < ·) := by
  induction js with
  | nil => simp [insertAscending]
  | cons j js ih =>
    obtain ⟨hj, hjs⟩ := List.pairwise_cons.mp h
    simp only [insertAscending]
    split
    · rename_i hij
      refine List.pairwise_cons.mpr ⟨fun k hk => ?_, h⟩
      rcases List.mem_cons.mp hk with rfl | hk
      · exact hij
      · exact Nat.lt_trans hij (hj k hk)
    split
    · exact h
    · rename_i hij hne
      refine List.pairwise_cons.mpr ⟨fun k hk => ?_, ih hjs⟩
      rcases (mem_insertAscending i k js).mp hk with rfl | hk
      · omega
      · exact hj k hk

structure SlotSet where
  toList : List Nat
  ascending : toList.Pairwise (· < ·)

namespace SlotSet

def empty : SlotSet := ⟨[], List.Pairwise.nil⟩

instance : Inhabited SlotSet := ⟨empty⟩

instance : Membership Nat SlotSet := ⟨fun s i => i ∈ s.toList⟩

instance (i : Nat) (s : SlotSet) : Decidable (i ∈ s) := inferInstanceAs (Decidable (i ∈ s.toList))

def isEmpty (s : SlotSet) : Bool := s.toList.isEmpty

def size (s : SlotSet) : Nat := s.toList.length

def insert (s : SlotSet) (i : Nat) : SlotSet :=
  ⟨insertAscending i s.toList, pairwise_insertAscending i s.toList s.ascending⟩

def erase (s : SlotSet) (i : Nat) : SlotSet :=
  ⟨s.toList.erase i, s.ascending.sublist List.erase_sublist⟩

theorem ext {s t : SlotSet} (h : s.toList = t.toList) : s = t := by
  cases s
  cases t
  cases h
  rfl

theorem nodup (s : SlotSet) : s.toList.Nodup :=
  s.ascending.imp fun h => Nat.ne_of_lt h

theorem not_mem_empty (i : Nat) : i ∉ empty := List.not_mem_nil

theorem mem_insert (s : SlotSet) (i k : Nat) : k ∈ s.insert i ↔ k = i ∨ k ∈ s :=
  mem_insertAscending i k s.toList

theorem mem_erase (s : SlotSet) (i k : Nat) : k ∈ s.erase i ↔ k ≠ i ∧ k ∈ s :=
  s.nodup.mem_erase_iff

end SlotSet

end Spreadsheet
