import Mathlib.Data.List.Basic

section

variable {α β ε : Type}

lemma Except.ok_bind (a : α) (f : α → Except ε β) : (Except.ok a >>= f) = f a := rfl

lemma Except.bind_eq_ok_iff {x : Except ε α} {f : α → Except ε β} {b : β} :
    x.bind f = .ok b ↔ ∃ a, x = .ok a ∧ f a = .ok b := by
  cases x <;> simp [Except.bind]

lemma Except.map_eq_ok_iff {x : Except ε α} {f : α → β} {b : β} :
    x.map f = .ok b ↔ ∃ a, x = .ok a ∧ f a = b := by
  cases x <;> simp [Except.map]

lemma List.foldlM_cons_eq_ok_iff {f : β → α → Except ε β} {a : α} {as : List α} {b b' : β} :
    (a :: as).foldlM f b = .ok b' ↔ ∃ next, f b a = .ok next ∧ as.foldlM f next = .ok b' := by
  rw [List.foldlM_cons]
  exact Except.bind_eq_ok_iff

lemma List.mapM_eq_ok_iff {f : α → Except ε β} {as : List α} {bs : List β} :
    as.mapM f = .ok bs ↔ as.map f = bs.map .ok := by
  induction as generalizing bs with
  | nil =>
    rw [List.mapM_nil, List.map_nil, eq_comm (a := []), List.map_eq_nil_iff, eq_comm (a := bs)]
    exact ⟨Except.ok.inj, congrArg Except.ok⟩
  | cons a as ih =>
    rw [List.mapM_cons]
    apply Except.bind_eq_ok_iff.trans
    constructor
    · rintro ⟨b, hb, h⟩
      obtain ⟨bs', hbs', hbs⟩ := Except.bind_eq_ok_iff.mp h
      rw [← Except.ok.inj hbs, List.map_cons, List.map_cons, hb, ih.mp hbs']
    · intro h
      cases bs with
      | nil => cases h
      | cons b bs =>
        obtain ⟨hb, hbs⟩ := List.cons.inj h
        refine ⟨b, hb, ?_⟩
        rw [ih.mpr hbs]
        rfl

lemma List.exists_map_eq_map_ok {f : α → Except ε β} {as : List α}
    (h : ∀ a ∈ as, ∃ b, f a = .ok b) : ∃ bs : List β, as.map f = bs.map .ok := by
  induction as with
  | nil => exact ⟨[], rfl⟩
  | cons a as ih =>
    obtain ⟨⟨b, hb⟩, has⟩ := List.forall_mem_cons.mp h
    obtain ⟨bs, hbs⟩ := ih has
    exact ⟨b :: bs, by rw [List.map_cons, List.map_cons, hb, hbs]⟩

lemma List.mapM_eq_error {f : α → Except ε β} {as bs : List α} {a : α} {e : ε}
    (has : ∀ b ∈ as, ∃ c, f b = .ok c) (ha : f a = .error e) :
    (as ++ a :: bs).mapM f = .error e := by
  induction as with
  | nil =>
    rw [List.nil_append, List.mapM_cons, ha]
    rfl
  | cons b as ih =>
    obtain ⟨⟨c, hc⟩, has⟩ := List.forall_mem_cons.mp has
    rw [List.cons_append, List.mapM_cons, hc, ih has]
    rfl

end
