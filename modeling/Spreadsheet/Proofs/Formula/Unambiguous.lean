import Mathlib
import Spreadsheet.Formula.Grammar

/-! A token list has one tree. The operators outside all parentheses belong to the level of the
tokens, so the last of them that the next level does not allow is where the list is split. -/

namespace Spreadsheet.Grammar

def Level.Allows : Level → Operator → Prop
  | .sum, _ => True
  | .product, op => op = .mul ∨ op = .div
  | .factor, _ => False

/-- The tokens close `n` more parentheses than they open, and those of their operators that are in
no parentheses then are allowed. -/
def Nested (level : Level) : Nat → List Token → Prop
  | n, [] => n = 0
  | n, .leftParen :: ts => Nested level (n + 1) ts
  | n, .rightParen :: ts => 0 < n ∧ Nested level (n - 1) ts
  | n, .operator op :: ts => (n = 0 → level.Allows op) ∧ Nested level n ts
  | n, .number .. :: ts => Nested level n ts
  | n, .variable _ :: ts => Nested level n ts

variable {level level' : Level} {n m : Nat} {ts us : List Token}

lemma Nested.mono (h : Nested level n ts) (hl : ∀ op, level.Allows op → level'.Allows op) :
    Nested level' n ts := by
  induction ts generalizing n with
  | nil => exact h
  | cons t ts ih =>
    cases t with
    | leftParen => exact ih h
    | rightParen => exact ⟨h.1, ih h.2⟩
    | operator op => exact ⟨fun hn => hl op (h.1 hn), ih h.2⟩
    | number => exact ih h
    | «variable» => exact ih h

lemma Nested.append (h : Nested level n ts) (h' : Nested level 0 us) :
    Nested level n (ts ++ us) := by
  induction ts generalizing n with
  | nil =>
    obtain rfl : n = 0 := h
    exact h'
  | cons t ts ih =>
    cases t with
    | leftParen => exact ih h
    | rightParen => exact ⟨h.1, ih h.2⟩
    | operator op => exact ⟨h.1, ih h.2⟩
    | number => exact ih h
    | «variable» => exact ih h

lemma Nested.close (h : Nested level n ts) (h' : Nested level' 0 us) :
    Nested level' (n + 1) (ts ++ .rightParen :: us) := by
  induction ts generalizing n with
  | nil =>
    obtain rfl : n = 0 := h
    exact ⟨Nat.one_pos, h'⟩
  | cons t ts ih =>
    cases t with
    | leftParen => exact ih h
    | rightParen =>
      refine ⟨Nat.succ_pos n, ?_⟩
      have hn : n + 1 - 1 = n - 1 + 1 := by
        have hpos := h.1
        omega
      rw [hn]
      exact ih h.2
    | operator op => exact ⟨fun hn => (Nat.succ_ne_zero n hn).elim, ih h.2⟩
    | number => exact ih h
    | «variable» => exact ih h

lemma Nested.of_append (h : Nested level n ts) (h' : Nested level' n (ts ++ us)) :
    Nested level' 0 us := by
  induction ts generalizing n with
  | nil =>
    obtain rfl : n = 0 := h
    exact h'
  | cons t ts ih =>
    cases t with
    | leftParen => exact ih h h'
    | rightParen => exact ih h.2 h'.2
    | operator op => exact ih h.2 h'.2
    | number => exact ih h h'
    | «variable» => exact ih h h'

lemma Derives.nested {e : Expr} (h : Derives level ts e) : Nested level 0 ts := by
  induction h with
  | number => rfl
  | «variable» => rfl
  | paren _ ih => exact ih.close rfl
  | factor _ ih => exact ih.mono fun _ h => h.elim
  | product _ ih => exact ih.mono fun _ _ => trivial
  | times _ hop _ ih ih' => exact ih.append ⟨fun _ => hop, ih'.mono fun _ h => h.elim⟩
  | plus _ _ _ ih ih' => exact ih.append ⟨fun _ => trivial, ih'.mono fun _ _ => trivial⟩

lemma Nested.allows {op : Operator} (h : Nested level 0 ts)
    (h' : Nested level' 0 (ts ++ .operator op :: us)) : level'.Allows op := (h.of_append h').1 rfl

lemma split_unique {ts' us' : List Token} {op op' : Operator} (ht : Nested level' 0 ts)
    (ht' : Nested level' 0 ts') (hu : Nested level 0 us) (hu' : Nested level 0 us')
    (hop : ¬ level.Allows op) (hop' : ¬ level.Allows op')
    (h : ts ++ .operator op :: us = ts' ++ .operator op' :: us') :
    ts = ts' ∧ op = op' ∧ us = us' := by
  rcases List.append_eq_append_iff.mp h with ⟨vs, rfl, hvs⟩ | ⟨vs, rfl, hvs⟩
  · cases vs with
    | nil =>
      obtain ⟨hops, rfl⟩ := List.cons.inj hvs
      exact ⟨(List.append_nil ts).symm, Token.operator.inj hops, rfl⟩
    | cons v vs =>
      obtain ⟨rfl, rfl⟩ := List.cons.inj hvs
      exact (hop' ((ht.of_append ht').2.allows hu)).elim
  · cases vs with
    | nil =>
      obtain ⟨hops, rfl⟩ := List.cons.inj hvs
      exact ⟨List.append_nil ts', (Token.operator.inj hops).symm, rfl⟩
    | cons v vs =>
      obtain ⟨rfl, rfl⟩ := List.cons.inj hvs
      exact (hop ((ht'.of_append ht).2.allows hu')).elim

lemma not_allows_factor {op : Operator} : ¬ Level.factor.Allows op := id

lemma not_allows_product {op : Operator} (hop : op = .add ∨ op = .sub) :
    ¬ Level.product.Allows op := by
  rcases hop with rfl | rfl <;> simp [Level.Allows]

theorem Derives.unique {e e' : Expr} (h : Derives level ts e) (h' : Derives level ts e') :
    e = e' := by
  induction h generalizing e' with
  | number =>
    cases h'
    rfl
  | «variable» =>
    cases h'
    rfl
  | @paren ts e h ih =>
    generalize hxs : Token.leftParen :: ts ++ [.rightParen] = xs at h'
    cases h' with
    | number => cases (List.cons.inj hxs).1
    | «variable» => cases (List.cons.inj hxs).1
    | paren h' =>
      obtain rfl := List.append_cancel_right (List.cons.inj hxs).2
      exact ih h'
  | factor h ih =>
    cases h' with
    | factor h' => exact ih h'
    | times ha _ _ => exact (not_allows_factor (ha.nested.allows h.nested)).elim
  | @times ts us op a b ha hop hb iha ihb =>
    -- both trees have the last operator of their level at the top
    generalize hxs : ts ++ Token.operator op :: us = xs at h'
    cases h' with
    | factor h' => exact (not_allows_factor (ha.nested.allows (hxs ▸ h'.nested))).elim
    | times ha' _ hb' =>
      obtain ⟨rfl, rfl, rfl⟩ := split_unique ha.nested ha'.nested hb.nested hb'.nested
        not_allows_factor not_allows_factor hxs
      rw [iha ha', ihb hb']
  | product h ih =>
    cases h' with
    | product h' => exact ih h'
    | plus ha hop _ => exact (not_allows_product hop (ha.nested.allows h.nested)).elim
  | @plus ts us op a b ha hop hb iha ihb =>
    generalize hxs : ts ++ Token.operator op :: us = xs at h'
    cases h' with
    | product h' => exact (not_allows_product hop (ha.nested.allows (hxs ▸ h'.nested))).elim
    | plus ha' hop' hb' =>
      obtain ⟨rfl, rfl, rfl⟩ := split_unique ha.nested ha'.nested hb.nested hb'.nested
        (not_allows_product hop) (not_allows_product hop') hxs
      rw [iha ha', ihb hb']

end Spreadsheet.Grammar
