import Mathlib
import Spreadsheet.Formula.Grammar

/-! The check of a token list and the grammar accept the same lists. While the check goes on, what
comes after the innermost open parenthesis is nothing, a sum, or a sum with an operator after it,
and the same holds before each open parenthesis; a closing one makes a factor of the last sum. -/

namespace Spreadsheet

open Grammar

namespace Grammar

lemma Derives.ne_nil {level : Level} {ts : List Token} {e : Expr} (h : Derives level ts e) :
    ts ≠ [] := by
  induction h with
  | number => exact List.cons_ne_nil _ _
  | «variable» => exact List.cons_ne_nil _ _
  | paren => exact List.cons_ne_nil _ _
  | factor _ ih => exact ih
  | product _ ih => exact ih
  | times => exact List.append_ne_nil_of_right_ne_nil _ (List.cons_ne_nil _ _)
  | plus => exact List.append_ne_nil_of_right_ne_nil _ (List.cons_ne_nil _ _)

lemma Derives.append_factor {ts us : List Token} {a b : Expr} (ha : Derives .sum ts a)
    (op : Operator) (hb : Derives .factor us b) :
    ∃ e, Derives .sum (ts ++ .operator op :: us) e := by
  by_cases hop : op = .mul ∨ op = .div
  · cases ha with
    | product ha => exact ⟨_, .product (.times ha hop hb)⟩
    | @plus vs ws op' a b ha hop' hb' =>
      rw [List.append_assoc, List.cons_append]
      exact ⟨_, .plus ha hop' (.times hb' hop hb)⟩
  · have hop' : op = .add ∨ op = .sub := by
      cases op <;> simp at hop ⊢
    exact ⟨_, .plus ha hop' (.factor hb)⟩

inductive Partial : List Token → Prop
  | nil : Partial []
  | operator {ts : List Token} {e : Expr} (h : Derives .sum ts e) (op : Operator) :
    Partial (ts ++ [.operator op])

inductive Enclosing : Nat → List Token → Prop
  | none : Enclosing 0 []
  | paren {n : Nat} {ts us : List Token} (h : Enclosing n ts) (hu : Partial us) :
    Enclosing (n + 1) (ts ++ us ++ [.leftParen])

def BeforeOperand (n : Nat) (ts : List Token) : Prop :=
  ∃ us vs, ts = us ++ vs ∧ Enclosing n us ∧ Partial vs

def AfterOperand (n : Nat) (ts : List Token) : Prop :=
  ∃ us vs e, ts = us ++ vs ∧ Enclosing n us ∧ Derives .sum vs e

section Reading

variable {n : Nat} {ts : List Token}

lemma BeforeOperand.factor (h : BeforeOperand n ts) {us : List Token} {e : Expr}
    (he : Derives .factor us e) : AfterOperand n (ts ++ us) := by
  obtain ⟨before, vs, rfl, hbefore, hvs⟩ := h
  cases hvs with
  | nil =>
    rw [List.append_nil]
    exact ⟨before, us, e, rfl, hbefore, .product (.factor he)⟩
  | @operator ws a ha op =>
    obtain ⟨e', he'⟩ := ha.append_factor op he
    exact ⟨before, ws ++ .operator op :: us, e', by simp, hbefore, he'⟩

lemma BeforeOperand.leftParen (h : BeforeOperand n ts) :
    BeforeOperand (n + 1) (ts ++ [.leftParen]) := by
  obtain ⟨before, vs, rfl, hbefore, hvs⟩ := h
  exact ⟨_, [], (List.append_nil _).symm, .paren hbefore hvs, .nil⟩

lemma AfterOperand.operator (h : AfterOperand n ts) (op : Operator) :
    BeforeOperand n (ts ++ [.operator op]) := by
  obtain ⟨before, vs, e, rfl, hbefore, hvs⟩ := h
  exact ⟨before, vs ++ [.operator op], List.append_assoc _ _ _, hbefore, .operator hvs op⟩

lemma AfterOperand.rightParen (h : AfterOperand (n + 1) ts) :
    AfterOperand n (ts ++ [.rightParen]) := by
  obtain ⟨before, vs, e, rfl, hbefore, hvs⟩ := h
  cases hbefore with
  | @paren _ us ws hus hws =>
    have hopen : BeforeOperand n (us ++ ws) := ⟨us, ws, rfl, hus, hws⟩
    have hfactor := hopen.factor (.paren hvs)
    simpa using hfactor

lemma AfterOperand.derives (h : AfterOperand 0 ts) : ∃ e, Derives .sum ts e := by
  obtain ⟨before, vs, e, rfl, hbefore, hvs⟩ := h
  cases hbefore
  exact ⟨e, hvs⟩

end Reading

end Grammar

namespace Formula

namespace Checked

def awaits (c : Checked) : Bool := !c.last.any Token.closesOperand

variable {c : Checked} {t : Token}

lemma awaits_push (c : Checked) (t : Token) : (c.push t).awaits = !t.closesOperand := rfl

lemma misplaced?_eq_none_iff :
    c.misplaced? t = none ↔ (c.last.isSome = true → t.opensOperand = c.awaits) := by
  rw [misplaced?, awaits]
  cases c.last with
  | none => simp
  | some last => cases last.closesOperand <;> cases t.opensOperand <;> simp

lemma fault?_eq_none_iff {final : Bool} : c.fault? t final = none ↔ t.opensOperand = c.awaits ∧
    (final = true → t.closesOperand = true) ∧ (c.push t).closed ≤ (c.push t).opened := by
  rw [fault?]
  split_ifs with hstart hend hclose
  · simp only [Bool.and_eq_true, Option.isNone_iff_eq_none, Bool.not_eq_true'] at hstart
    simp [awaits, hstart]
  · simp only [Bool.and_eq_true, Bool.not_eq_true'] at hend
    simp [hend]
  · simp [hclose]
  · rw [misplaced?_eq_none_iff]
    simp only [Bool.and_eq_true, Bool.not_eq_true', not_and, Bool.not_eq_false] at hstart hend
    have hfirst : c.last.isNone = true → t.opensOperand = c.awaits := by
      intro hnone
      rw [hstart hnone, awaits, Option.isNone_iff_eq_none.mp hnone]
      rfl
    constructor
    · intro h
      refine ⟨?_, hend, Nat.not_lt.mp hclose⟩
      cases hlast : c.last with
      | none => exact hfirst (by rw [hlast]; rfl)
      | some last => exact h (by rw [hlast]; rfl)
    · exact fun h _ => h.1

end Checked

section Accepts

variable {c : Checked} {t : Token} {ts us : List Token}

lemma checkFrom_cons (ht : t.opensOperand = c.awaits)
    (hfinal : ts = [] → t.closesOperand = true)
    (hbalance : (c.push t).closed ≤ (c.push t).opened) :
    checkFrom c (t :: ts) = checkFrom (c.push t) ts := by
  have hfault : c.fault? t ts.isEmpty = none :=
    Checked.fault?_eq_none_iff.mpr ⟨ht, fun h => hfinal (List.isEmpty_iff.mp h), hbalance⟩
  rw [checkFrom, hfault]

structure Checked.Reads (c c' : Checked) : Prop where
  awaits : c'.awaits = false
  balance : ∃ k, c'.opened = c.opened + k ∧ c'.closed = c.closed + k

def Operand (ts : List Token) : Prop :=
  ∀ (c : Checked) (rest : List Token), c.awaits = true → c.closed ≤ c.opened →
    ∃ c', c.Reads c' ∧ checkFrom c (ts ++ rest) = checkFrom c' rest

lemma operand_singleton (hopens : t.opensOperand = true) (hcloses : t.closesOperand = true)
    (hopening : t.opening = 0) (hclosing : t.closing = 0) : Operand [t] := by
  intro c rest hc hb
  have hopened : (c.push t).opened = c.opened + 0 := congrArg (c.opened + ·) hopening
  have hclosed : (c.push t).closed = c.closed + 0 := congrArg (c.closed + ·) hclosing
  refine ⟨c.push t, ⟨?_, 0, hopened, hclosed⟩, ?_⟩
  · rw [Checked.awaits_push, hcloses]
    rfl
  · exact checkFrom_cons (hopens.trans hc.symm) (fun _ => hcloses) (by omega)

lemma Operand.paren (h : Operand ts) : Operand (.leftParen :: ts ++ [.rightParen]) := by
  intro c rest hc hb
  have hb₁ : (c.push .leftParen).closed ≤ (c.push .leftParen).opened := Nat.le_succ_of_le hb
  obtain ⟨c₁, h₁, hcheck⟩ := h (c.push .leftParen) (.rightParen :: rest) rfl hb₁
  obtain ⟨k, hopened, hclosed⟩ := h₁.balance
  have hopened₁ : (c₁.push .rightParen).opened = c.opened + 1 + k := hopened
  have hclosed₁ : (c₁.push .rightParen).closed = c.closed + k + 1 :=
    congrArg Nat.succ hclosed
  have hne : ts ++ .rightParen :: rest ≠ [] :=
    List.append_ne_nil_of_right_ne_nil ts (List.cons_ne_nil _ _)
  refine ⟨c₁.push .rightParen, ⟨rfl, k + 1, by omega, by omega⟩, ?_⟩
  calc checkFrom c (.leftParen :: ts ++ [.rightParen] ++ rest)
      = checkFrom c (.leftParen :: (ts ++ .rightParen :: rest)) := by simp
    _ = checkFrom (c.push .leftParen) (ts ++ .rightParen :: rest) :=
        checkFrom_cons (t := .leftParen) hc.symm (fun hnil => (hne hnil).elim) hb₁
    _ = checkFrom c₁ (.rightParen :: rest) := hcheck
    _ = checkFrom (c₁.push .rightParen) rest :=
        checkFrom_cons (t := .rightParen) h₁.awaits.symm (fun _ => rfl) (by omega)

lemma Operand.binary (h : Operand ts) (op : Operator) (h' : Operand us) (hne : us ≠ []) :
    Operand (ts ++ .operator op :: us) := by
  intro c rest hc hb
  obtain ⟨c₁, h₁, hcheck₁⟩ := h c (.operator op :: (us ++ rest)) hc hb
  obtain ⟨k, hopened, hclosed⟩ := h₁.balance
  have hb₁ : (c₁.push (.operator op)).closed ≤ (c₁.push (.operator op)).opened := by
    change c₁.closed ≤ c₁.opened
    omega
  obtain ⟨c₂, h₂, hcheck₂⟩ := h' (c₁.push (.operator op)) rest rfl hb₁
  obtain ⟨l, hopened', hclosed'⟩ := h₂.balance
  have hopened₂ : c₂.opened = c₁.opened + l := hopened'
  have hclosed₂ : c₂.closed = c₁.closed + l := hclosed'
  have hne' : us ++ rest ≠ [] := List.append_ne_nil_of_left_ne_nil hne rest
  refine ⟨c₂, ⟨h₂.awaits, k + l, by omega, by omega⟩, ?_⟩
  calc checkFrom c (ts ++ .operator op :: us ++ rest)
      = checkFrom c (ts ++ .operator op :: (us ++ rest)) := by simp
    _ = checkFrom c₁ (.operator op :: (us ++ rest)) := hcheck₁
    _ = checkFrom (c₁.push (.operator op)) (us ++ rest) :=
        checkFrom_cons (t := .operator op) h₁.awaits.symm (fun hnil => (hne' hnil).elim) hb₁
    _ = checkFrom c₂ rest := hcheck₂

lemma operand_of_derives {level : Level} {e : Expr} (h : Derives level ts e) : Operand ts := by
  induction h with
  | number literal value => exact operand_singleton rfl rfl rfl rfl
  | «variable» name => exact operand_singleton rfl rfl rfl rfl
  | paren _ ih => exact ih.paren
  | factor _ ih => exact ih
  | product _ ih => exact ih
  | @times _ _ op _ _ _ _ hus ih ih' => exact ih.binary op ih' hus.ne_nil
  | @plus _ _ op _ _ _ _ hus ih ih' => exact ih.binary op ih' hus.ne_nil

lemma check_of_derives {e : Expr} (h : Derives .sum ts e) : check ts = .ok () := by
  obtain ⟨c, hc, hcheck⟩ := operand_of_derives h .start [] rfl (Nat.le_refl 0)
  obtain ⟨k, hopened, hclosed⟩ := hc.balance
  have hbalance : c.opened = c.closed := hopened.trans hclosed.symm
  rw [check, if_neg (by simpa using h.ne_nil), ← List.append_nil ts, hcheck, checkFrom,
    Checked.finish, if_pos hbalance]

end Accepts

section Rejects

variable {c : Checked} {t : Token} {ts us : List Token}

structure Checked.Describes (c : Checked) (ts : List Token) : Prop where
  balance : c.closed ≤ c.opened
  before (h : c.awaits = true) : BeforeOperand (c.opened - c.closed) ts
  after (h : c.awaits = false) : AfterOperand (c.opened - c.closed) ts

lemma Checked.describes_start : Checked.start.Describes [] where
  balance := Nat.le_refl 0
  before _ := ⟨[], [], rfl, .none, .nil⟩
  after h := by cases h

lemma Checked.Describes.push (h : c.Describes ts) {final : Bool} (ht : c.fault? t final = none) :
    (c.push t).Describes (ts ++ [t]) := by
  obtain ⟨hopens, -, hbalance⟩ := Checked.fault?_eq_none_iff.mp ht
  refine ⟨hbalance, fun hnext => ?_, fun hnext => ?_⟩
  · cases t with
    | leftParen =>
      have hdepth : (c.push .leftParen).opened - (c.push .leftParen).closed =
          c.opened - c.closed + 1 := Nat.succ_sub h.balance
      rw [hdepth]
      exact (h.before hopens.symm).leftParen
    | operator op => exact (h.after hopens.symm).operator op
    | rightParen => cases hnext
    | number => cases hnext
    | «variable» => cases hnext
  · cases t with
    | rightParen =>
      have hdepth : c.opened - c.closed =
          (c.push .rightParen).opened - (c.push .rightParen).closed + 1 := by
        change c.closed + 1 ≤ c.opened at hbalance
        change c.opened - c.closed = c.opened - (c.closed + 1) + 1
        omega
      exact (hdepth ▸ h.after hopens.symm).rightParen
    | number literal value => exact (h.before hopens.symm).factor (.number literal value)
    | «variable» name => exact (h.before hopens.symm).factor (.variable name)
    | leftParen => cases hnext
    | operator => cases hnext

lemma derives_of_checkFrom (h : c.Describes ts) (hend : us = [] → c.awaits = false)
    (hcheck : checkFrom c us = .ok ()) : ∃ e, Derives .sum (ts ++ us) e := by
  induction us generalizing c ts with
  | nil =>
    have hbalance : c.opened = c.closed := by
      rw [checkFrom, Checked.finish] at hcheck
      by_contra hne
      rw [if_neg hne] at hcheck
      cases hcheck
    have hafter := h.after (hend rfl)
    rw [hbalance, Nat.sub_self] at hafter
    rw [List.append_nil]
    exact hafter.derives
  | cons t us ih =>
    rw [checkFrom] at hcheck
    split at hcheck
    · cases hcheck
    · rename_i hfault
      have hlast : us = [] → (c.push t).awaits = false := by
        intro hnil
        rw [Checked.awaits_push,
          (Checked.fault?_eq_none_iff.mp hfault).2.1 (List.isEmpty_iff.mpr hnil)]
        rfl
      rw [List.append_cons]
      exact ih (h.push hfault) hlast hcheck

theorem check_eq_ok_iff : check ts = .ok () ↔ ∃ e, Derives .sum ts e := by
  constructor
  · intro h
    rw [check] at h
    split at h
    · cases h
    · rename_i hne
      refine derives_of_checkFrom Checked.describes_start (fun hnil => ?_) h
      exact (hne (List.isEmpty_iff.mpr hnil)).elim
  · rintro ⟨e, h⟩
    exact check_of_derives h

end Rejects

end Formula

end Spreadsheet
