import Mathlib
import Spreadsheet.Proofs.Formula.Canonical
import Spreadsheet.Proofs.Formula.Grammar

/-! Where the check of a token list stops. The tokens that have been read without a fault begin a
formula, and no others do: an operand and the missing parentheses complete them. So the first token
that is refused is the first one with which no formula goes on, unless it is the last one and only
ends the formula too early. -/

namespace Spreadsheet

open Grammar

namespace Formula

def Viable (ts : List Token) : Prop := ∃ f : Formula, ts <+: f.tokens

lemma Viable.of_append {ts us : List Token} (h : Viable (ts ++ us)) : Viable ts := by
  obtain ⟨f, hf⟩ := h
  exact ⟨f, (List.prefix_append ts us).trans hf⟩

section Completion

variable {n : ℕ} {ts : List Token}

lemma viable_of_afterOperand (h : AfterOperand n ts) : Viable ts := by
  induction n generalizing ts with
  | zero =>
    obtain ⟨e, he⟩ := h.derives
    exact ⟨⟨ts, check_eq_ok_iff.mpr ⟨e, he⟩⟩, List.prefix_rfl⟩
  | succ n ih => exact (ih h.rightParen).of_append

lemma viable_of_beforeOperand (h : BeforeOperand n ts) : Viable ts :=
  (viable_of_afterOperand (h.factor (.variable "A1"))).of_append

lemma Checked.Describes.viable {c : Checked} (h : c.Describes ts) : Viable ts := by
  cases hawaits : c.awaits with
  | true => exact viable_of_beforeOperand (h.before hawaits)
  | false => exact viable_of_afterOperand (h.after hawaits)

end Completion

section Reading

variable {c c' : Checked} {t : Token} {ts us : List Token}

def Checked.read? (c : Checked) (t : Token) : Option Checked :=
  if c.fault? t false = none then some (c.push t) else none

def Checked.readAll? (c : Checked) (ts : List Token) : Option Checked := ts.foldlM read? c

lemma Checked.read?_eq_some_iff :
    c.read? t = some c' ↔ c.fault? t false = none ∧ c.push t = c' := by
  simp [read?]

lemma Checked.readAll?_cons (h : c.fault? t false = none) :
    c.readAll? (t :: ts) = (c.push t).readAll? ts := by
  rw [readAll?, List.foldlM_cons, read?_eq_some_iff.mpr ⟨h, rfl⟩]
  rfl

lemma Checked.readAll?_concat_iff : c.readAll? (ts ++ [t]) = some c' ↔
    ∃ c₀, c.readAll? ts = some c₀ ∧ c₀.fault? t false = none ∧ c₀.push t = c' := by
  simp [readAll?, Option.bind_eq_some_iff, read?_eq_some_iff]

lemma Checked.reading_induction {P : List Token → Checked → Prop} (hstart : P [] .start)
    (hpush : ∀ ts c t, P ts c → c.fault? t false = none → P (ts ++ [t]) (c.push t))
    (h : start.readAll? ts = some c) : P ts c := by
  induction ts using List.reverseRecOn generalizing c with
  | nil =>
    obtain rfl := Option.some.inj h
    exact hstart
  | append_singleton ts t ih =>
    obtain ⟨c₀, hread, hfault, rfl⟩ := readAll?_concat_iff.mp h
    exact hpush ts c₀ t (ih hread) hfault

structure Checked.Tells (c : Checked) (ts : List Token) : Prop where
  last : c.last = ts.getLast?
  length : c.length = ts.length
  opened : c.opened = (ts.map Token.kind).count .leftParen
  closed : c.closed = (ts.map Token.kind).count .rightParen

lemma Checked.tells_of_readAll? (h : start.readAll? ts = some c) : c.Tells ts := by
  apply reading_induction (P := fun ts c => c.Tells ts) ⟨rfl, rfl, rfl, rfl⟩ _ h
  intro ts c t htells _
  refine ⟨by simp [push], by simp [push, htells.length], ?_, ?_⟩
  · cases t <;> simp [push, htells.opened, Token.opening, Token.kind]
  · cases t <;> simp [push, htells.closed, Token.closing, Token.kind]

lemma Checked.describes_of_readAll? (h : start.readAll? ts = some c) : c.Describes ts :=
  reading_induction (P := fun ts c => c.Describes ts) describes_start
    (fun _ _ _ hdescribes hfault => hdescribes.push hfault) h

lemma exists_readAll?_of_checkFrom (h : checkFrom c (ts ++ us) = .ok ()) :
    ∃ c', c.readAll? ts = some c' := by
  induction ts generalizing c with
  | nil => exact ⟨c, rfl⟩
  | cons t ts ih =>
    rw [List.cons_append, checkFrom] at h
    split at h
    · cases h
    · rename_i hfault
      obtain ⟨hopens, -, hbalance⟩ := Checked.fault?_eq_none_iff.mp hfault
      rw [Checked.readAll?_cons (Checked.fault?_eq_none_iff.mpr ⟨hopens, by simp, hbalance⟩)]
      exact ih h

theorem viable_iff_readAll? : Viable ts ↔ (Checked.start.readAll? ts).isSome = true := by
  rw [Option.isSome_iff_exists]
  constructor
  · rintro ⟨f, us, hus⟩
    have hcheck : check (ts ++ us) = .ok () := hus ▸ f.valid
    rw [check] at hcheck
    split at hcheck
    · cases hcheck
    · exact exists_readAll?_of_checkFrom hcheck
  · rintro ⟨c, hc⟩
    exact (Checked.describes_of_readAll? hc).viable

instance : DecidablePred Viable := fun _ => decidable_of_iff _ viable_iff_readAll?.symm

end Reading

section Stopping

variable {c c' : Checked} {t : Token} {ts us : List Token} {e : FormatError}

inductive StopsAt : List Token → ℕ → FormatError → Prop
  | empty : StopsAt [] 0 .empty
  | token {before after : List Token} {t : Token} {c : Checked} {e : FormatError}
    (hread : Checked.start.readAll? before = some c) (h : c.fault? t after.isEmpty = some e) :
    StopsAt (before ++ t :: after) before.length e
  | finish {ts : List Token} {c : Checked} {e : FormatError}
    (hread : Checked.start.readAll? ts = some c) (hlast : c.awaits = false)
    (h : c.finish = .error e) : StopsAt ts ts.length e

lemma exists_stopsAt_of_checkFrom (hread : Checked.start.readAll? ts = some c)
    (hlast : us = [] → c.awaits = false) (h : checkFrom c us = .error e) :
    ∃ i, StopsAt (ts ++ us) i e := by
  induction us generalizing ts c with
  | nil =>
    rw [List.append_nil]
    exact ⟨_, .finish hread (hlast rfl) h⟩
  | cons t us ih =>
    rw [checkFrom] at h
    split at h
    · rename_i hfault
      obtain rfl := Except.error.inj h
      exact ⟨_, .token hread hfault⟩
    · rename_i hfault
      obtain ⟨hopens, hcloses, hbalance⟩ := Checked.fault?_eq_none_iff.mp hfault
      rw [List.append_cons]
      apply ih _ _ h
      · exact Checked.readAll?_concat_iff.mpr
          ⟨c, hread, Checked.fault?_eq_none_iff.mpr ⟨hopens, by simp, hbalance⟩, rfl⟩
      · intro hnil
        rw [Checked.awaits_push, hcloses (List.isEmpty_iff.mpr hnil)]
        rfl

lemma checkFrom_append (hread : c.readAll? ts = some c') (hne : us ≠ []) :
    checkFrom c (ts ++ us) = checkFrom c' us := by
  induction ts generalizing c with
  | nil =>
    obtain rfl := Option.some.inj hread
    rfl
  | cons t ts ih =>
    -- a token is judged otherwise if it is the last one, and `us` keeps those of `ts` from it
    cases hfault : c.fault? t false with
    | some e => simp [Checked.readAll?, Checked.read?, hfault] at hread
    | none =>
      have hrest : (ts ++ us).isEmpty = false :=
        List.isEmpty_eq_false_iff.mpr (List.append_ne_nil_of_right_ne_nil ts hne)
      rw [Checked.readAll?_cons hfault] at hread
      rw [List.cons_append, checkFrom, hrest, hfault]
      exact ih hread

lemma StopsAt.check_eq {i : ℕ} (h : StopsAt ts i e) : check ts = .error e := by
  cases h with
  | empty => rfl
  | @token before after t c _ hread h =>
    rw [check, if_neg (by simp), checkFrom_append hread (List.cons_ne_nil t after), checkFrom, h]
  | @finish _ c _ hread hlast h =>
    rcases ts.eq_nil_or_concat' with rfl | ⟨before, t, rfl⟩
    · obtain rfl := Option.some.inj hread
      cases hlast
    · obtain ⟨c₀, hread₀, hfault, rfl⟩ := Checked.readAll?_concat_iff.mp hread
      obtain ⟨hopens, -, hbalance⟩ := Checked.fault?_eq_none_iff.mp hfault
      have hcloses : t.closesOperand = true := by simpa [Checked.awaits_push] using hlast
      rw [check, if_neg (by simp), checkFrom_append hread₀ (List.cons_ne_nil t []),
        checkFrom_cons hopens (fun _ => hcloses) hbalance]
      exact h

theorem check_eq_error_iff : check ts = .error e ↔ ∃ i, StopsAt ts i e := by
  constructor
  · intro h
    rw [check] at h
    split at h
    · rename_i hempty
      obtain rfl := List.isEmpty_iff.mp hempty
      obtain rfl := Except.error.inj h
      exact ⟨0, .empty⟩
    · rename_i hne
      rw [← List.nil_append ts]
      exact exists_stopsAt_of_checkFrom rfl (fun hnil => (hne (List.isEmpty_iff.mpr hnil)).elim) h
  · rintro ⟨i, h⟩
    exact h.check_eq

end Stopping

section Blame

variable {c : Checked} {t : Token} {ts : List Token} {e : FormatError}

def openedIn (ts : List Token) : ℕ := (ts.map Token.kind).count .leftParen

def closedIn (ts : List Token) : ℕ := (ts.map Token.kind).count .rightParen

inductive Blames (ts : List Token) : ℕ → FormatError → Prop
  | start {t : Token} (ht : ts[0]? = some t) : Blames ts 0 (.invalidStart t.text)
  | finish {i : ℕ} {t : Token} (hi : 0 < i) (ht : ts[i]? = some t) (hlast : i + 1 = ts.length)
    (hc : t.closesOperand = false) : Blames ts i (.invalidEnd t.text)
  | close {i : ℕ} (hi : 0 < i) (ht : ts[i]? = some .rightParen)
    (hb : openedIn (ts.take i) = closedIn (ts.take i)) : Blames ts i (.unmatchedClose (i + 1))
  | operand {i : ℕ} {a t : Token} (ha : ts[i]? = some a) (ht : ts[i + 1]? = some t)
    (hc : a.closesOperand = false) (ho : t.opensOperand = false)
    (hlast : t.closesOperand = false → i + 2 < ts.length)
    (hb : t = .rightParen → closedIn (ts.take (i + 1)) < openedIn (ts.take (i + 1))) :
    Blames ts (i + 1) (.expectedOperand a.text t.text)
  | operator {i : ℕ} {a t : Token} (ha : ts[i]? = some a) (ht : ts[i + 1]? = some t)
    (hc : a.closesOperand = true) (ho : t.opensOperand = true)
    (hlast : t.closesOperand = false → i + 2 < ts.length) :
    Blames ts (i + 1) (.expectedOperator a.text t.text)

inductive Unfinished (ts : List Token) : FormatError → Prop
  | finish {t : Token} (ht : ts.getLast? = some t) (hc : t = .leftParen ∨ ∃ op, t = .operator op) :
    Unfinished ts (.invalidEnd t.text)
  | balance {t : Token} (ht : ts.getLast? = some t) (hc : t.closesOperand = true)
    (hb : closedIn ts < openedIn ts) : Unfinished ts (.unbalanced (openedIn ts) (closedIn ts))

lemma closing_of_ne (h : t ≠ .rightParen) : t.closing = 0 := by
  cases t with
  | rightParen => exact (h rfl).elim
  | _ => rfl

lemma blames_start (hnot : Checked.start.fault? t false ≠ none) {final : Bool} {after : List Token}
    (h : Checked.start.fault? t final = some e) : Blames (t :: after) 0 e := by
  have hopens : t.opensOperand = false := by
    rw [← Bool.not_eq_true]
    intro hopens
    have hclosing : t.closing = 0 := by
      apply closing_of_ne
      rintro rfl
      cases hopens
    refine hnot (Checked.fault?_eq_none_iff.mpr ⟨hopens, by simp, ?_⟩)
    simp [Checked.push, Checked.start, hclosing]
  have herror : Checked.start.fault? t final = some (.invalidStart t.text) := by
    simp [Checked.fault?, Checked.start, hopens]
  obtain rfl := Option.some.inj (herror.symm.trans h)
  exact .start rfl

lemma blames_after {before after : List Token} {a : Token} (htells : c.Tells (before ++ [a]))
    (hbalance : c.closed ≤ c.opened) (h : c.fault? t after.isEmpty = some e) :
    Blames (before ++ [a] ++ t :: after) (before.length + 1) e := by
  have hlast : c.last = some a := by simp [htells.last]
  have hlength : c.length = before.length + 1 := by simp [htells.length]
  have ha : (before ++ [a] ++ t :: after)[before.length]? = some a := by simp
  have ht : (before ++ [a] ++ t :: after)[before.length + 1]? = some t := by simp
  have htake : (before ++ [a] ++ t :: after).take (before.length + 1) = before ++ [a] :=
    List.take_left' (by simp)
  have hmore : t.closesOperand = false → ¬ (after.isEmpty && !t.closesOperand) = true →
      before.length + 2 < (before ++ [a] ++ t :: after).length := by
    intro hc hend
    have hne : after ≠ [] := by simpa [hc] using hend
    have hpos := List.length_pos_iff.mpr hne
    simp only [List.length_append, List.length_cons, List.length_nil]
    omega
  rw [Checked.fault?, hlast] at h
  split_ifs at h with hstart hend hclose
  · cases hstart
  · obtain rfl := Option.some.inj h
    simp only [Bool.and_eq_true, List.isEmpty_iff, Bool.not_eq_true'] at hend
    exact .finish (Nat.succ_pos _) ht (by simp [hend.1]) hend.2
  · obtain rfl := Option.some.inj h
    simp only [Checked.push] at hclose
    obtain rfl : t = .rightParen := by
      by_contra hne
      rw [closing_of_ne hne] at hclose
      omega
    rw [hlength]
    refine .close (Nat.succ_pos _) ht ?_
    rw [htake, openedIn, closedIn, ← htells.opened, ← htells.closed]
    simp only [Token.opening, Token.closing] at hclose
    omega
  · rw [Checked.misplaced?, hlast] at h
    dsimp only at h
    split_ifs at h with hc ho ho
    · obtain rfl := Option.some.inj h
      exact .operator ha ht hc ho fun hclosed => hmore hclosed hend
    · obtain rfl := Option.some.inj h
      refine .operand ha ht (by simpa using hc) (by simpa using ho)
        (fun hclosed => hmore hclosed hend) ?_
      rintro rfl
      rw [htake, openedIn, closedIn, ← htells.opened, ← htells.closed]
      simp only [Checked.push, Token.opening, Token.closing] at hclose
      omega

def IsFirstUnviable (ts : List Token) (i : ℕ) : Prop :=
  IsLeast {i | i < ts.length ∧ ¬ Viable (ts.take (i + 1))} i

lemma isFirstUnviable_of_fault? {before after : List Token}
    (hread : Checked.start.readAll? before = some c) (hnot : c.fault? t false ≠ none) :
    IsFirstUnviable (before ++ t :: after) before.length := by
  have htake : (before ++ t :: after).take (before.length + 1) = before ++ [t] := by
    simp [List.take_append]
  constructor
  · refine ⟨by simp, ?_⟩
    rw [htake, viable_iff_readAll?]
    intro hsome
    obtain ⟨c', hc'⟩ := Option.isSome_iff_exists.mp hsome
    obtain ⟨c₀, hread₀, hfault, -⟩ := Checked.readAll?_concat_iff.mp hc'
    rw [hread] at hread₀
    obtain rfl := Option.some.inj hread₀
    exact hnot hfault
  · rintro j ⟨-, hj⟩
    by_contra hlt
    have hviable : Viable before := (Checked.describes_of_readAll? hread).viable
    apply hj
    rw [List.take_append_of_le_length (by omega)]
    rw [← List.take_append_drop (j + 1) before] at hviable
    exact hviable.of_append

lemma Viable.take (h : Viable ts) (n : ℕ) : Viable (ts.take n) := by
  rw [← List.take_append_drop n ts] at h
  exact h.of_append

lemma unfinished_of_fault? (before : List Token) {after : List Token}
    (h : c.fault? t after.isEmpty = some e) (hnot : c.fault? t false = none) :
    after = [] ∧ Unfinished (before ++ [t]) e := by
  cases hafter : after.isEmpty with
  | false =>
    rw [hafter, hnot] at h
    cases h
  | true =>
    refine ⟨List.isEmpty_iff.mp hafter, ?_⟩
    simp only [hafter, Checked.fault?, Bool.true_and, Bool.false_and, Bool.false_eq_true,
      if_false] at h hnot
    split_ifs at h hnot with hstart hend
    · obtain rfl := Option.some.inj h
      refine .finish List.getLast?_concat ?_
      cases t with
      | leftParen => exact Or.inl rfl
      | operator op => exact Or.inr ⟨op, rfl⟩
      | rightParen => cases hend
      | number => cases hend
      | «variable» => cases hend
    · cases hnot.symm.trans h

lemma unfinished_of_finish (hread : Checked.start.readAll? ts = some c) (hlast : c.awaits = false)
    (h : c.finish = .error e) : Unfinished ts e := by
  have htells := Checked.tells_of_readAll? hread
  have hbalance := (Checked.describes_of_readAll? hread).balance
  obtain ⟨t, ht, hc⟩ : ∃ t, c.last = some t ∧ t.closesOperand = true := by
    rw [Checked.awaits, Bool.not_eq_false', Option.any_eq_true] at hlast
    exact hlast
  rw [Checked.finish] at h
  split_ifs at h with heq
  obtain rfl := Except.error.inj h
  rw [htells.opened, htells.closed] at heq hbalance ⊢
  exact .balance (htells.last ▸ ht) hc (lt_of_le_of_ne hbalance (Ne.symm heq))

theorem check_error_at_first_unviable (hts : ts ≠ []) (h : check ts = .error e) :
    (∀ i, IsFirstUnviable ts i → Blames ts i e) ∧
    ((∀ i < ts.length, Viable (ts.take (i + 1))) → Unfinished ts e) := by
  obtain ⟨i, hstop⟩ := check_eq_error_iff.mp h
  cases hstop with
  | empty => exact (hts rfl).elim
  | @token before after t c _ hread hfault =>
    by_cases hnot : c.fault? t false = none
    · obtain ⟨rfl, hunfinished⟩ := unfinished_of_fault? before hfault hnot
      have hviable : Viable (before ++ [t]) :=
        (Checked.describes_of_readAll?
          (Checked.readAll?_concat_iff.mpr ⟨c, hread, hnot, rfl⟩)).viable
      exact ⟨fun i hi => (hi.1.2 (hviable.take _)).elim, fun _ => hunfinished⟩
    · have hfirst : IsFirstUnviable (before ++ t :: after) before.length :=
        isFirstUnviable_of_fault? hread hnot
      refine ⟨fun i hi => ?_, fun hviable => (hfirst.1.2 (hviable _ hfirst.1.1)).elim⟩
      rw [hi.unique hfirst]
      rcases before.eq_nil_or_concat' with rfl | ⟨before, a, rfl⟩
      · obtain rfl := Option.some.inj hread
        exact blames_start hnot hfault
      · rw [List.length_append]
        exact blames_after (Checked.tells_of_readAll? hread)
          (Checked.describes_of_readAll? hread).balance hfault
  | @finish _ c _ hread hlast hfinish =>
    have hviable : Viable ts := (Checked.describes_of_readAll? hread).viable
    exact ⟨fun i hi => (hi.1.2 (hviable.take _)).elim,
      fun _ => unfinished_of_finish hread hlast hfinish⟩

theorem check_error_at_first_unviable_of_extra_parenthesis : ∃ ts : List Token,
    ts.map Token.text = ["(", "A1", ")", ")", "*", "("] ∧ ts ≠ [] ∧
      check ts = .error (.unmatchedClose 4) ∧ IsFirstUnviable ts 3 ∧
      Blames ts 3 (.unmatchedClose 4) := by
  have hts : [Token.leftParen, .variable "A1", .rightParen, .rightParen, .operator .mul,
      .leftParen] ≠ [] := List.cons_ne_nil _ _
  have hcheck : check [.leftParen, .variable "A1", .rightParen, .rightParen, .operator .mul,
      .leftParen] = .error (.unmatchedClose 4) := by decide
  have hfirst : IsFirstUnviable [.leftParen, .variable "A1", .rightParen, .rightParen,
      .operator .mul, .leftParen] 3 := by
    refine ⟨⟨by decide, by decide⟩, ?_⟩
    rintro j ⟨-, hj⟩
    by_contra hlt
    interval_cases j <;> exact hj (by decide)
  exact ⟨_, by decide, hts, hcheck, hfirst, (check_error_at_first_unviable hts hcheck).1 3 hfirst⟩

end Blame

end Formula

end Spreadsheet
