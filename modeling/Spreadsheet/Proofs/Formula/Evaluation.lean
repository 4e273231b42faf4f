import Mathlib
import Spreadsheet.Proofs.Formula.Grammar
import Spreadsheet.Proofs.Formula.Unambiguous

/-! Evaluation with two stacks gives the value of the tree. A factor is pushed like a single value,
a product is left as one value, and a sum as one value or as two with its last operator pending,
whatever is below them on the stacks and comes after them. -/

namespace Spreadsheet

open Grammar

lemma Operator.combine_of_isAdditive {op : Operator} (h : op.isAdditive = true) (x y : Float) :
    op.combine x y = .ok (op.apply x y) := by
  rw [combine, if_neg]
  rintro ⟨rfl, -⟩
  cases h

lemma Operator.combine_error {op : Operator} {x y : Float} {fault : Fault}
    (h : op.combine x y = .error fault) : fault = .divideByZero := by
  rw [combine] at h
  split at h
  · exact (Except.error.inj h).symm
  · cases h

namespace Expr

variable {lookup : String → Option Float}

lemma eval_binary (op : Operator) (a b : Expr) : (binary op a b).eval lookup =
    (a.eval lookup).bind fun x => (b.eval lookup).bind fun y => op.combine x y := by
  rw [eval]
  cases a.eval lookup with
  | error fault => rfl
  | ok x =>
    cases b.eval lookup with
    | error fault => rfl
    | ok y => cases op <;> simp [Operator.combine, Operator.apply, Except.bind]

lemma fault_of_eval {e : Expr} {fault : Fault} (h : e.eval lookup = .error fault) :
    fault = .divideByZero ∨ ∃ name, lookup name = none ∧ fault = .undefinedVariable name := by
  induction e with
  | number => cases h
  | «variable» name =>
    rw [eval] at h
    split at h
    · cases h
    · rename_i hname
      exact Or.inr ⟨name, hname, (Except.error.inj h).symm⟩
  | binary op a b iha ihb =>
    rw [eval_binary] at h
    cases ha : a.eval lookup with
    | error =>
      rw [ha] at h
      exact iha (ha.trans h)
    | ok x =>
      cases hb : b.eval lookup with
      | error =>
        rw [ha, hb] at h
        exact ihb (hb.trans h)
      | ok y =>
        rw [ha, hb] at h
        exact Or.inl (Operator.combine_error h)

end Expr

namespace Evaluation

variable {lookup : String → Option Float} {values : List Float} {pending : List Pending}

def Clear (p : Operator → Bool) (pending : List Pending) : Prop :=
  ∀ values, (Stacks.mk values pending).topOperator? p = none

lemma clear_nil (p : Operator → Bool) : Clear p [] := fun _ => rfl

lemma clear_paren (p : Operator → Bool) (pending : List Pending) : Clear p (.paren :: pending) :=
  fun _ => rfl

lemma clear_operator {p : Operator → Bool} {op : Operator} (h : p op = false)
    (pending : List Pending) : Clear p (.operator op :: pending) := by
  intro values
  simp [Stacks.topOperator?, h]

inductive LeftBySum (values : List Float) (pending : List Pending) : Float → Stacks → Prop
  | value (x : Float) : LeftBySum values pending x ⟨x :: values, pending⟩
  | deferred (x y : Float) {op : Operator} (hop : op.isAdditive = true) :
    LeftBySum values pending (op.apply x y) ⟨y :: x :: values, .operator op :: pending⟩

section Steps

variable {op : Operator} {s : Stacks} {x : Float}

lemma run_cons (s : Stacks) (t : Token) (ts : List Token) :
    run lookup s (t :: ts) = (s.step lookup t).bind fun s => run lookup s ts := by
  rw [run]
  cases s.step lookup t <;> rfl

lemma applyIf_of_clear {p : Operator → Bool} (h : Clear p pending) (values : List Float) :
    (Stacks.mk values pending).applyIf p = .ok ⟨values, pending⟩ := by
  simp [Stacks.applyIf, h values]

lemma pushValue_of_clear (h : Clear Operator.isMultiplicative pending) (values : List Float)
    (x : Float) : (Stacks.mk values pending).pushValue x = .ok ⟨x :: values, pending⟩ := by
  simp [Stacks.pushValue, h values]

lemma pushValue_operator (hop : op.isMultiplicative = true) (x y : Float) :
    (Stacks.mk (x :: values) (.operator op :: pending)).pushValue y =
      (op.combine x y).map fun z => ⟨z :: values, pending⟩ := by
  simp [Stacks.pushValue, Stacks.topOperator?, hop, Stacks.applyTo]

lemma step_multiplicative (hop : op.isMultiplicative = true) (s : Stacks) :
    s.step lookup (.operator op) = .ok (s.pushOperator op) := by
  simp [Stacks.step, hop]

lemma LeftBySum.applyIf (h : LeftBySum values pending x s)
    (hp : Clear Operator.isAdditive pending) :
    s.applyIf Operator.isAdditive = .ok ⟨x :: values, pending⟩ := by
  cases h with
  | value => exact applyIf_of_clear hp _
  | deferred x y hop =>
    simp [Stacks.applyIf, Stacks.topOperator?, hop, Stacks.apply, Stacks.applyTo,
      Operator.combine_of_isAdditive hop, Except.map]

lemma LeftBySum.step_operator (h : LeftBySum values pending x s)
    (hp : Clear Operator.isAdditive pending) (hop : op.isAdditive = true) :
    s.step lookup (.operator op) = .ok ⟨x :: values, .operator op :: pending⟩ := by
  simp [Stacks.step, Operator.isMultiplicative_eq_false hop, h.applyIf hp, Except.map,
    Stacks.pushOperator]

lemma LeftBySum.step_rightParen (h : LeftBySum values (.paren :: pending) x s) :
    s.step lookup .rightParen = (Stacks.mk values pending).pushValue x := by
  rw [Stacks.step, h.applyIf (clear_paren _ _)]
  change (Stacks.mk (x :: values) pending).applyIf Operator.isMultiplicative = _
  have htop (values : List Float) :
      (Stacks.mk values pending).topOperator? Operator.isMultiplicative =
        (Stacks.mk [] pending).topOperator? Operator.isMultiplicative := rfl
  rw [Stacks.applyIf, Stacks.pushValue, htop, htop values]
  cases (Stacks.mk [] pending).topOperator? Operator.isMultiplicative <;> rfl

lemma LeftBySum.result (h : LeftBySum [] [] x s) : s.result = .ok x := by
  cases h with
  | value => rfl
  | @deferred x y op hop =>
    have happly := (@LeftBySum.deferred [] [] x y op hop).applyIf (clear_nil _)
    simp [Stacks.result, happly]

end Steps

/-- What running the tokens does to any stacks and before any other tokens, if `result` is what they
are worth. -/
def Runs (lookup : String → Option Float) (ts : List Token) (result : Except Fault Float) :
    Level → Prop
  | .factor => ∀ s rest, run lookup s (ts ++ rest) =
      result.bind fun x => (s.pushValue x).bind fun s => run lookup s rest
  | .product => ∀ values pending rest, Clear Operator.isMultiplicative pending →
      run lookup ⟨values, pending⟩ (ts ++ rest) =
        result.bind fun x => run lookup ⟨x :: values, pending⟩ rest
  | .sum => ∀ values pending rest, Clear Operator.isMultiplicative pending →
      Clear Operator.isAdditive pending →
      (∃ fault, result = .error fault ∧
        run lookup ⟨values, pending⟩ (ts ++ rest) = .error fault) ∨
      ∃ x s, result = .ok x ∧ LeftBySum values pending x s ∧
        run lookup ⟨values, pending⟩ (ts ++ rest) = run lookup s rest

section Runs

variable {ts us : List Token} {ra rb : Except Fault Float} {op : Operator}

lemma runs_number (literal : String) (x : Float) :
    Runs lookup [.number literal x] (.ok x) .factor := by
  intro s rest
  exact run_cons s (.number literal x) rest

lemma runs_variable (name : String) :
    Runs lookup [.variable name] ((Expr.variable name).eval lookup) .factor := by
  intro s rest
  rw [List.singleton_append, run_cons, Stacks.step, Expr.eval]
  cases lookup name <;> rfl

lemma runs_paren (h : Runs lookup ts ra .sum) :
    Runs lookup (.leftParen :: ts ++ [.rightParen]) ra .factor := by
  intro s rest
  have hopen : run lookup s (.leftParen :: ts ++ [.rightParen] ++ rest) =
      run lookup ⟨s.values, .paren :: s.pending⟩ (ts ++ .rightParen :: rest) := by
    rw [List.append_assoc, List.cons_append, run_cons]
    rfl
  rw [hopen]
  rcases h s.values (.paren :: s.pending) (.rightParen :: rest) (clear_paren _ _)
    (clear_paren _ _) with ⟨fault, rfl, hrun⟩ | ⟨x, s', rfl, hleft, hrun⟩
  · exact hrun
  · rw [hrun, run_cons, hleft.step_rightParen]
    rfl

lemma runs_product_of_factor (h : Runs lookup ts ra .factor) : Runs lookup ts ra .product := by
  intro values pending rest hp
  rw [h]
  apply congrArg ra.bind
  funext x
  rw [pushValue_of_clear hp]
  rfl

lemma runs_times (ha : Runs lookup ts ra .product) (hop : op.isMultiplicative = true)
    (hb : Runs lookup us rb .factor) : Runs lookup (ts ++ .operator op :: us)
      (ra.bind fun x => rb.bind fun y => op.combine x y) .product := by
  intro values pending rest hp
  rw [List.append_assoc, ha values pending _ hp]
  cases ra with
  | error => rfl
  | ok x =>
    change run lookup ⟨x :: values, pending⟩ (.operator op :: (us ++ rest)) = _
    rw [run_cons, step_multiplicative hop]
    change run lookup ⟨x :: values, .operator op :: pending⟩ (us ++ rest) = _
    rw [hb]
    cases rb with
    | error => rfl
    | ok y =>
      change ((Stacks.mk (x :: values) (.operator op :: pending)).pushValue y).bind _ = _
      rw [pushValue_operator hop]
      change _ = (op.combine x y).bind _
      cases op.combine x y <;> rfl

lemma runs_sum_of_product (h : Runs lookup ts ra .product) : Runs lookup ts ra .sum := by
  intro values pending rest hp _
  have hrun := h values pending rest hp
  cases ra with
  | error fault => exact Or.inl ⟨fault, rfl, hrun⟩
  | ok x => exact Or.inr ⟨x, _, rfl, .value x, hrun⟩

lemma runs_plus (ha : Runs lookup ts ra .sum) (hop : op.isAdditive = true)
    (hb : Runs lookup us rb .product) : Runs lookup (ts ++ .operator op :: us)
      (ra.bind fun x => rb.bind fun y => op.combine x y) .sum := by
  intro values pending rest hp hp'
  rw [List.append_assoc]
  rcases ha values pending (.operator op :: us ++ rest) hp hp' with
    ⟨fault, rfl, hrun⟩ | ⟨x, s, rfl, hleft, hrun⟩
  · exact Or.inl ⟨fault, rfl, hrun⟩
  · rw [hrun, List.cons_append, run_cons, hleft.step_operator hp' hop]
    have hrun' := hb (x :: values) (.operator op :: pending) rest
      (clear_operator (Operator.isMultiplicative_eq_false hop) pending)
    cases rb with
    | error fault => exact Or.inl ⟨fault, rfl, hrun'⟩
    | ok y =>
      refine Or.inr ⟨op.apply x y, _, ?_, .deferred x y hop, hrun'⟩
      exact Operator.combine_of_isAdditive hop x y

lemma runs_of_derives {level : Level} {e : Expr} (h : Derives level ts e) :
    Runs lookup ts (e.eval lookup) level := by
  induction h with
  | number literal x => exact runs_number literal x
  | «variable» name => exact runs_variable name
  | paren _ ih => exact runs_paren ih
  | factor _ ih => exact runs_product_of_factor ih
  | times _ hop _ iha ihb =>
    rw [Expr.eval_binary]
    exact runs_times iha (Operator.isMultiplicative_iff.mpr hop) ihb
  | product _ ih => exact runs_sum_of_product ih
  | plus _ hop _ iha ihb =>
    rw [Expr.eval_binary]
    exact runs_plus iha (Operator.isAdditive_iff.mpr hop) ihb

end Runs

end Evaluation

lemma evaluateTokens_of_derives {ts : List Token} {e : Expr} (h : Derives .sum ts e)
    (lookup : String → Option Float) : evaluateTokens lookup ts = e.eval lookup := by
  rw [evaluateTokens, if_neg (by simpa using h.ne_nil), ← List.append_nil ts]
  rcases Evaluation.runs_of_derives h [] [] [] (Evaluation.clear_nil _) (Evaluation.clear_nil _)
    with ⟨fault, heval, hrun⟩ | ⟨x, s, heval, hleft, hrun⟩
  · rw [heval]
    exact hrun
  · rw [heval, ← hleft.result]
    exact hrun

theorem Formula.evaluate_eq_eval (f : Formula) : ∃ e, Derives .sum f.tokens e ∧
    (∀ e', Derives .sum f.tokens e' → e' = e) ∧
    ∀ lookup, f.evaluate lookup = e.eval lookup ∧ f.evaluate lookup ≠ .error .malformed ∧
      f.evaluate lookup ≠ .error .emptyExpression := by
  obtain ⟨e, h⟩ := check_eq_ok_iff.mp f.valid
  refine ⟨e, h, fun e' h' => h'.unique h, fun lookup => ?_⟩
  have heval : f.evaluate lookup = e.eval lookup := evaluateTokens_of_derives h lookup
  refine ⟨heval, fun hfault => ?_, fun hfault => ?_⟩
  · rcases Expr.fault_of_eval (heval.symm.trans hfault) with hf | ⟨name, -, hf⟩ <;> cases hf
  · rcases Expr.fault_of_eval (heval.symm.trans hfault) with hf | ⟨name, -, hf⟩ <;> cases hf

end Spreadsheet
