import Spreadsheet.CommandLine.Session
import Spreadsheet.Proofs.Sheet.Reachable

namespace Spreadsheet

namespace Sheet

def afterEdit (s : Sheet) : Edit → Sheet
  | .set name content => (s.set name content).2
  | .check name content => (s.check name content).2

def afterEdits (s : Sheet) (edits : List Edit) : Sheet := edits.foldl afterEdit s

lemma afterEdits_append (s : Sheet) (done rest : List Edit) :
    s.afterEdits (done ++ rest) = (s.afterEdits done).afterEdits rest := List.foldl_append

section Reachable

variable {rules : NameRules} {version : String} {s : Sheet} (h : Reachable rules version s)
include h

lemma Reachable.afterEdit (edit : Edit) : Reachable rules version (s.afterEdit edit) := by
  cases edit with
  | set name content => exact h.set name content
  | check name content => exact h.check name content

lemma Reachable.afterEdits (edits : List Edit) : Reachable rules version (s.afterEdits edits) := by
  induction edits generalizing s with
  | nil => exact h
  | cons edit edits ih => exact ih (h.afterEdit edit)

end Reachable

end Sheet

namespace Session

def setLine (order : List String) : String :=
  order.headD "" ++ ": recalculated " ++ String.intercalate ", " order

def outcomeLine (name : String) : Except EditError Unit → String
  | .ok () => "check " ++ name ++ ": ok"
  | .error e => "check " ++ name ++ ": " ++ e.message

def setAnswer (name : String) : Except EditError (List String) → Except Failure String
  | .ok order => .ok (setLine order)
  | .error e => .error (.cannotSet name e)

def answer (s : Sheet) : Edit → Except Failure String
  | .set name content => setAnswer name (s.set name content).1
  | .check name content => .ok (outcomeLine name (s.check name content).1)

def answers (s : Sheet) : List Edit → List (Except Failure String)
  | [] => []
  | edit :: edits => answer s edit :: answers (s.afterEdit edit) edits

variable {s : Sheet} {edit : Edit} {done rest edits : List Edit} {line : String}
  {lines : List String}

lemma answer_set {name content : String} {order : List String}
    (h : (s.set name content).1 = .ok order) :
    answer s (.set name content) = .ok (setLine order) := by
  rw [answer, h, setAnswer]

lemma answer_set_of_error {name content : String} {e : EditError}
    (h : (s.set name content).1 = .error e) :
    answer s (.set name content) = .error (.cannotSet name e) := by
  rw [answer, h, setAnswer]

lemma answer_eq_error {failure : Failure} (h : answer s edit = .error failure) :
    ∃ name content e, edit = .set name content ∧ (s.set name content).1 = .error e ∧
      failure = .cannotSet name e := by
  cases edit with
  | set name content =>
    cases hset : (s.set name content).1 with
    | error e =>
      have hfailure := Except.error.inj (h.symm.trans (answer_set_of_error hset))
      exact ⟨name, content, e, rfl, hset, hfailure⟩
    | ok order => cases h.symm.trans (answer_set hset)
  | check name content => cases h

lemma applyEdits_set (s : Sheet) (name content : String) (edits : List Edit) :
    applyEdits s (.set name content :: edits) =
      match s.set name content with
      | (.ok order, t) => (orderLine order :: (applyEdits t edits).1, (applyEdits t edits).2)
      | (.error e, _) => ([], .error (.cannotSet name e)) := by
  rfl

lemma applyEdits_cons_of_ok (h : answer s edit = .ok line) (rest : List Edit) :
    applyEdits s (edit :: rest) =
      (line :: (applyEdits (s.afterEdit edit) rest).1,
        (applyEdits (s.afterEdit edit) rest).2) := by
  cases edit with
  | set name content =>
    rw [answer] at h
    rw [applyEdits_set, Sheet.afterEdit]
    cases hset : s.set name content with
    | mk result t =>
      rw [hset] at h
      cases result with
      | error e => cases h
      | ok order =>
        obtain rfl := Except.ok.inj h
        rfl
  | check name content =>
    obtain rfl := Except.ok.inj h
    rfl

lemma applyEdits_cons_of_error {failure : Failure} (h : answer s edit = .error failure)
    (rest : List Edit) : applyEdits s (edit :: rest) = ([], .error failure) := by
  obtain ⟨name, content, e, rfl, he, rfl⟩ := answer_eq_error h
  rw [applyEdits_set]
  cases hset : s.set name content with
  | mk result t =>
    rw [hset] at he
    obtain rfl : result = .error e := he
    rfl

lemma applyEdits_append (h : answers s done = lines.map .ok) (rest : List Edit) :
    applyEdits s (done ++ rest) =
      (lines ++ (applyEdits (s.afterEdits done) rest).1,
        (applyEdits (s.afterEdits done) rest).2) := by
  induction done generalizing s lines with
  | nil =>
    obtain rfl := List.map_eq_nil_iff.mp h.symm
    rfl
  | cons edit done ih =>
    cases lines with
    | nil => cases h
    | cons line lines =>
      obtain ⟨hline, hlines⟩ := List.cons_eq_cons.mp h
      rw [List.cons_append, applyEdits_cons_of_ok hline, ih hlines]
      rfl

lemma applyEdits_of_accepted (h : answers s edits = lines.map .ok) :
    applyEdits s edits = (lines, .ok (s.afterEdits edits)) := by
  have hnil : applyEdits (s.afterEdits edits) [] = ([], .ok (s.afterEdits edits)) := rfl
  rw [← List.append_nil edits, applyEdits_append h, hnil, List.append_nil, List.append_nil]

lemma applyEdits_of_rejected {name content : String} {e : EditError}
    (h : answers s done = lines.map .ok)
    (he : ((s.afterEdits done).set name content).1 = .error e) :
    applyEdits s (done ++ .set name content :: rest) = (lines, .error (.cannotSet name e)) := by
  rw [applyEdits_append h, applyEdits_cons_of_error (answer_set_of_error he), List.append_nil]

lemma accepted_or_rejected (s : Sheet) (edits : List Edit) :
    (∃ lines : List String, answers s edits = lines.map .ok) ∨
      ∃ (done rest : List Edit) (name content : String) (lines : List String) (e : EditError),
        edits = done ++ .set name content :: rest ∧ answers s done = lines.map .ok ∧
          ((s.afterEdits done).set name content).1 = .error e := by
  induction edits generalizing s with
  | nil => exact Or.inl ⟨[], rfl⟩
  | cons edit edits ih =>
    cases hedit : answer s edit with
    | error failure =>
      obtain ⟨name, content, e, rfl, he, -⟩ := answer_eq_error hedit
      exact Or.inr ⟨[], edits, name, content, [], e, rfl, rfl, he⟩
    | ok line =>
      rcases ih (s.afterEdit edit) with ⟨lines, hlines⟩ | ⟨done, rest, n, c, lines, e, rfl, hd, he⟩
      · refine Or.inl ⟨line :: lines, ?_⟩
        rw [answers, hedit, hlines, List.map_cons]
      · refine Or.inr ⟨edit :: done, rest, n, c, line :: lines, e, rfl, ?_, he⟩
        rw [answers, hedit, hd, List.map_cons]

end Session

end Spreadsheet
