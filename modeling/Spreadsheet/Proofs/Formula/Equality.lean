import Mathlib
import Spreadsheet.Proofs.Formula.Renamed

/-! Equality of formulas. Only the spelling of numbers is left out of it, and nothing that is done
with a formula depends on that spelling. -/

namespace Spreadsheet

namespace Token

def bare : Token → Token
  | .number _ value => .number "" value
  | t => t

variable {t u : Token}

lemma Readable.beq_iff (ht : Readable some t) (hu : Readable some u) :
    (t == u) = true ↔ t.bare = u.bare := by
  -- the number of a literal equals no other number, so that equality is that of the bare tokens
  cases t with
  | number _ x =>
    cases u with
    | number _ y =>
      change (x == y) = true ↔ _
      constructor
      · intro h
        rw [Decimal.eq_of_beq_of_toBits_le ht.toBits_le hu.toBits_le h, bare, bare]
      · intro h
        obtain rfl := (number.inj h).2
        exact Float.beq_self_iff.mpr (Decimal.ne_nan_of_toBits_le ht.toBits_le)
    | _ => simp [BEq.beq, beq, bare]
  | _ => cases u <;> simp [BEq.beq, beq, bare]

lemma hash_bare (t : Token) : hash t.bare = hash t := by
  cases t <;> rfl

lemma reference?_bare (t : Token) : t.bare.reference? = t.reference? := by
  cases t <;> rfl

lemma bare_rename (σ : String → String) (t : Token) : (t.rename σ).bare = t.bare.rename σ := by
  cases t <;> rfl

end Token

section Lists

variable {ts us : List Token}

lemma Token.beq_iff_of_readable (hts : ∀ t ∈ ts, Readable some t)
    (hus : ∀ u ∈ us, Readable some u) : (ts == us) = true ↔ ts.map bare = us.map bare := by
  induction ts generalizing us with
  | nil => cases us <;> simp
  | cons t ts ih =>
    cases us with
    | nil => simp
    | cons u us =>
      obtain ⟨ht, hts⟩ := List.forall_mem_cons.mp hts
      obtain ⟨hu, hus⟩ := List.forall_mem_cons.mp hus
      rw [List.cons_beq_cons, Bool.and_eq_true, ht.beq_iff hu, ih hts hus, List.map_cons,
        List.map_cons, List.cons.injEq]

lemma Token.hash_map_bare (ts : List Token) : hash (ts.map bare) = hash ts := by
  change (ts.map bare).foldl _ _ = ts.foldl _ _
  rw [List.foldl_map]
  simp only [hash_bare]

lemma Token.filterMap_map_bare (ts : List Token) :
    (ts.map bare).filterMap reference? = ts.filterMap reference? := by
  rw [List.filterMap_map]
  exact List.filterMap_congr fun t _ => reference?_bare t

lemma Evaluation.Stacks.step_bare (lookup : String → Option Float) (s : Stacks) (t : Token) :
    s.step lookup t.bare = s.step lookup t := by
  cases t <;> rfl

lemma Evaluation.run_map_bare (lookup : String → Option Float) (s : Stacks) (ts : List Token) :
    run lookup s (ts.map Token.bare) = run lookup s ts := by
  induction ts generalizing s with
  | nil => rfl
  | cons t ts ih => simp only [List.map_cons, run, s.step_bare lookup t, ih]

lemma evaluateTokens_map_bare (lookup : String → Option Float) (ts : List Token) :
    evaluateTokens lookup (ts.map Token.bare) = evaluateTokens lookup ts := by
  rw [evaluateTokens, evaluateTokens, Evaluation.run_map_bare, List.isEmpty_map]

end Lists

namespace Formula

variable {f g h : Formula}

structure Alike (f g : Formula) : Prop where
  hash : Hashable.hash f = Hashable.hash g
  variableNames : f.variableNames = g.variableNames
  evaluate (lookup : String → Option Float) : f.evaluate lookup = g.evaluate lookup
  reparsed : ∃ f' g', parse f.canonical = .ok f' ∧ parse g.canonical = .ok g' ∧
    (f' == g) = true ∧ (f == g') = true ∧ (f' == g') = true
  resolved (rules : NameRules) {f' : Formula} (h : parseWithRules rules f.canonical = .ok f') :
    ∃ g', parseWithRules rules g.canonical = .ok g' ∧ (f' == g') = true

lemma Parsed.beq_iff (hf : f.Parsed) (hg : g.Parsed) :
    (f == g) = true ↔ f.tokens.map Token.bare = g.tokens.map Token.bare :=
  Token.beq_iff_of_readable hf.readable hg.readable

lemma Parsed.congr_of_beq {α : Type} (hf : f.Parsed) (hg : g.Parsed) (h : (f == g) = true)
    {φ : List Token → α} (hφ : ∀ ts, φ (ts.map Token.bare) = φ ts) :
    φ f.tokens = φ g.tokens := by
  rw [← hφ f.tokens, ← hφ g.tokens, (hf.beq_iff hg).mp h]

lemma Parsed.parseWithRules_canonical_iff (hf : f.Parsed) {rules : NameRules} {f' : Formula} :
    parseWithRules rules f.canonical = .ok f' ↔
      (∀ name ∈ f.variableNames, (rules.resolve name).isSome = true) ∧
      f.rename (renamed rules.resolve) = f' := by
  rw [parseWithRules, parseWith_eq_rename_iff]
  constructor
  · rintro ⟨f₀, hf₀, h⟩
    obtain rfl := Except.ok.inj (hf.parse_canonical.symm.trans hf₀)
    exact h
  · intro h
    exact ⟨f, hf.parse_canonical, h⟩

lemma Parsed.alike_of_beq (hf : f.Parsed) (hg : g.Parsed) (h : (f == g) = true) : Alike f g := by
  have hnames : f.variableNames = g.variableNames :=
    congrArg List.eraseDups (hf.congr_of_beq hg h Token.filterMap_map_bare)
  refine ⟨hf.congr_of_beq hg h Token.hash_map_bare, hnames,
    fun lookup => hf.congr_of_beq hg h (evaluateTokens_map_bare lookup),
    ⟨f, g, hf.parse_canonical, hg.parse_canonical, h, h, h⟩, fun rules f' hf' => ?_⟩
  obtain ⟨hresolved, rfl⟩ := hf.parseWithRules_canonical_iff.mp hf'
  have hg' : parseWithRules rules g.canonical = .ok (g.rename (renamed rules.resolve)) :=
    hg.parseWithRules_canonical_iff.mpr ⟨hnames ▸ hresolved, rfl⟩
  refine ⟨_, hg', (Parsed.beq_iff (Or.inr ⟨_, _, hf'⟩) (Or.inr ⟨_, _, hg'⟩)).mpr ?_⟩
  have hmap (k : Formula) : (k.rename (renamed rules.resolve)).tokens.map Token.bare =
      (k.tokens.map Token.bare).map (Token.rename (renamed rules.resolve)) := by
    rw [rename, List.map_map, List.map_map]
    exact List.map_congr_left fun t _ => Token.bare_rename _ t
  rw [hmap, hmap, (hf.beq_iff hg).mp h]

theorem beq_congruence :
    Equivalence (fun f g : {f : Formula // f.Parsed} => (f.val == g.val) = true) ∧
    ∀ f g : Formula, f.Parsed → g.Parsed → (f == g) = true → Alike f g := by
  refine ⟨⟨fun f => ?_, fun {f g} hfg => ?_, fun {f g h} hfg hgh => ?_⟩,
    fun f g hf hg h => hf.alike_of_beq hg h⟩
  · exact (f.2.beq_iff f.2).mpr rfl
  · exact (g.2.beq_iff f.2).mpr ((f.2.beq_iff g.2).mp hfg).symm
  · exact (f.2.beq_iff h.2).mpr (((f.2.beq_iff g.2).mp hfg).trans ((g.2.beq_iff h.2).mp hgh))

theorem beq_congruence_of_two_spellings :
    ∃ f g, parse "2.0+x7" = .ok f ∧ parse "0.2e1 + x7" = .ok g ∧ f.canonical ≠ g.canonical ∧
      (f == g) = true ∧ Alike f g := by
  have hparse : ((parse "2.0+x7").bind fun f => (parse "0.2e1 + x7").map fun g =>
      (decide (f.canonical = g.canonical), f == g)) = .ok (false, true) := by decide +kernel
  obtain ⟨f, hf, hrest⟩ := Except.bind_eq_ok_iff.mp hparse
  obtain ⟨g, hg, hfg⟩ := Except.map_eq_ok_iff.mp hrest
  obtain ⟨hne, heq⟩ := Prod.mk.inj hfg
  exact ⟨f, g, hf, hg, of_decide_eq_false hne, heq,
    beq_congruence.2 f g (Or.inl ⟨_, hf⟩) (Or.inl ⟨_, hg⟩) heq⟩

end Formula

end Spreadsheet
