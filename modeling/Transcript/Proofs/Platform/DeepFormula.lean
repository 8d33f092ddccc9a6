import Transcript.Platform.Builtin
import Transcript.Proofs.Formula.Nesting
import Transcript.Proofs.Platform.Chain

/-!
# Formulas that are nested too deeply

A strategy that fails only declines: the recovery of a formula comes to the same result as with a
strategy in its place that has nothing to offer, and at most one report is added. So a formula whose
presentation markup is nested too deeply is still recovered from its other sources.

## Main definitions

- `Traced.WithReport`: the same outcome, with at most one report more
- `Traced.orKept`: a search, with something else where it ends without a candidate
- `Adapter.declining`: the adapter with one strategy that has nothing to offer

## Main results

- `Adapter.extractLatex_of_failing`: a failing strategy only declines
- `Formula.latexOfMathMl_nesting`: the limit on nesting is exact, and is felt by one strategy only
-/

namespace Transcript

open Markup Formula

/-! ## Failing and declining -/

/-- Two results of which the second has the outcome of the first, and its reports with at most one
more among them. -/
def Traced.WithReport {α : Type} (report : Diagnostic) (t u : Traced α) : Prop :=
  u.outcome = t.outcome ∧
    (u.trace = t.trace ∨
      ∃ first last, t.trace = first ++ last ∧ u.trace = first ++ report :: last)

theorem Traced.WithReport.refl {α : Type} (report : Diagnostic) (t : Traced α) :
    t.WithReport report t :=
  ⟨rfl, .inl rfl⟩

/-- Reports in front of both results make no difference. -/
theorem Traced.WithReport.after {α : Type} {report : Diagnostic} {t u : Traced α}
    (h : t.WithReport report u) (reports : List Diagnostic) :
    (Traced.after reports t).WithReport report (Traced.after reports u) := by
  obtain ⟨houtcome, hsame | ⟨first, last, ht, hu⟩⟩ := h
  · exact ⟨houtcome, .inl (congrArg (reports ++ ·) hsame)⟩
  · exact ⟨houtcome, .inr ⟨reports ++ first, last, by simp [Traced.after, ht],
      by simp [Traced.after, hu]⟩⟩

/-- A search, with something else in its place where it ends without a candidate. -/
def Traced.orKept {α : Type} (found kept : Traced (Option α)) : Traced (Option α) :=
  match found.outcome with
  | .ok none => Traced.after found.trace kept
  | _ => found

/-- Keeping the same thing in place of a candidate leaves the difference of one report. -/
theorem Traced.WithReport.orKept {α : Type} {report : Diagnostic} {t u : Traced (Option α)}
    (h : t.WithReport report u) (kept : Traced (Option α)) :
    (t.orKept kept).WithReport report (u.orKept kept) := by
  obtain ⟨houtcome, htrace⟩ := h
  unfold Traced.orKept
  rw [houtcome]
  split
  · refine ⟨rfl, ?_⟩
    rcases htrace with hsame | ⟨first, last, ht, hu⟩
    · exact .inl (congrArg (· ++ kept.trace) hsame)
    · exact .inr ⟨first, last ++ kept.trace, by simp [Traced.after, ht], by simp [Traced.after, hu]⟩
  · exact ⟨houtcome, htrace⟩

namespace Adapter

variable {a : Adapter} {c : Cursor}

/-- The adapter with a strategy for `source` that has nothing to offer. -/
def declining (a : Adapter) (source : LatexSource) : Adapter :=
  a.withStrategies [source] fun _ _ => .ok none

/-- Trying a list of strategies does not depend on what the adapter would try by itself. -/
theorem firstAcceptable_withStrategies (sources : List LatexSource)
    (other : LatexSource → LatexStrategy) (list : List (LatexSource × LatexStrategy)) :
    (a.withStrategies sources other).firstAcceptable c list = a.firstAcceptable c list := by
  induction list with
  | nil => rfl
  | cons entry rest ih =>
    obtain ⟨source, strategy⟩ := entry
    simp only [firstAcceptable, ih]
    rfl

/-- In a list of strategies, one that fails on the node may as well decline, but for its report. -/
theorem firstAcceptable_of_failing (source : LatexSource) {strategy : LatexStrategy} {fault : Fault}
    (hfails : strategy c = .error fault) (before rest : List (LatexSource × LatexStrategy)) :
    (a.firstAcceptable c (before ++ (source, fun _ => .ok none) :: rest)).WithReport
      (a.strategyFailed source fault)
      (a.firstAcceptable c (before ++ (source, strategy) :: rest)) := by
  induction before with
  | nil =>
    simp only [List.nil_append, firstAcceptable, hfails]
    exact ⟨rfl, .inr ⟨[], _, rfl, rfl⟩⟩
  -- An earlier strategy settles the result, or leaves it to the others, in both cases alike.
  | cons entry before ih =>
    obtain ⟨earlier, offer⟩ := entry
    simp only [List.cons_append, firstAcceptable]
    cases offer c with
    | error other => exact ih.after _
    | ok found =>
      cases found with
      | none => exact ih
      | some result =>
        dsimp only
        cases a.validateLatex result.latex with
        | error other => exact .refl _ _
        | ok accepted =>
          cases accepted with
          | true => exact .refl _ _
          | false => exact ih

/-- The recovery is the search among the strategies, with what is kept where the search ends without
a candidate. -/
theorem extractLatex_eq (hextract : a.overrides.extractLatex = none)
    (hstrategies : a.overrides.strategies = none) (helement : c.node.isElement = true) :
    a.extractLatex c = (a.firstAcceptable c (a.entries chain)).orKept
      ⟨(a.markupFallback c).outcome.map some, (a.markupFallback c).trace⟩ := by
  have hentries : a.strategies = .ok (a.entries chain) := by
    simp [strategies, hstrategies, entries]
  simp only [extractLatex, hextract, helement, if_true, hentries, Traced.orKept]
  -- Three ways for the search to end, and one of them leaves it to what is kept.
  cases (a.firstAcceptable c (a.entries chain)).outcome with
  | error fault => rfl
  | ok found =>
    cases found with
    | none => rfl
    | some result => rfl

/-- The strategies of the declining adapter are those of the adapter, but for the one that has
nothing to offer. -/
theorem entries_declining {source : LatexSource} {before behind : List LatexSource}
    (hnodup : (before ++ source :: behind).Nodup) :
    (a.declining source).entries (before ++ source :: behind) =
      a.entries before ++ (source, fun _ => .ok none) :: a.entries behind := by
  obtain ⟨-, hlast, hapart⟩ := List.nodup_append.mp hnodup
  have hsame : ∀ other, other ≠ source → (a.declining source).strategy other = a.strategy other :=
    fun other hother => strategy_withStrategies (by simpa using hother)
  have hbefore : (a.declining source).entries before = a.entries before :=
    List.map_congr_left fun other hother => by
      rw [hsame other (hapart other hother source List.mem_cons_self)]
  have hbehind : (a.declining source).entries behind = a.entries behind :=
    List.map_congr_left fun other hother => by
      rw [hsame other fun heq => (List.nodup_cons.mp hlast).1 (heq ▸ hother)]
  have hsource : (a.declining source).strategy source = fun _ => .ok none := by
    simp [strategy, declining, withStrategies]
  rw [entries, List.map_append, List.map_cons, hsource]
  exact congrArg₂ (fun first last => first ++ (source, fun _ => .ok none) :: last) hbefore hbehind

/-- A strategy that fails on a node may as well decline: the recovery has the same outcome, and its
reports but for the one on the failure. -/
theorem extractLatex_of_failing {source : LatexSource} {fault : Fault}
    (hextract : a.overrides.extractLatex = none) (hstrategies : a.overrides.strategies = none)
    (hsource : source ∈ chain) (hfails : a.strategy source c = .error fault) :
    ((a.declining source).extractLatex c).WithReport (a.strategyFailed source fault)
      (a.extractLatex c) := by
  cases helement : c.node.isElement with
  -- Only elements are looked at.
  | false =>
    have hnothing : (a.declining source).extractLatex c = a.extractLatex c := by
      simp [extractLatex, declining, withStrategies, hextract, helement]
    rw [hnothing]
    exact .refl _ _
  | true =>
    obtain ⟨before, behind, horder⟩ := List.append_of_mem hsource
    have hentries : a.entries chain =
        a.entries before ++ (source, a.strategy source) :: a.entries behind := by
      simp [entries, horder]
    have hdeclining : (a.declining source).entries chain =
        a.entries before ++ (source, fun _ => .ok none) :: a.entries behind := by
      rw [horder]
      exact entries_declining (horder ▸ nodup_chain)
    -- The search is the same, and so is what is kept where it ends without a candidate.
    have hsearch := firstAcceptable_of_failing (a := a) source hfails (a.entries before)
      (a.entries behind)
    rw [extractLatex_eq hextract hstrategies helement,
      extractLatex_eq (a := a.declining source) hextract hstrategies helement, hentries, hdeclining,
      declining, firstAcceptable_withStrategies]
    exact hsearch.orKept _

end Adapter

/-! ## Deep formulas -/

namespace Formula

/-- The limit on nesting is exact. The conversion of a formula fails if and only if it reaches an
element one level beyond the limit; otherwise it comes to a text, and no call of it goes deeper than
that level. If the limit is negative, that level is the start. In the recovery of a formula the
strategy that reads presentation markup only declines for it: the outcome is the same as if it had
nothing to offer, and the failure adds one report at most. -/
theorem latexOfMathMl_nesting (limit : Int) (start : Node) :
    (latexOfMathMl limit start = .error (nestingFault limit) ↔
        ∃ deep, ReachedAt start (limit + 1).toNat deep) ∧
      ((¬∃ deep, ReachedAt start (limit + 1).toNat deep) →
        ∃ latex, latexOfMathMl limit start = .ok latex) ∧
      (loggedNode limit 0 start).1.map Text.trim = latexOfMathMl limit start ∧
      (∀ call ∈ (loggedNode limit 0 start).2,
        call.1 ≤ (limit + 1).toNat ∧ ReachedAt start call.1 call.2) ∧
      ∀ (a : Adapter) (c formula : Cursor), a.overrides.extractLatex = none →
        a.overrides.strategies = none → a.overrides.strategy .mathMl = none →
        (if c.node.tagName == "math" then some c else c.find? ["math"]) = some formula →
        (∃ deep, ReachedAt formula.node (defaultMaxNesting + 1) deep) →
        ((a.declining .mathMl).extractLatex c).WithReport
          (a.strategyFailed .mathMl (nestingFault defaultMaxNesting)) (a.extractLatex c) := by
  refine ⟨latexOfMathMl_eq_error_iff, exists_latexOfMathMl_eq, ?_, fun call hcall => ?_, ?_⟩
  · rw [loggedNode_fst, latexOfMathMl]
  · obtain ⟨levels, hdepth, hlevels, hreached⟩ := mem_loggedNode hcall
    obtain rfl : call.1 = levels := by omega
    exact ⟨by simpa using hlevels, hreached⟩
  · intro a c formula hextract hstrategies hstrategy hformula hdeep
    apply Adapter.extractLatex_of_failing hextract hstrategies
    · exact List.mem_of_getElem? (i := 3) rfl
    · have hfault : latexOfMathMl defaultMaxNesting formula.node =
          .error (nestingFault defaultMaxNesting) :=
        latexOfMathMl_eq_error_iff.mpr (by simpa using hdeep)
      rw [Adapter.strategy, hstrategy]
      simp only [Adapter.fromMathMl, hformula, hfault]

/-- Rows within each other, and an identifier at the bottom. -/
def nestedRows : Nat → Node
  | 0 => .element "mi" [] [.leaf .plain "x"]
  | depth + 1 => .element "mrow" [] [nestedRows depth]

theorem isElement_nestedRows (depth : Nat) : (nestedRows depth).isElement = true := by
  cases depth with
  | zero => rfl
  | succ depth => rfl

/-- What a row or a whole formula with one element in it goes on to. -/
theorem mem_reachedFrom_nestedRows {name : String} (hname : name = "mrow" ∨ name = "math")
    (depth : Nat) : nestedRows depth ∈ reachedFrom (.element name [] [nestedRows depth]) := by
  have hchildren : nestedRows depth ∈ elementChildren (.element name [] [nestedRows depth]) :=
    List.mem_filter.mpr ⟨List.mem_singleton.mpr rfl, isElement_nestedRows depth⟩
  have hlower : Text.lower name = name := by rcases hname with rfl | rfl <;> decide
  have hshape : shapeOf name = .group id := by rcases hname with rfl | rfl <;> rfl
  rw [reachedFrom_eq, Node.tagName, Node.name, hlower, hshape]
  exact hchildren

theorem exists_reachedAt_nestedRows (depth : Nat) :
    ∃ deep, ReachedAt (nestedRows depth) depth deep := by
  induction depth with
  | zero => exact ⟨_, .start⟩
  | succ depth ih =>
    obtain ⟨deep, hdeep⟩ := ih
    exact ⟨deep, reachedAt_succ_iff.mpr ⟨_, mem_reachedFrom_nestedRows (.inl rfl) depth, hdeep⟩⟩

/-- A formula with so many rows within each other. -/
def formulaOfRows (depth : Nat) : Cursor :=
  Cursor.root 0 (.element "math" [] [nestedRows depth])

/-- The limit is felt at the identifier, and a formula of very many rows is recovered from its
text. -/
theorem latexOfMathMl_nesting_rows :
    latexOfMathMl 1 (nestedRows 2) = .error (nestingFault 1) ∧
      latexOfMathMl 2 (nestedRows 2) = .ok "x" ∧
      ((Adapter.generic.declining .mathMl).extractLatex (formulaOfRows 64)).WithReport
        (Adapter.generic.strategyFailed .mathMl (nestingFault defaultMaxNesting))
        (Adapter.generic.extractLatex (formulaOfRows 64)) ∧
      (Adapter.generic.extractLatex (formulaOfRows 64)).outcome.toOption.join =
        some ⟨"x", false, .text⟩ := by
  refine ⟨?_, rfl, ?_, by decide +kernel⟩
  · exact (latexOfMathMl_nesting 1 (nestedRows 2)).1.mpr (exists_reachedAt_nestedRows 2)
  · obtain ⟨deep, hdeep⟩ := exists_reachedAt_nestedRows 64
    have hrows : nestedRows 64 ∈ reachedFrom (formulaOfRows 64).node :=
      mem_reachedFrom_nestedRows (.inr rfl) 64
    exact (latexOfMathMl_nesting defaultMaxNesting (formulaOfRows 64).node).2.2.2.2 .generic
      (formulaOfRows 64) (formulaOfRows 64) rfl rfl rfl rfl
      ⟨deep, reachedAt_succ_iff.mpr ⟨_, hrows, hdeep⟩⟩

end Formula

end Transcript
