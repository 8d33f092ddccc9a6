import Transcript.Platform.Extraction

/-!
# The first acceptable candidate

The strategies for a formula are tried in a fixed order, and whatever a single one of them does, the
recovery comes to a result. A strategy *passes over* a node if it fails there, declines, or has only
a candidate that is refused. The first strategy that does not pass over the node settles the result:
the reports are those of the failures before it, and the strategies behind it are never asked. If all
of them pass over the node, its markup or its escaped text is kept, and one event tells so.

## Main definitions

- `Adapter.KeepsChain`: the adapter replaces single strategies, but not the way they are tried
- `Adapter.PassesOver`, `Adapter.failures`: strategies without an acceptable candidate
- `Adapter.FoundBy`, `Adapter.Kept`: the two ways in which a recovery ends
- `Adapter.withStrategies`: the adapter with other strategies in some places

## Main results

- `Adapter.firstAcceptable_append`: strategies that pass over a node only leave their reports
- `Adapter.validateLatex_iff`: what an adapter accepts unless it replaces the check
- `Adapter.extractLatex_first`: recovery ends in one of the two ways
-/

namespace Transcript.Adapter

open Markup Formula

variable {a : Adapter} {c : Cursor}

/-! ## Strategies that pass over a node -/

/-- The adapter may replace each single strategy, but tries the five in their order and keeps what
the others leave. -/
structure KeepsChain (a : Adapter) : Prop where
  extractLatex : a.overrides.extractLatex = none
  strategies : a.overrides.strategies = none
  markupFallback : a.overrides.markupFallback = none

/-- The strategy fails on the node, declines, or has only a candidate that is refused. -/
def PassesOver (a : Adapter) (c : Cursor) (strategy : LatexStrategy) : Prop :=
  ∀ result, strategy c = .ok (some result) → a.validateLatex result.latex = .ok false

/-- The report on a strategy if it fails on the node: one warning. -/
def failure? (a : Adapter) (c : Cursor) (entry : LatexSource × LatexStrategy) : Option Diagnostic :=
  match entry.2 c with
  | .error fault => some (a.strategyFailed entry.1 fault)
  | .ok _ => none

/-- The reports on the strategies that fail on the node, one for each, in order. -/
def failures (a : Adapter) (c : Cursor) (entries : List (LatexSource × LatexStrategy)) :
    List Diagnostic :=
  entries.filterMap (a.failure? c)

/-- The strategies of the adapter for some sources. -/
def entries (a : Adapter) (sources : List LatexSource) : List (LatexSource × LatexStrategy) :=
  sources.map fun source => (source, a.strategy source)

theorem events_failures (list : List (LatexSource × LatexStrategy)) :
    Diagnostic.events (a.failures c list) = [] := by
  simp only [Diagnostic.events, List.filterMap_eq_nil_iff, failures, List.mem_filterMap]
  rintro report ⟨entry, -, hreport⟩
  unfold failure? at hreport
  split at hreport
  · obtain rfl : a.strategyFailed entry.1 _ = report := by simpa using hreport
    rfl
  · cases hreport

/-! ## The search -/

/-- Strategies that pass over a node only leave their reports. -/
theorem firstAcceptable_append {before rest : List (LatexSource × LatexStrategy)}
    (h : ∀ entry ∈ before, a.PassesOver c entry.2) :
    a.firstAcceptable c (before ++ rest) =
      Traced.after (a.failures c before) (a.firstAcceptable c rest) := by
  induction before with
  | nil => rfl
  | cons entry before ih =>
    obtain ⟨source, strategy⟩ := entry
    have hentry : a.PassesOver c strategy := h (source, strategy) List.mem_cons_self
    have hrest := ih fun other hother => h other (List.mem_cons_of_mem _ hother)
    rw [List.cons_append, firstAcceptable]
    -- Of the three ways to pass over the node, only a failure leaves a report.
    cases hresult : strategy c with
    | error fault =>
      have hfailure : a.failure? c (source, strategy) = some (a.strategyFailed source fault) := by
        simp [failure?, hresult]
      simp [failures, hfailure, hrest, Traced.after]
    | ok found =>
      have hfailure : a.failure? c (source, strategy) = none := by simp [failure?, hresult]
      cases found with
      | none => simpa [failures, hfailure] using hrest
      | some result =>
        have hrefused := hentry result hresult
        simpa [failures, hfailure, hrefused] using hrest

theorem firstAcceptable_cons {source : LatexSource} {strategy : LatexStrategy}
    {rest : List (LatexSource × LatexStrategy)} {result : LatexResult}
    (hoffer : strategy c = .ok (some result)) (haccepted : a.validateLatex result.latex = .ok true) :
    a.firstAcceptable c ((source, strategy) :: rest) = ⟨.ok (some result), []⟩ := by
  simp [firstAcceptable, hoffer, haccepted]

theorem firstAcceptable_none {list : List (LatexSource × LatexStrategy)}
    (h : ∀ entry ∈ list, a.PassesOver c entry.2) :
    a.firstAcceptable c list = ⟨.ok none, a.failures c list⟩ := by
  have happend : a.firstAcceptable c (list ++ []) =
      Traced.after (a.failures c list) (a.firstAcceptable c []) := firstAcceptable_append h
  simpa [firstAcceptable, Traced.after] using happend

/-- If the check never fails, a strategy passes over the node or has an acceptable candidate. -/
theorem passesOver_or_accepts (hcheck : ∀ latex, ∃ accepted, a.validateLatex latex = .ok accepted)
    (strategy : LatexStrategy) :
    a.PassesOver c strategy ∨
      ∃ result, strategy c = .ok (some result) ∧ a.validateLatex result.latex = .ok true := by
  match hresult : strategy c with
  | .error _ => exact .inl fun result hother => by simp [hresult] at hother
  | .ok none => exact .inl fun result hother => by simp [hresult] at hother
  | .ok (some result) =>
    obtain ⟨accepted, haccepted⟩ := hcheck result.latex
    cases accepted with
    | true => exact .inr ⟨result, rfl, haccepted⟩
    | false =>
      refine .inl fun other hother => ?_
      obtain rfl : result = other := by simpa [hresult] using hother
      exact haccepted

/-! ## The two ways to end -/

/-- The strategy for `source` has an acceptable candidate, and those before it pass over the node. -/
structure FoundBy (a : Adapter) (c : Cursor) (before : List LatexSource) (source : LatexSource)
    (behind : List LatexSource) (result : LatexResult) : Prop where
  order : chain = before ++ source :: behind
  passed : ∀ earlier ∈ before, a.PassesOver c (a.strategy earlier)
  offer : a.strategy source c = .ok (some result)
  accepted : a.validateLatex result.latex = .ok true

/-- The markup of the node is kept, or its escaped text where the markup carries script; one event
tells so, after one warning in the second case. -/
inductive Kept (a : Adapter) (c : Cursor) : LatexResult → List Diagnostic → Prop where
  | asMarkup (isBlock : Bool) (hclean : findInjection? c.node.markup = none) :
      Kept a c ⟨c.node.markup, isBlock, .markup⟩
        [.event (Event.latexFallback a.name "markup" c.node.tagName)]
  | asEscapedText (isBlock : Bool) (mark : String)
      (hmark : findInjection? c.node.markup = some mark) :
      Kept a c ⟨encode c.node.flatText, isBlock, .markup⟩
        [.warning ("[" ++ a.name ++ "] Dropped markup of math node carrying '" ++ mark ++
            "'; kept escaped text") none,
          .event (Event.latexFallback a.name "escaped-text" c.node.tagName)]

/-- Some strategy of a list has the first acceptable candidate, or all of them pass over the node. -/
theorem exists_first_or (hcheck : ∀ latex, ∃ accepted, a.validateLatex latex = .ok accepted)
    (c : Cursor) (sources : List LatexSource) :
    (∃ before source behind result, sources = before ++ source :: behind ∧
      (∀ earlier ∈ before, a.PassesOver c (a.strategy earlier)) ∧
      a.strategy source c = .ok (some result) ∧ a.validateLatex result.latex = .ok true) ∨
      ∀ source ∈ sources, a.PassesOver c (a.strategy source) := by
  induction sources with
  | nil => exact .inr fun source hsource => by simp at hsource
  | cons source rest ih =>
    rcases passesOver_or_accepts hcheck (c := c) (a.strategy source) with hpasses |
      ⟨result, hoffer, haccepted⟩
    · rcases ih with ⟨before, later, behind, result, hsplit, hpassed, hlater⟩ | hrest
      · refine .inl ⟨source :: before, later, behind, result, by simp [hsplit], ?_, hlater⟩
        intro earlier hearlier
        rcases List.mem_cons.mp hearlier with rfl | hearlier
        · exact hpasses
        · exact hpassed earlier hearlier
      · refine .inr fun other hother => ?_
        rcases List.mem_cons.mp hother with rfl | hother
        · exact hpasses
        · exact hrest other hother
    · exact .inl ⟨[], source, rest, result, rfl, by simp, hoffer, haccepted⟩

theorem strategies_of_keepsChain (h : a.KeepsChain) : a.strategies = .ok (a.entries chain) := by
  simp [strategies, h.strategies, entries]

/-- The first acceptable candidate is the result, with the reports of the failures before it. -/
theorem FoundBy.extractLatex_eq {before behind : List LatexSource} {source : LatexSource}
    {result : LatexResult} (h : a.KeepsChain) (helement : c.node.isElement = true)
    (hfound : a.FoundBy c before source behind result) :
    a.extractLatex c = ⟨.ok (some result), a.failures c (a.entries before)⟩ := by
  have hpassed : ∀ entry ∈ a.entries before, a.PassesOver c entry.2 := by
    intro entry hentry
    obtain ⟨earlier, hearlier, rfl⟩ := List.mem_map.mp hentry
    exact hfound.passed earlier hearlier
  have hsplit : a.entries chain =
      a.entries before ++ (source, a.strategy source) :: a.entries behind := by
    simp [entries, hfound.order]
  have hfirst : a.firstAcceptable c (a.entries chain) =
      ⟨.ok (some result), a.failures c (a.entries before)⟩ := by
    rw [hsplit, firstAcceptable_append hpassed, firstAcceptable_cons hfound.offer hfound.accepted]
    simp [Traced.after]
  simp [extractLatex, h.extractLatex, helement, strategies_of_keepsChain h, hfirst]

/-- What is kept of a node, unless telling display formulas fails. -/
theorem exists_kept (h : a.KeepsChain) (hblock : ∃ isBlock, a.isBlockMath c = .ok isBlock) :
    ∃ result reports, a.markupFallback c = ⟨.ok result, reports⟩ ∧ a.Kept c result reports ∧
      a.isBlockMath c = .ok result.isBlock := by
  obtain ⟨isBlock, hblock⟩ := hblock
  simp only [markupFallback, h.markupFallback, keptMarkup, hblock, Except.map]
  cases hmark : findInjection? c.node.markup with
  | none => exact ⟨_, _, rfl, .asMarkup isBlock hmark, rfl⟩
  | some mark => exact ⟨_, _, rfl, .asEscapedText isBlock mark hmark, rfl⟩

/-- If all strategies pass over the node, their reports come before what is kept. -/
theorem extractLatex_of_passesOver (h : a.KeepsChain) (helement : c.node.isElement = true)
    (hpassed : ∀ source ∈ chain, a.PassesOver c (a.strategy source)) :
    a.extractLatex c = Traced.after (a.failures c (a.entries chain))
      ⟨(a.markupFallback c).outcome.map some, (a.markupFallback c).trace⟩ := by
  have hentries : ∀ entry ∈ a.entries chain, a.PassesOver c entry.2 := by
    intro entry hentry
    obtain ⟨source, hsource, rfl⟩ := List.mem_map.mp hentry
    exact hpassed source hsource
  simp [extractLatex, h.extractLatex, helement, strategies_of_keepsChain h,
    firstAcceptable_none hentries]

theorem Kept.source_eq {result : LatexResult} {reports : List Diagnostic}
    (h : a.Kept c result reports) : result.source = .markup := by
  cases h <;> rfl

theorem Kept.events_eq {result : LatexResult} {reports : List Diagnostic}
    (h : a.Kept c result reports) :
    ∃ word, Diagnostic.events reports = [Event.latexFallback a.name word c.node.tagName] := by
  cases h with
  | asMarkup => exact ⟨"markup", rfl⟩
  | asEscapedText => exact ⟨"escaped-text", rfl⟩

/-! ## Strategies that are never asked -/

/-- The adapter with other strategies for the given sources. -/
def withStrategies (a : Adapter) (sources : List LatexSource) (other : LatexSource → LatexStrategy) :
    Adapter :=
  { a with
    overrides := { a.overrides with
      strategy := fun source =>
        if source ∈ sources then some (other source) else a.overrides.strategy source } }

theorem strategy_withStrategies {sources : List LatexSource} {other : LatexSource → LatexStrategy}
    {source : LatexSource} (h : source ∉ sources) :
    (a.withStrategies sources other).strategy source = a.strategy source := by
  simp only [strategy, withStrategies, if_neg h]
  rfl

/-- The chain names no source twice. -/
theorem nodup_chain : chain.Nodup := by
  decide

/-- The strategies behind the one that settles the result play no part in it. -/
theorem FoundBy.withStrategies {before behind : List LatexSource} {source : LatexSource}
    {result : LatexResult} (hfound : a.FoundBy c before source behind result)
    (other : LatexSource → LatexStrategy) :
    (a.withStrategies behind other).FoundBy c before source behind result ∧
      (a.withStrategies behind other).entries before = a.entries before := by
  -- No source stands in the chain twice, so those up to the last one asked keep their strategies.
  have hnodup : (before ++ source :: behind).Nodup := hfound.order ▸ nodup_chain
  obtain ⟨-, hlast, hapart⟩ := List.nodup_append.mp hnodup
  have hbefore : ∀ earlier ∈ before, earlier ∉ behind := fun earlier hearlier hbehind =>
    hapart earlier hearlier earlier (List.mem_cons_of_mem _ hbehind) rfl
  have hsource : source ∉ behind := (List.nodup_cons.mp hlast).1
  constructor
  · refine ⟨hfound.order, fun earlier hearlier => ?_, ?_, hfound.accepted⟩
    · rw [strategy_withStrategies (hbefore earlier hearlier)]
      exact hfound.passed earlier hearlier
    · rw [strategy_withStrategies hsource]
      exact hfound.offer
  · refine List.map_congr_left fun earlier hearlier => ?_
    rw [strategy_withStrategies (hbefore earlier hearlier)]

/-! ## Recovery comes to a result -/

/-- What an adapter accepts unless it replaces the check: what is not blank, not too long, and free
of injected script. -/
theorem validateLatex_iff (h : a.overrides.validateLatex = none) (latex : String) :
    a.validateLatex latex = .ok true ↔
      Text.isAllBlank latex = false ∧ latex.length ≤ a.profile.maxLatexLength ∧
        findInjection? latex = none := by
  simp [validateLatex, h, isAcceptable, and_assoc]

/-- Whatever the strategies do, recovery never fails and always has a result, as long as telling
display formulas and checking candidates do not fail. The result is the candidate of the first
strategy with an acceptable one; the failures before it have been reported, each by one warning and
without an event, and with any other strategies behind it the recovery would be the same. Otherwise
all strategies have passed over the node, and the markup or the escaped text is kept with one
event. -/
theorem extractLatex_first (h : a.KeepsChain) (helement : c.node.isElement = true)
    (hblock : ∃ isBlock, a.isBlockMath c = .ok isBlock)
    (hcheck : ∀ latex, ∃ accepted, a.validateLatex latex = .ok accepted) :
    ∃ result, (a.extractLatex c).outcome = .ok (some result) ∧
      ((∃ before source behind, a.FoundBy c before source behind result ∧
          (a.extractLatex c).trace = a.failures c (a.entries before) ∧
          Diagnostic.events (a.extractLatex c).trace = [] ∧
          ∀ other, (a.withStrategies behind other).extractLatex c = a.extractLatex c) ∨
        ((∀ source ∈ chain, a.PassesOver c (a.strategy source)) ∧ result.source = .markup ∧
          a.isBlockMath c = .ok result.isBlock ∧
          (∃ reports, a.Kept c result reports ∧
            (a.extractLatex c).trace = a.failures c (a.entries chain) ++ reports) ∧
          ∃ word, Diagnostic.events (a.extractLatex c).trace =
            [Event.latexFallback a.name word c.node.tagName])) ∧
      (a.overrides.validateLatex = none → ∀ latex, a.validateLatex latex = .ok true ↔
        Text.isAllBlank latex = false ∧ latex.length ≤ a.profile.maxLatexLength ∧
          findInjection? latex = none) := by
  rcases exists_first_or hcheck c chain with
    ⟨before, source, behind, result, horder, hbefore, hoffer, haccepted⟩ | hpassed
  · have hfound : a.FoundBy c before source behind result := ⟨horder, hbefore, hoffer, haccepted⟩
    have heq := hfound.extractLatex_eq h helement
    refine ⟨result, by rw [heq], .inl ⟨before, source, behind, hfound, by rw [heq], ?_, ?_⟩,
      validateLatex_iff⟩
    · rw [heq, events_failures]
    -- With other strategies behind, the same one is still the first.
    · intro other
      have hkeeps : (a.withStrategies behind other).KeepsChain :=
        ⟨h.extractLatex, h.strategies, h.markupFallback⟩
      obtain ⟨hother, hentries⟩ := hfound.withStrategies other
      rw [hother.extractLatex_eq hkeeps helement, heq, hentries]
      rfl
  · have heq := extractLatex_of_passesOver h helement hpassed
    obtain ⟨result, reports, hkept, hresult, hisBlock⟩ := exists_kept h hblock
    have htrace : (a.extractLatex c).trace = a.failures c (a.entries chain) ++ reports := by
      rw [heq, hkept]
      rfl
    obtain ⟨word, hword⟩ := hresult.events_eq
    refine ⟨result, by rw [heq, hkept]; rfl, .inr ⟨hpassed, hresult.source_eq, hisBlock,
      ⟨reports, hresult, htrace⟩, word, ?_⟩, validateLatex_iff⟩
    -- Failures leave warnings only, so the one event is that of the fallback.
    have hnone := events_failures (a := a) (c := c) (a.entries chain)
    rw [htrace, Diagnostic.events, List.filterMap_append]
    rw [Diagnostic.events] at hnone hword
    rw [hnone, hword, List.nil_append]

/-- An adapter whose strategies do all that strategies can do: one fails, one declines, one offers
script, one offers a formula, and one that is never asked fails too. -/
def restless : Adapter where
  profile := {}
  overrides := {
    strategy := fun
      | .annotated | .text => some fun _ => .error (.of .badValue "boom")
      | .attr => some fun _ => .ok none
      | .katexError => some fun _ => .ok (some ⟨"<script>", false, .katexError⟩)
      | .mathMl => some fun _ => .ok (some ⟨"x^2", false, .mathMl⟩)
      | .markup => none }

/-- A formula without any source. -/
def bareFormula : Cursor :=
  Cursor.root 0 (.element "span" [] [])

theorem accepts_restless : restless.validateLatex "x^2" = .ok true := by
  rw [validateLatex_iff rfl]
  decide

/-- The recovery passes over three strategies, reports the one that fails, and takes the formula of
the fourth. -/
theorem extractLatex_first_restless :
    restless.KeepsChain ∧ bareFormula.node.isElement = true ∧
      (∃ isBlock, restless.isBlockMath bareFormula = .ok isBlock) ∧
      (∀ latex, ∃ accepted, restless.validateLatex latex = .ok accepted) ∧
      (restless.extractLatex bareFormula).outcome = .ok (some ⟨"x^2", false, .mathMl⟩) ∧
      ∃ before source behind,
        restless.FoundBy bareFormula before source behind ⟨"x^2", false, .mathMl⟩ ∧
        (restless.extractLatex bareFormula).trace =
          restless.failures bareFormula (restless.entries before) := by
  have hkeeps : restless.KeepsChain := ⟨rfl, rfl, rfl⟩
  have hblock : ∃ isBlock, restless.isBlockMath bareFormula = .ok isBlock := ⟨false, rfl⟩
  have hcheck : ∀ latex, ∃ accepted, restless.validateLatex latex = .ok accepted :=
    fun latex => ⟨_, rfl⟩
  have houtcome : (restless.extractLatex bareFormula).outcome =
      .ok (some ⟨"x^2", false, .mathMl⟩) := by rfl
  refine ⟨hkeeps, rfl, hblock, hcheck, houtcome, ?_⟩
  obtain ⟨result, hresult, hends, -⟩ :=
    extractLatex_first hkeeps (c := bareFormula) rfl hblock hcheck
  obtain rfl : (⟨"x^2", false, .mathMl⟩ : LatexResult) = result := by
    rw [houtcome] at hresult
    simpa using hresult
  rcases hends with ⟨before, source, behind, hfound, htrace, -⟩ | ⟨hpassed, -⟩
  · exact ⟨before, source, behind, hfound, htrace⟩
  · have hrefused := hpassed .mathMl (by decide) ⟨"x^2", false, .mathMl⟩ rfl
    rw [accepts_restless] at hrefused
    cases hrefused

end Transcript.Adapter
