import Transcript.Proofs.Platform.Lookup
import Transcript.Proofs.Platform.Score

/-!
# Detection

A page is given to every registered adapter for a score, and the running best is replaced only by a
greater score. So the adapter that is chosen is the first one with the greatest score, whatever the
scores are, as long as that score is positive; otherwise it is the fallback. One event tells of the
choice, with the score that decided it.

## Main definitions

- `Registry.IsFirstBest`: the request with the greatest score, the first of several
- `Registry.Request.Scores`: the score that the adapter of a request gives to a page

## Main results

- `Registry.bestFrom_eq`: what the search for the best adapter ends with
- `Registry.detect_first_best`: detection finds the first best adapter, and scores lie between zero
  and one and grow with the signs of a page
-/

namespace Transcript

open Markup Number

namespace Registry

/-- The request has the greatest score: those in front of it have smaller ones, those behind it no
greater ones. -/
def IsFirstBest (score : Request → Rat) (requests : List Request) (q : Request) : Prop :=
  ∃ before after, requests = before ++ q :: after ∧ (∀ other ∈ before, score other < score q) ∧
    ∀ other ∈ after, score other ≤ score q

section

variable {score : Request → Rat} {requests : List Request} {q first : Request}

theorem isFirstBest_cons (h : ∀ other ∈ requests, score other ≤ score q) :
    IsFirstBest score (q :: requests) q :=
  ⟨[], requests, rfl, fun _ hother => absurd hother List.not_mem_nil, h⟩

theorem IsFirstBest.cons (h : IsFirstBest score requests q) (hfirst : score first < score q) :
    IsFirstBest score (first :: requests) q := by
  obtain ⟨before, after, rfl, hbefore, hafter⟩ := h
  exact ⟨first :: before, after, rfl, List.forall_mem_cons.mpr ⟨hfirst, hbefore⟩, hafter⟩

end

/-- The adapter of the request gives the page this score. -/
def Request.Scores (c : Cursor) (q : Request) (score : Rat) : Prop :=
  ∃ amount, q.adapter.canHandle c = .ok amount ∧ amount.value? = some score

/-- The search for the best adapter keeps what it began with if no score is greater, and else ends
with the first of the greatest scores. -/
theorem bestFrom_eq {c : Cursor} {score : Request → Rat} {requests : List Request}
    (hscores : ∀ q ∈ requests, q.Scores c (score q)) (best : Option Adapter × Amount)
    {bound : Rat} (hbound : best.2.value? = some bound) :
    (∀ q ∈ requests, score q ≤ bound) ∧
        bestFrom c best (requests.map Request.entry) = .ok best ∨
      ∃ q amount, IsFirstBest score requests q ∧ bound < score q ∧
        q.adapter.canHandle c = .ok amount ∧
        bestFrom c best (requests.map Request.entry) = .ok (some q.adapter, amount) := by
  induction requests generalizing best bound with
  | nil => exact .inl ⟨fun _ h => absurd h List.not_mem_nil, rfl⟩
  | cons first later ih =>
    obtain ⟨⟨amount, hamount, hvalue⟩, hlater⟩ := List.forall_mem_cons.mp hscores
    have hstep : bestFrom c best ((first :: later).map Request.entry) =
        bestFrom c (if best.2.isLess amount then (some first.adapter, amount) else best)
          (later.map Request.entry) := by
      rw [List.map_cons, bestFrom]
      simp only [Request.entry, hamount]
    rw [hstep]
    have hless : best.2.isLess amount = true ↔ bound < score first :=
      Amount.isLess_iff hbound hvalue
    by_cases hgreater : bound < score first
    · -- The first one is the best so far.
      rw [if_pos (hless.mpr hgreater)]
      rcases ih hlater (some first.adapter, amount) hvalue with
        ⟨hnone, hresult⟩ | ⟨q, other, hbest, hq, hother, hresult⟩
      · exact .inr ⟨first, amount, isFirstBest_cons hnone, hgreater, hamount, hresult⟩
      · exact .inr ⟨q, other, hbest.cons hq, hgreater.trans hq, hother, hresult⟩
    · rw [if_neg (fun h => hgreater (hless.mp h))]
      have hle : score first ≤ bound := not_lt.mp hgreater
      rcases ih hlater best hbound with ⟨hnone, hresult⟩ | ⟨q, other, hbest, hq, hother, hresult⟩
      · exact .inl ⟨List.forall_mem_cons.mpr ⟨hle, hnone⟩, hresult⟩
      · exact .inr ⟨q, other, hbest.cons (hle.trans_lt hq), hq, hother, hresult⟩

/-- A registry that was empty chooses the first of the survivors with the greatest score if that is
positive, and else its fallback. -/
theorem detect_registerAll {fallback : Adapter} {requests : List Request} {c : Cursor}
    {score : Request → Rat} (hscores : ∀ q ∈ survivors requests, q.Scores c (score q)) :
    (∃ q amount, IsFirstBest score (survivors requests) q ∧ 0 < score q ∧
        q.adapter.canHandle c = .ok amount ∧
        (Registry.registerAll { fallback } requests).detect c =
          .ok (q.adapter, .adapterDetected q.adapter.name amount)) ∨
      (∀ q ∈ survivors requests, score q ≤ 0) ∧
        (Registry.registerAll { fallback } requests).detect c =
          .ok (fallback, .adapterDetected fallback.name Adapter.noScore) := by
  rw [registerAll_eq, detect]
  rcases bestFrom_eq hscores (none, Adapter.noScore) rfl with
    ⟨hnone, hresult⟩ | ⟨q, amount, hbest, hpositive, hamount, hresult⟩
  · refine .inr ⟨hnone, ?_⟩
    rw [hresult]
    rfl
  · refine .inl ⟨q, amount, hbest, hpositive, hamount, ?_⟩
    rw [hresult]
    rfl

/-- After any sequence of registrations in an empty registry, detection chooses the first of the
surviving adapters with the greatest score if that is positive, and else the fallback, and reports
its choice in one event with the name of the adapter and its score, which is zero for the fallback.
If an adapter scores by signs whose weights are not below zero, then the score of a page lies
between zero and one, and it is no smaller for a page that shows all its signs; this holds in exact
arithmetic, and also for the answers of the adapter, which are the scores in binary fractions and
exist whenever the signs can be read and the weights are measured. -/
theorem detect_first_best (fallback : Adapter) (requests : List Request) (c : Cursor)
    (score : Request → Rat) (hscores : ∀ q ∈ survivors requests, q.Scores c (score q)) :
    ((∃ q amount, IsFirstBest score (survivors requests) q ∧ 0 < score q ∧
        q.adapter.canHandle c = .ok amount ∧
        (Registry.registerAll { fallback } requests).detect c =
          .ok (q.adapter, .adapterDetected q.adapter.name amount)) ∨
      (∀ q ∈ survivors requests, score q ≤ 0) ∧
        (Registry.registerAll { fallback } requests).detect c =
          .ok (fallback, .adapterDetected fallback.name (.measured (.finite 0)))) ∧
    ∀ a : Adapter, a.WeighsUp →
      (∀ d, 0 ≤ a.scoreBy id d ∧ a.scoreBy id d ≤ 1) ∧
      (∀ d other : Cursor,
        (∀ s ∈ a.profile.signals, d.shows s.1 = true → other.shows s.1 = true) →
        a.scoreBy id d ≤ a.scoreBy id other ∧
          a.scoreBy nearestBinary d ≤ a.scoreBy nearestBinary other) ∧
      (∀ d amount, a.canHandle d = .ok amount →
        amount.value? = some (a.scoreBy nearestBinary d) ∧
          0 ≤ a.scoreBy nearestBinary d ∧ a.scoreBy nearestBinary d ≤ 1) ∧
      ((∀ s ∈ a.profile.signals,
          (∃ parsed, Selector.parse s.1 = .ok parsed) ∧ ∃ q, s.2 = .measured q) →
        ∀ d, ∃ amount, a.canHandle d = .ok amount) := by
  refine ⟨detect_registerAll hscores, fun a ha => ⟨fun d => ?_, fun d other hmore => ?_,
    fun d amount hamount => ⟨ha.value?_of_canHandle hamount, ?_⟩,
    fun hsignals d => Adapter.exists_canHandle_eq ha.scores hsignals d⟩⟩
  · exact scoreWith_bounds .id (ha.weights.weightsFound d)
  · have hsub := weightsFound_sublist hmore
    have hweights := ha.weights.weightsFound other
    exact ⟨scoreWith_mono .id hsub hweights, scoreWith_mono isRounding_nearestBinary hsub hweights⟩
  · exact scoreWith_bounds isRounding_nearestBinary (ha.weights.weightsFound d)

/-- An adapter of some name that gives every page the same score. -/
def scoring (name : String) (score : Rat) : Adapter where
  profile := { name }
  overrides := { canHandle := some fun _ => .ok (.measured (.finite score)) }

/-- Two adapters share the greatest score, and the first registration is replaced by the last. -/
def tiedRequests : List Request :=
  [{ adapter := scoring "a" 1 }, { adapter := scoring "b" (3 / 4) },
    { adapter := scoring "c" (3 / 4) }, { adapter := scoring "A" (1 / 4) }]

/-- The score that the adapter of a request of `tiedRequests` gives to every page. -/
def tiedScore (q : Request) : Rat :=
  if q.adapter.name = "A" then 1 / 4 else 3 / 4

/-- A page with a rendered formula. -/
def formulaPage : Cursor :=
  .root 0 (.document [.element "div" [⟨"class", .words ["katex"]⟩] []])

/-- A page with a rendered formula in a message. -/
def messagePage : Cursor :=
  .root 0 (.document [.element "div" [⟨"data-message-author-role", .text "assistant"⟩]
    [.element "div" [⟨"class", .words ["katex"]⟩] []]])

/-- Of the two adapters with the greatest score, the earlier one is chosen. A formula in a message
shows more signs of ChatGPT than a formula alone, and scores no less. -/
theorem detect_first_best_tied :
    (∀ q ∈ survivors tiedRequests, q.Scores formulaPage (tiedScore q)) ∧
      (Registry.registerAll { fallback := .chatGPT } tiedRequests).detect formulaPage =
        .ok (scoring "b" (3 / 4), .adapterDetected "b" (.measured (.finite (3 / 4)))) ∧
      Adapter.chatGPT.WeighsUp ∧
      (∀ s ∈ Adapter.chatGPT.profile.signals,
        formulaPage.shows s.1 = true → messagePage.shows s.1 = true) ∧
      Adapter.chatGPT.scoreBy id formulaPage ≤ Adapter.chatGPT.scoreBy id messagePage ∧
      (∀ s ∈ Adapter.chatGPT.profile.signals,
        (∃ parsed, Selector.parse s.1 = .ok parsed) ∧ ∃ q, s.2 = .measured q) ∧
      ∃ amount, Adapter.chatGPT.canHandle messagePage = .ok amount ∧
        amount.value? = some (Adapter.chatGPT.scoreBy nearestBinary messagePage) := by
  have hsurvivors : survivors tiedRequests = tiedRequests.tail := rfl
  have hscores : ∀ q ∈ survivors tiedRequests, q.Scores formulaPage (tiedScore q) := by
    rw [hsurvivors]
    simp only [tiedRequests, List.tail_cons, List.forall_mem_cons]
    exact ⟨⟨_, rfl, rfl⟩, ⟨_, rfl, rfl⟩, ⟨_, rfl, rfl⟩, fun _ h => absurd h List.not_mem_nil⟩
  have hweighs : Adapter.chatGPT.WeighsUp := by
    refine ⟨rfl, fun s hs => ?_⟩
    have hall : (Adapter.chatGPT.profile.signals.all fun s =>
        s.2.value?.any fun w => decide (0 ≤ w)) = true := by decide +kernel
    obtain ⟨w, hw, hnonneg⟩ := (Option.any_eq_true _ _).mp (List.all_eq_true.mp hall s hs)
    exact ⟨w, hw, of_decide_eq_true hnonneg⟩
  have hmore : ∀ s ∈ Adapter.chatGPT.profile.signals,
      formulaPage.shows s.1 = true → messagePage.shows s.1 = true := by decide
  have hsignals : ∀ s ∈ Adapter.chatGPT.profile.signals,
      (∃ parsed, Selector.parse s.1 = .ok parsed) ∧ ∃ q, s.2 = .measured q := by
    intro s hs
    have hread : (Adapter.chatGPT.profile.signals.all fun s =>
        (Selector.parse s.1).toOption.isSome) = true := by decide
    have hparse := List.all_eq_true.mp hread s hs
    constructor
    · cases hparsed : Selector.parse s.1 with
      | error fault => simp [hparsed, Except.toOption] at hparse
      | ok parsed => exact ⟨parsed, rfl⟩
    · simp only [Adapter.chatGPT, List.mem_cons, List.not_mem_nil, or_false] at hs
      rcases hs with rfl | rfl | rfl | rfl | rfl <;> exact ⟨_, rfl⟩
  obtain ⟨hdetect, hrating⟩ := detect_first_best .chatGPT tiedRequests formulaPage tiedScore hscores
  obtain ⟨-, hgrows, hanswers, hexists⟩ := hrating .chatGPT hweighs
  obtain ⟨amount, hamount⟩ := hexists hsignals messagePage
  have hfirst : tiedScore { adapter := scoring "b" (3 / 4) } = 3 / 4 := if_neg (by decide)
  refine ⟨hscores, ?_, hweighs, hmore, (hgrows _ _ hmore).1, hsignals, amount, hamount,
    (hanswers _ _ hamount).1⟩
  rcases hdetect with ⟨q, amount, hbest, -, hq, hdetect⟩ | ⟨hnone, -⟩
  · obtain ⟨before, after, hsplit, hbefore, -⟩ := hbest
    cases before with
    | nil =>
      obtain ⟨rfl, -⟩ := List.cons.inj hsplit
      cases hq
      exact hdetect
    | cons first rest =>
      -- No score is greater than that of the first one.
      obtain ⟨rfl, -⟩ := List.cons.inj hsplit
      have hgreater := hbefore _ List.mem_cons_self
      rw [hfirst, tiedScore] at hgreater
      split at hgreater <;> norm_num at hgreater
  · have hpositive := hnone { adapter := scoring "b" (3 / 4) } List.mem_cons_self
    rw [hfirst] at hpositive
    norm_num at hpositive

end Registry

end Transcript
