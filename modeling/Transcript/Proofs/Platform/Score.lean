import Transcript.Platform.Adapter
import Transcript.Proofs.Number.Amount

/-!
# Scores

The score of a page is the sum of the weights of the signs found in it, to four places, and no more
than one. It is taken here in any arithmetic, the exact one and that of binary fractions alike: if
no weight is below zero, the score lies between zero and one, and a page with more signs has no
smaller score. The score that an adapter gives is the one in binary fractions.

## Main definitions

- `Cursor.shows`: a sign is found in the page
- `scoreWith`: the score of weights, with some rounding after each step
- `weightsFound`: the weights of the signs found
- `Adapter.WeighsUp`: the adapter scores by weights that are not below zero

## Main results

- `scoreWith_bounds`, `scoreWith_mono`: scores lie between zero and one and grow with the signs
- `Adapter.WeighsUp.value?_of_canHandle`: what an adapter answers
- `Adapter.exists_canHandle_eq`: an adapter with readable signs and measured weights answers
-/

namespace Transcript

open Number

namespace Markup

/-- Whether a sign is found in the page. -/
def Cursor.shows (c : Cursor) (selector : String) : Bool :=
  match c.selectOneText? selector with
  | .ok (some _) => true
  | _ => false

end Markup

open Markup

/-! ## Scores in any arithmetic -/

/-- The sum of weights, rounded after each step. -/
def sumWith (round : Rat → Rat) (weights : List Rat) : Rat :=
  weights.foldl (fun sum weight => round (sum + weight)) 0

/-- The score of weights: the sum to four places, and no more than one. -/
def scoreWith (round : Rat → Rat) (weights : List Rat) : Rat :=
  min (round (roundPlaces 4 (sumWith round weights))) 1

section Arithmetic

variable {round : Rat → Rat} {weights more : List Rat}

theorem foldl_nonneg (h : IsRounding round) (hweights : ∀ w ∈ weights, 0 ≤ w) {sum : Rat}
    (hsum : 0 ≤ sum) : 0 ≤ weights.foldl (fun sum weight => round (sum + weight)) sum := by
  induction weights generalizing sum with
  | nil => exact hsum
  | cons w rest ih =>
    obtain ⟨hw, hrest⟩ := List.forall_mem_cons.mp hweights
    exact ih hrest (h.nonneg (add_nonneg hsum hw))

/-- With more weights added to no smaller a sum, the sum is no smaller. -/
theorem foldl_le_foldl (h : IsRounding round) (hsub : weights.Sublist more)
    (hmore : ∀ w ∈ more, 0 ≤ w) {sum other : Rat} (hsum : 0 ≤ sum) (hle : sum ≤ other)
    (hsettled : round other = other) :
    weights.foldl (fun sum weight => round (sum + weight)) sum ≤
      more.foldl (fun sum weight => round (sum + weight)) other := by
  induction hsub generalizing sum other with
  | slnil => exact hle
  | cons w _ ih =>
    -- Only the larger sum takes this weight, and rounding does not make it smaller than it was.
    obtain ⟨hw, hrest⟩ := List.forall_mem_cons.mp hmore
    have hother : 0 ≤ other := hsum.trans hle
    have hgrown : other ≤ round (other + w) := by
      have hmono := h.mono hother (le_add_of_nonneg_right hw)
      rwa [hsettled] at hmono
    exact ih hrest hsum (hle.trans hgrown) (h.settled (add_nonneg hother hw))
  | cons_cons w _ ih =>
    obtain ⟨hw, hrest⟩ := List.forall_mem_cons.mp hmore
    have hstep : round (sum + w) ≤ round (other + w) :=
      h.mono (add_nonneg hsum hw) (add_le_add_left hle w)
    exact ih hrest (h.nonneg (add_nonneg hsum hw)) hstep
      (h.settled (add_nonneg (hsum.trans hle) hw))

/-- Scores lie between zero and one. -/
theorem scoreWith_bounds (h : IsRounding round) (hweights : ∀ w ∈ weights, 0 ≤ w) :
    0 ≤ scoreWith round weights ∧ scoreWith round weights ≤ 1 := by
  have hsum : 0 ≤ sumWith round weights := foldl_nonneg h hweights le_rfl
  have hplaces := h.nonneg (roundPlaces_nonneg 4 hsum)
  exact ⟨le_min hplaces zero_le_one, min_le_right _ _⟩

/-- More weights give no smaller score. -/
theorem scoreWith_mono (h : IsRounding round) (hsub : weights.Sublist more)
    (hmore : ∀ w ∈ more, 0 ≤ w) : scoreWith round weights ≤ scoreWith round more := by
  have hweights : ∀ w ∈ weights, 0 ≤ w := fun w hw => hmore w (hsub.subset hw)
  have hnonneg : 0 ≤ sumWith round weights := foldl_nonneg h hweights le_rfl
  have hsum : sumWith round weights ≤ sumWith round more :=
    foldl_le_foldl h hsub hmore le_rfl le_rfl h.zero
  have hplaces := h.mono (roundPlaces_nonneg 4 hnonneg) (roundPlaces_mono 4 hsum)
  exact min_le_min_right 1 hplaces

/-- Without any weight, the score is zero. -/
theorem scoreWith_nil (h : IsRounding round) : scoreWith round [] = 0 := by
  have hplaces : roundPlaces 4 0 = 0 := by exact_mod_cast roundPlaces_intCast 4 0
  rw [scoreWith, sumWith, List.foldl_nil, hplaces, h.zero, min_eq_left zero_le_one]

end Arithmetic

/-! ## Scores of pages -/

/-- The weights of the signs found in a page. -/
def weightsFound (c : Cursor) (signals : List (String × Amount)) : List Rat :=
  (signals.filter fun s => c.shows s.1).filterMap fun s => s.2.value?

section Pages

variable {c d : Cursor} {signals : List (String × Amount)} {selector : String} {weight : Amount}

theorem weightsFound_cons_of_shows {w : Rat} (hshows : c.shows selector = true)
    (hvalue : weight.value? = some w) :
    weightsFound c ((selector, weight) :: signals) = w :: weightsFound c signals := by
  rw [weightsFound, List.filter_cons, if_pos hshows, List.filterMap_cons]
  simp only [hvalue]
  rfl

theorem weightsFound_cons_of_not_shows (hshows : c.shows selector = false) :
    weightsFound c ((selector, weight) :: signals) = weightsFound c signals := by
  rw [weightsFound, List.filter_cons, if_neg (by simp [hshows]), weightsFound]

/-- No sign has a weight below zero. -/
def NoneBelowZero (signals : List (String × Amount)) : Prop :=
  ∀ s ∈ signals, ∃ w, s.2.value? = some w ∧ 0 ≤ w

theorem NoneBelowZero.weightsFound (h : NoneBelowZero signals) (c : Cursor) :
    ∀ w ∈ weightsFound c signals, 0 ≤ w := by
  intro w hw
  obtain ⟨s, hs, hvalue⟩ := List.mem_filterMap.mp hw
  obtain ⟨w', hvalue', hnonneg⟩ := h s (List.mem_of_mem_filter hs)
  obtain rfl : w' = w := Option.some.inj (hvalue'.symm.trans hvalue)
  exact hnonneg

/-- A page that shows every sign of another one has every weight of it. -/
theorem weightsFound_sublist
    (h : ∀ s ∈ signals, c.shows s.1 = true → d.shows s.1 = true) :
    (weightsFound c signals).Sublist (weightsFound d signals) := by
  refine List.Sublist.filterMap _ ?_
  induction signals with
  | nil => exact List.Sublist.slnil
  | cons s rest ih =>
    obtain ⟨hs, hrest⟩ := List.forall_mem_cons.mp h
    cases hc : c.shows s.1
    · -- What only the other page shows is one weight more.
      rw [List.filter_cons, if_neg (by simp [hc]), List.filter_cons]
      split
      · exact (ih hrest).cons s
      · exact ih hrest
    · rw [List.filter_cons, if_pos hc, List.filter_cons, if_pos (hs hc)]
      exact (ih hrest).cons_cons s

namespace Adapter

/-- The weights of the signs found, added one after another, stand for their sum in binary
fractions. -/
theorem standsFor_of_weightFrom (h : NoneBelowZero signals) {sum total : Amount} {x : Rat}
    (hx : 0 ≤ x) (hsum : sum.StandsFor x) (htotal : weightFrom c sum signals = .ok total) :
    total.StandsFor
      ((weightsFound c signals).foldl (fun sum weight => nearestBinary (sum + weight)) x) := by
  induction signals generalizing sum x with
  | nil =>
    cases htotal
    exact hsum
  | cons s rest ih =>
    obtain ⟨⟨w, hvalue, hw⟩, hrest⟩ := List.forall_mem_cons.mp h
    obtain ⟨selector, weight⟩ := s
    unfold weightFrom at htotal
    split at htotal
    · cases htotal
    · rename_i hfound
      rw [weightsFound_cons_of_not_shows (by simp [Cursor.shows, hfound])]
      exact ih hrest hx hsum htotal
    · rename_i hfound
      rw [weightsFound_cons_of_shows (by simp [Cursor.shows, hfound]) hvalue]
      split at htotal
      · cases htotal
      · rename_i hadd
        have hstep := hsum.add (Amount.standsFor_of_value? hvalue) hx hw hadd
        exact ih hrest (nearestBinary_nonneg (add_nonneg hx hw)) hstep htotal

/-- Whether the adapter scores by its signs, none of which has a weight below zero. -/
structure WeighsUp (a : Adapter) : Prop where
  /-- The scoring is not replaced. -/
  scores : a.overrides.canHandle = none
  /-- No weight is below zero. -/
  weights : NoneBelowZero a.profile.signals

/-- The score of a page, with some rounding after each step. -/
def scoreBy (round : Rat → Rat) (a : Adapter) (c : Cursor) : Rat :=
  scoreWith round (weightsFound c a.profile.signals)

/-- Nothing is found in what is no element. -/
theorem weightsFound_of_not_isElement (h : c.node.isElement = false) :
    weightsFound c signals = [] := by
  rw [weightsFound, List.filter_eq_nil_iff.mpr, List.filterMap_nil]
  intro s _
  simp [Cursor.shows, Cursor.selectOneText?, Cursor.searchText?, h]

/-- An adapter answers with the score in binary fractions. -/
theorem WeighsUp.value?_of_canHandle {a : Adapter} (h : a.WeighsUp) {score : Amount}
    (hscore : a.canHandle c = .ok score) : score.value? = some (a.scoreBy nearestBinary c) := by
  rw [canHandle, h.scores] at hscore
  dsimp only at hscore
  split at hscore
  · obtain ⟨total, htotal, rfl⟩ : ∃ total, weightFrom c .zero a.profile.signals = .ok total ∧
        scoreOf total = score := by
      cases hfrom : weightFrom c .zero a.profile.signals with
      | error f =>
        rw [hfrom] at hscore
        cases hscore
      | ok total =>
        rw [hfrom] at hscore
        exact ⟨total, rfl, Except.ok.inj hscore⟩
    have hsum := standsFor_of_weightFrom h.weights le_rfl
      (Amount.standsFor_of_value? Amount.value?_zero) htotal
    have hnonneg := foldl_nonneg isRounding_nearestBinary (h.weights.weightsFound c) le_rfl
    exact (hsum.rounded hnonneg 4).value?_atMost_one
  · rename_i helement
    cases hscore
    rw [scoreBy, weightsFound_of_not_isElement (by simpa using helement),
      scoreWith_nil isRounding_nearestBinary]
    rfl

/-- Measured weights can always be added. -/
theorem exists_weightFrom_eq (helement : c.node.isElement = true)
    (hsignals : ∀ s ∈ signals,
      (∃ parsed, Selector.parse s.1 = .ok parsed) ∧ ∃ q, s.2 = .measured q)
    {sum : Amount} (hsum : ∃ q, sum.quantity? = some q) :
    ∃ total, weightFrom c sum signals = .ok total := by
  induction signals generalizing sum with
  | nil => exact ⟨sum, rfl⟩
  | cons s rest ih =>
    obtain ⟨⟨⟨parsed, hparsed⟩, q, hq⟩, hrest⟩ := List.forall_mem_cons.mp hsignals
    obtain ⟨p, hp⟩ := hsum
    obtain ⟨selector, weight⟩ := s
    have hfound : c.selectOneText? selector = .ok (parsed.selectOne? c) :=
      Cursor.searchText?_of_parse helement hparsed
    have hadd : sum.add? weight = some (.measured (p.add q)) := by
      obtain rfl : weight = .measured q := hq
      cases sum <;> simp_all [Amount.add?, Amount.quantity?]
    rw [weightFrom, hfound]
    cases parsed.selectOne? c with
    | none => exact ih hrest ⟨p, hp⟩
    | some found =>
      dsimp only
      rw [hadd]
      exact ih hrest ⟨p.add q, rfl⟩

/-- An adapter whose signs can be read and whose weights are measured always answers. -/
theorem exists_canHandle_eq {a : Adapter} (hscores : a.overrides.canHandle = none)
    (hsignals : ∀ s ∈ a.profile.signals,
      (∃ parsed, Selector.parse s.1 = .ok parsed) ∧ ∃ q, s.2 = .measured q) (c : Cursor) :
    ∃ score, a.canHandle c = .ok score := by
  rw [canHandle, hscores]
  dsimp only
  split
  · rename_i helement
    obtain ⟨total, htotal⟩ :=
      exists_weightFrom_eq helement hsignals ⟨.finite 0, Amount.quantity?_zero⟩
    exact ⟨scoreOf total, by rw [htotal]; rfl⟩
  · exact ⟨noScore, rfl⟩

end Adapter

end Pages

end Transcript
