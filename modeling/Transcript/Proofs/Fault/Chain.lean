import Mathlib.Data.List.Chain
import Mathlib.Data.List.Perm.Subperm
import Mathlib.Logic.Relation
import Transcript.Fault.Chain
import Transcript.Proofs.Text.Lines
import Transcript.Proofs.Text.Tally
import Transcript.Proofs.Text.Trimming

/-!
# Following the links of faults

The links from a fault are followed until they end, or lead back to a fault that has been met. That
is always the case before the steps run out, since no fault is met twice. What is met is the fault
itself and all that its links lead to, in this order.

The causes of a fault are looked for in the same way, from the first link on, but the fault itself
does not count as met there. So they are what is met behind it; and if the links lead back to it, it
stands among its own causes, as the last of them.

## Main definitions

- `FaultGraph.Leads`: one link, to the cause of a fault or else to what was being handled
- `FaultGraph.Returns`: the links from a fault lead back to it
- `FaultGraph.IsTour`: a fault and all that its links lead to, each once and in order
- `FaultGraph.Walk`: what is met on the way, beside what has been met
- `Fault.firstLine`: the first line of what stands between the blanks around a text

## Main results

- `FaultGraph.walk_follow`: following links is a walk to its end
- `FaultGraph.follow_next?`: what is met behind a fault
- `Fault.headline?_eq`: a text that is not blank has a first line
- `FaultGraph.tour_of_report`: what is told of a fault and of its causes
-/

namespace Transcript

namespace FaultGraph

variable {g : FaultGraph} {i j : Nat}

/-! ## Links -/

/-- A fault leads to its cause, or to the fault that was being handled if it has none. -/
def Leads (g : FaultGraph) (i j : Nat) : Prop :=
  j < g.length ∧ ∃ linked, g[i]? = some linked ∧
    (linked.cause = some j ∨ linked.cause = none ∧ linked.handled = some j)

theorem leads_iff : g.Leads i j ↔ g.next? i = some j ∧ j < g.length := by
  rw [Leads, next?, and_comm]
  refine and_congr_left' ?_
  cases hi : g[i]? with
  | none => simp
  | some linked => cases hcause : linked.cause <;> simp [hcause]

/-- The links from a fault lead back to it. -/
def Returns (g : FaultGraph) (i : Nat) : Prop :=
  Relation.TransGen g.Leads i i

/-- A fault and all that its links lead to, each once, and each behind the one that leads to it. -/
structure IsTour (g : FaultGraph) (i : Nat) (l : List Nat) : Prop where
  /-- The fault comes first. -/
  start : l.head? = some i
  /-- Each fault leads to the one behind it. -/
  order : l.IsChain g.Leads
  /-- No fault is met twice. -/
  once : l.Nodup
  /-- All that can be reached is met, and nothing else. -/
  mem_iff : ∀ j, j ∈ l ↔ Relation.ReflTransGen g.Leads i j

/-! ## Walks -/

/-- What is met from some place on, if `visited` has been met: nothing if no fault stands there or
it has been met, and else that fault and what is met from the next one on. -/
inductive Walk (g : FaultGraph) : List Nat → Option Nat → List Nat → Prop where
  /-- There is nothing new to be met. -/
  | stop {visited : List Nat} {current : Option Nat}
      (hmet : ∀ i, current = some i → i < g.length → i ∈ visited) : Walk g visited current []
  /-- A fault is met that has not been met before. -/
  | step {visited rest : List Nat} {i : Nat} (hin : i < g.length) (hnew : i ∉ visited)
      (hrest : Walk g (i :: visited) (g.next? i) rest) : Walk g visited (some i) (i :: rest)

namespace Walk

variable {visited l l' : List Nat} {current : Option Nat}

/-- There is no choice on the way. -/
theorem unique (h : g.Walk visited current l) (h' : g.Walk visited current l') : l = l' := by
  induction h generalizing l' with
  | stop hmet =>
    cases h' with
    | stop => rfl
    | step hin hnew hrest => exact absurd (hmet _ rfl hin) hnew
  | step hin hnew hrest ih =>
    cases h' with
    | stop hmet => exact absurd (hmet _ rfl hin) hnew
    | step _ _ hrest' => rw [ih hrest']

theorem lt_length (h : g.Walk visited current l) (hj : j ∈ l) : j < g.length := by
  induction h with
  | stop => cases hj
  | step hin hnew hrest ih =>
    rcases List.mem_cons.mp hj with rfl | hlater
    · exact hin
    · exact ih hlater

theorem notMem_visited (h : g.Walk visited current l) (hj : j ∈ l) : j ∉ visited := by
  induction h with
  | stop => cases hj
  | step hin hnew hrest ih =>
    rcases List.mem_cons.mp hj with rfl | hlater
    · exact hnew
    · exact List.not_mem_of_not_mem_cons (ih hlater)

theorem nodup (h : g.Walk visited current l) : l.Nodup := by
  induction h with
  | stop => exact List.nodup_nil
  | step hin hnew hrest ih =>
    -- What is met counts as visited on the rest of the walk.
    exact List.nodup_cons.mpr ⟨fun hi => hrest.notMem_visited hi List.mem_cons_self, ih⟩

theorem mem_or_mem_of_current (h : g.Walk visited current l) (hi : current = some i)
    (hin : i < g.length) : i ∈ visited ∨ i ∈ l := by
  cases h with
  | stop hmet => exact .inl (hmet i hi hin)
  | step =>
    obtain rfl := Option.some.inj hi
    exact .inr List.mem_cons_self

theorem current_of_mem_head? (h : g.Walk visited current l) (hj : j ∈ l.head?) :
    current = some j ∧ j < g.length := by
  cases h with
  | stop => cases hj
  | step hin =>
    obtain rfl := Option.some.inj hj
    exact ⟨rfl, hin⟩

/-- Each fault that is met leads to the next one. -/
theorem isChain (h : g.Walk visited current l) : l.IsChain g.Leads := by
  induction h with
  | stop => exact List.isChain_nil
  | step hin hnew hrest ih =>
    exact List.isChain_cons.mpr
      ⟨fun j hj => leads_iff.mpr (hrest.current_of_mem_head? hj), ih⟩

/-- A walk goes on until nothing new is left. -/
theorem mem_or_mem_of_leads (h : g.Walk visited current l) (hi : i ∈ l) (hj : g.Leads i j) :
    j ∈ visited ∨ j ∈ l := by
  induction h with
  | stop => cases hi
  | @step visited rest k hin hnew hrest ih =>
    -- The rest of the walk begins where `k` leads, and what it leads to is met there at the latest.
    have hlater : j ∈ k :: visited ∨ j ∈ rest := by
      rcases List.mem_cons.mp hi with rfl | hi
      · obtain ⟨hnext, hjin⟩ := leads_iff.mp hj
        exact hrest.mem_or_mem_of_current hnext hjin
      · exact ih hi
    rcases hlater with hmet | hrest
    · rcases List.mem_cons.mp hmet with rfl | hvisited
      · exact .inr List.mem_cons_self
      · exact .inl hvisited
    · exact .inr (List.mem_cons_of_mem _ hrest)

theorem exists_reaches (h : g.Walk visited current l) (hj : j ∈ l) :
    ∃ i, current = some i ∧ i < g.length ∧ Relation.ReflTransGen g.Leads i j := by
  induction h with
  | stop => cases hj
  | @step visited rest i hin hnew hrest ih =>
    refine ⟨i, rfl, hin, ?_⟩
    rcases List.mem_cons.mp hj with rfl | hlater
    · exact .refl
    · obtain ⟨k, hnext, hk, hreach⟩ := ih hlater
      exact .head (leads_iff.mpr ⟨hnext, hk⟩) hreach

/-- On a walk from the beginning, all that can be reached is met. -/
theorem mem_iff (h : g.Walk [] current l) :
    j ∈ l ↔ ∃ i, current = some i ∧ i < g.length ∧ Relation.ReflTransGen g.Leads i j := by
  refine ⟨h.exists_reaches, ?_⟩
  -- Nothing was visited before the walk, so what is met is closed under links.
  rintro ⟨i, hi, hin, hreach⟩
  induction hreach with
  | refl => exact (h.mem_or_mem_of_current hi hin).resolve_left List.not_mem_nil
  | tail _ hleads ih => exact (h.mem_or_mem_of_leads ih hleads).resolve_left List.not_mem_nil

/-- A walk from a fault is a tour. -/
theorem isTour (h : g.Walk [] (some i) l) (hin : i < g.length) : g.IsTour i l := by
  refine ⟨?_, h.isChain, h.nodup, fun j => ?_⟩
  · cases h with
    | stop hmet => exact absurd (hmet i rfl hin) List.not_mem_nil
    | step => rfl
  · rw [h.mem_iff]
    constructor
    · rintro ⟨k, hk, -, hreach⟩
      obtain rfl := Option.some.inj hk
      exact hreach
    · exact fun hreach => ⟨i, rfl, hin, hreach⟩

/-- If a fault whose links lead to what has been met, or to where the walk is, no longer counts as
met, then the same is met, or the fault itself as well, as the last one. -/
theorem or_append_of_unmet {met : List Nat} (h : g.Walk visited current l)
    (hvisited : ∀ k, k ∈ visited ↔ k = i ∨ k ∈ met) (hin : i < g.length) (hnew : i ∉ met)
    (hclosed : ∀ k, g.Leads i k → k ∈ met ∨ current = some k) :
    g.Walk met current l ∨ g.Walk met current (l ++ [i]) := by
  induction h generalizing met with
  | @stop visited current hend =>
    by_cases hcurrent : current = some i
    · -- The fault is met here, and there is nowhere to go from it.
      subst hcurrent
      refine .inr (.step hin hnew (.stop fun k hk hkin => ?_))
      rcases hclosed k (leads_iff.mpr ⟨hk, hkin⟩) with hmet | hself
      · exact List.mem_cons_of_mem _ hmet
      · obtain rfl := Option.some.inj hself
        exact List.mem_cons_self
    · refine .inl (.stop fun k hk hkin => ?_)
      refine ((hvisited k).mp (hend k hk hkin)).resolve_left ?_
      rintro rfl
      exact hcurrent hk
  | @step visited rest k hk hknew hrest ih =>
    -- Behind a first step, all that `i` leads to has been met, wherever the walk began.
    have hki : k ≠ i := fun heq => hknew ((hvisited k).mpr (.inl heq))
    have hkmet : k ∉ met := fun hmem => hknew ((hvisited k).mpr (.inr hmem))
    have hlater : g.Walk (k :: met) (g.next? k) rest ∨
        g.Walk (k :: met) (g.next? k) (rest ++ [i]) := by
      refine ih (fun m => ?_) (List.not_mem_cons_of_ne_of_not_mem hki.symm hnew) fun m hm => ?_
      · simp [hvisited, or_left_comm]
      · rcases hclosed m hm with hmet | hself
        · exact .inl (List.mem_cons_of_mem _ hmet)
        · obtain rfl := Option.some.inj hself
          exact .inl List.mem_cons_self
    exact hlater.imp (.step hk hkmet) (.step hk hkmet)

end Walk

/-! ## The walk that is taken -/

/-- As many steps as there are faults that have not been met are enough. -/
theorem walk_followFrom (steps : Nat) {visited : List Nat} (current : Option Nat)
    (hnodup : visited.Nodup) (hvisited : ∀ k ∈ visited, k < g.length)
    (hsteps : g.length ≤ visited.length + steps) :
    g.Walk visited current (followFrom g steps visited current) := by
  fun_induction followFrom g steps visited current with
  | case1 visited current =>
    -- Everything has been met.
    refine .stop fun i _ hi => ?_
    have hsub : visited ⊆ List.range g.length := fun k hk => List.mem_range.mpr (hvisited k hk)
    have hperm : visited.Perm (List.range g.length) :=
      (hnodup.subperm hsub).perm_of_length_le (by simpa using hsteps)
    exact hperm.mem_iff.mpr (List.mem_range.mpr hi)
  | case2 steps visited => exact .stop nofun
  | case3 steps visited i hend =>
    refine .stop fun j hj hin => ?_
    obtain rfl := Option.some.inj hj
    simpa [Nat.not_le.mpr hin] using hend
  | case4 steps visited i hgo ih =>
    -- One step is taken, and one fault more has been met.
    obtain ⟨hnew, hin⟩ : i ∉ visited ∧ i < g.length := by simpa using hgo
    refine .step hin hnew (ih (List.nodup_cons.mpr ⟨hnew, hnodup⟩) ?_ ?_)
    · exact List.forall_mem_cons.mpr ⟨hin, hvisited⟩
    · rw [List.length_cons]
      omega

/-- The links are followed to their end. -/
theorem walk_follow (g : FaultGraph) (start : Option Nat) : g.Walk [] start (g.follow start) :=
  walk_followFrom g.length start List.nodup_nil nofun (by simp)

/-- Behind a fault stand its causes, and if the links lead back to it, it stands among them
itself. -/
theorem follow_next? (hin : i < g.length) :
    ∃ rest, g.follow (some i) = i :: rest ∧
      (¬ g.Returns i → g.follow (g.next? i) = rest) ∧
      (g.Returns i → g.follow (g.next? i) = rest ++ [i]) := by
  have hwalk := walk_follow g (some i)
  have hcauses := walk_follow g (g.next? i)
  -- The fault is met behind itself just if it is reached from what it leads to.
  have hreturns : i ∈ g.follow (g.next? i) ↔ g.Returns i := by
    rw [hcauses.mem_iff, Returns, Relation.TransGen.head'_iff]
    simp only [leads_iff, and_assoc]
  generalize g.follow (some i) = seen at hwalk
  cases hwalk with
  | stop hmet => exact absurd (hmet i rfl hin) List.not_mem_nil
  | @step _ rest _ _ _ hrest =>
    have hnot : i ∉ rest := fun hi => hrest.notMem_visited hi List.mem_cons_self
    -- What a fault leads to is where its causes are looked for first.
    have hbehind : g.Walk [] (g.next? i) rest ∨ g.Walk [] (g.next? i) (rest ++ [i]) :=
      hrest.or_append_of_unmet (by simp) hin List.not_mem_nil fun k hk => .inr (leads_iff.mp hk).1
    refine ⟨rest, rfl, ?_⟩
    rw [← hreturns]
    rcases hbehind with hpassed | hmet
    · rw [hcauses.unique hpassed]
      exact ⟨fun _ => rfl, fun hi => absurd hi hnot⟩
    · rw [hcauses.unique hmet]
      exact ⟨fun hi => absurd (List.mem_append_right _ List.mem_cons_self) hi, fun _ => rfl⟩

end FaultGraph

/-! ## What is told of a fault -/

open Chars (isBlank isLineBoundary)

/-- The first line of what stands between the blanks around a text, without blanks around it. -/
def Fault.firstLine (f : Fault) : String :=
  Text.onChars (fun s => Chars.trim ((Chars.trim s).takeWhile fun c => !isLineBoundary c)) f.text

/-- What is left of a text begins with something visible, and so does its first line. -/
theorem Chars.trim_takeWhile_trim_ne_nil {s : List Char} (h : trim s ≠ []) :
    trim ((trim s).takeWhile fun c => !isLineBoundary c) ≠ [] := by
  obtain ⟨c, rest, hkept⟩ := List.exists_cons_of_ne_nil h
  have hc : isBlank c = false := not_isBlank_of_mem_head?_trim (s := s) (by simp [hkept])
  -- Line boundaries are blank, so the first character belongs to the first line.
  have hinside : isLineBoundary c = false := by
    refine eq_false_of_ne_true fun hboundary => ?_
    rw [isBlank_of_isLineBoundary hboundary] at hc
    cases hc
  rw [hkept, List.takeWhile_cons_of_pos (by simp [hinside]), Ne, trim_eq_nil_iff]
  intro hall
  rw [hall c List.mem_cons_self] at hc
  cases hc

/-- The headline of a fault is its first line, which there is if its text is not blank. -/
theorem Fault.headline?_eq (f : Fault) :
    f.headline? = if Text.isAllBlank f.text then none else some f.firstLine := by
  have hblank : Text.isAllBlank f.text = true ↔ Chars.trim f.text.toList = [] := by
    rw [Chars.trim_eq_nil_iff, Text.isAllBlank, List.all_eq_true]
  rw [Fault.headline?]
  by_cases hkept : Chars.trim f.text.toList = []
  · have hnone : Text.lines (Text.trim f.text) = [] := by
      rw [Text.lines, Text.trim, Text.toList_onChars, hkept]
      rfl
    rw [hnone, if_pos (hblank.mpr hkept)]
  · obtain ⟨others, hothers⟩ := Chars.exists_lines_eq hkept
    have hlines : Text.lines (Text.trim f.text) =
        .ofList ((Chars.trim f.text.toList).takeWhile fun c => !isLineBoundary c) ::
          others.map String.ofList := by
      rw [Text.lines, Text.trim, Text.toList_onChars, hothers, List.map_cons]
    have hline : Text.trim
        (.ofList ((Chars.trim f.text.toList).takeWhile fun c => !isLineBoundary c)) =
          f.firstLine := by
      rw [Text.trim, Text.onChars, String.toList_ofList]
      rfl
    have hsome : (f.firstLine == "") = false := by
      refine beq_eq_false_iff_ne.mpr fun hempty => Chars.trim_takeWhile_trim_ne_nil hkept ?_
      rw [← String.toList_inj, Fault.firstLine, Text.toList_onChars] at hempty
      exact hempty
    rw [hlines, if_neg (mt hblank.mp hkept)]
    simp only [hline, hsome]
    rfl

namespace FaultGraph

variable {g : FaultGraph} {i : Nat}

/-- The fault that stands at a position. -/
def StandsAt (g : FaultGraph) (i : Nat) (f : Fault) : Prop :=
  ∃ linked, g[i]? = some linked ∧ linked.fault = f

/-- Of each position that exists, its fault is told. -/
theorem forall₂_standsAt {l : List Nat} (h : ∀ i ∈ l, i < g.length) :
    List.Forall₂ g.StandsAt l (l.filterMap fun i => (g[i]?).map LinkedFault.fault) := by
  induction l with
  | nil => exact .nil
  | cons i rest ih =>
    obtain ⟨hin, hrest⟩ := List.forall_mem_cons.mp h
    have hi : g[i]? = some g[i] := List.getElem?_eq_getElem hin
    rw [List.filterMap_cons, hi]
    exact .cons ⟨_, hi, rfl⟩ (ih hrest)

theorem messages_eq (g : FaultGraph) (i : Nat) :
    g.messages i =
      ((g.chain i).filter fun f => !Text.isAllBlank f.text).map Fault.firstLine := by
  rw [messages]
  induction g.chain i with
  | nil => rfl
  | cons f rest ih =>
    rw [List.filterMap_cons, Fault.headline?_eq, ih, List.filter_cons]
    cases Text.isAllBlank f.text <;> rfl

/-- The faults of a graph are followed from one of them to the end, cycles included, and each of
them is met at most once: itself and all that its links lead to. Of each one with a text that is not
blank, the first line is told. The causes that are reported are those met behind it, and also the
fault itself, as the last of them, just if the links lead back to it. -/
theorem tour_of_report (g : FaultGraph) {i : Nat} (hin : i < g.length) :
    ∃ rest report, g.IsTour i (i :: rest) ∧
      List.Forall₂ g.StandsAt (i :: rest) (g.chain i) ∧
      g.messages i =
        ((g.chain i).filter fun f => !Text.isAllBlank f.text).map Fault.firstLine ∧
      g.report? i = some report ∧ g.StandsAt i report.fault ∧
      (¬ g.Returns i → List.Forall₂ g.StandsAt rest report.causes) ∧
      (g.Returns i → List.Forall₂ g.StandsAt (rest ++ [i]) report.causes) := by
  obtain ⟨rest, hseen, hpassed, hmet⟩ := follow_next? hin
  have hwalk := walk_follow g (some i)
  have hi : g[i]? = some g[i] := List.getElem?_eq_getElem hin
  have htold : ∀ start, List.Forall₂ g.StandsAt (g.follow start)
      ((g.follow start).filterMap fun j => (g[j]?).map LinkedFault.fault) :=
    fun start => forall₂_standsAt fun j hj => (walk_follow g start).lt_length hj
  refine ⟨rest, ⟨g[i].fault, g.causes i⟩, ?_, ?_, messages_eq g i, ?_, ⟨_, hi, rfl⟩, ?_, ?_⟩
  · rw [← hseen]
    exact hwalk.isTour hin
  · rw [← hseen]
    exact htold (some i)
  · rw [report?, hi]
    rfl
  · intro hnot
    rw [← hpassed hnot]
    exact htold (g.next? i)
  · intro hreturns
    rw [← hmet hreturns]
    exact htold (g.next? i)

/-- Two faults, each the cause of the other. -/
def circle : FaultGraph :=
  [{ fault := .of .badValue "a", cause := some 1 },
    { fault := .of .missingKey "b", cause := some 0 }]

/-- Of two faults that caused each other, each one is reported as a cause of itself. -/
theorem tour_of_report_circle :
    0 < circle.length ∧ circle.Returns 0 ∧
      ∃ rest report, circle.IsTour 0 (0 :: rest) ∧ circle.report? 0 = some report ∧
        circle.StandsAt 0 report.fault ∧
        List.Forall₂ circle.StandsAt (rest ++ [0]) report.causes := by
  have hin : 0 < circle.length := by decide
  have hreturns : circle.Returns 0 :=
    .tail (.single (leads_iff.mpr ⟨rfl, by decide⟩)) (leads_iff.mpr ⟨rfl, hin⟩)
  obtain ⟨rest, report, htour, -, -, hreport, hfault, -, hmet⟩ := tour_of_report circle hin
  exact ⟨hin, hreturns, rest, report, htour, hreport, hfault, hmet hreturns⟩

end FaultGraph

end Transcript
