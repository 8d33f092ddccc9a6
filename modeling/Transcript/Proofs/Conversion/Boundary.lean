import Transcript.Proofs.Conversion.Document
import Transcript.Proofs.Conversion.Invariant
import Transcript.Proofs.Conversion.Occurrence

/-!
# The boundaries

Two boundaries surround every element, and only faults that give up the conversion cross them. The
log of a conversion accounts for everything: a node that is converted has its text remembered
afterwards; a conversion of a node that fails has a fault that gives up as the last entry of its
log, so that nothing is visited or recorded any more; and the issues are those of the failures in
the log, one each, in order. Rules may ask for any node at all, and filters and rules may fail in
any way.

## Main definitions

- `Session.Reachable`: the sessions that steps of a conversion lead to
- `Passed`, `Failed`, `Accounts`: how a log accounts for an action

## Main results

- `guarded_accounts`: what a boundary does to an account
- `process_accounts`: the log accounts for the conversion of a node
- `convertCounted_boundaries`: only faults that give up the conversion cross the boundaries
-/

namespace Transcript

open Markup

/-! ## Accounts -/

/-- A log accounts for an action that succeeds: nothing in it gives up the conversion, and every
failure in it left its issue. -/
structure Passed (log : List Occurrence) (s s' : Session) : Prop where
  sound : s'.Sound
  visits : s'.visits = s.visits + log.countP Occurrence.isVisit
  calm : ∀ o ∈ log, o.isAbort = false
  issues : s'.issues.toList = s.issues.toList ++ log.filterMap Occurrence.issue?

/-- A log accounts for an action that fails: the fault occurs at its end and leaves no issue so far.
A fault that does not give up the conversion is one of the action's own, as told by `own`. -/
structure Failed (own : Fault → Option Occurrence) (log : List Occurrence) (fault : Fault)
    (s s' : Session) : Prop where
  sound : s'.Sound
  visits : s'.visits = s.visits + log.countP Occurrence.isVisit
  ends : ∃ before last, log = before ++ [last] ∧ last.fault? = some fault ∧
    (fault.isAbort = true ∨ own fault = some last) ∧ (∀ o ∈ before, o.isAbort = false) ∧
      s'.issues.toList = s.issues.toList ++ before.filterMap Occurrence.issue?

/-- A log accounts for the result of an action. -/
def Accounts {α : Type} (own : Fault → Option Occurrence) (log : List Occurrence) (s : Session) :
    Except Fault α × Session → Prop
  | (.ok _, s') => Passed log s s'
  | (.error fault, s') => Failed own log fault s s'

/-- A text that comes back for a node is remembered of it. -/
def Stores (node : Option Cursor) (result : Except Fault String × Session) : Prop :=
  ∀ text s', result = (.ok text, s') → s'.textAt? (nodeKey node) = some text

/-- No fault but one that gives up the conversion. -/
def noneOwn : Fault → Option Occurrence := fun _ => none

/-- The faults that a boundary at a node meets. -/
def ownOf (node : Option Cursor) (handler : String) : Fault → Option Occurrence :=
  fun fault => some (.raised fault node handler)

namespace Passed

variable {log log' : List Occurrence} {own : Fault → Option Occurrence} {fault : Fault}
  {s s' s'' : Session}

theorem of_same (hs : s'.Sound) (hvisits : s'.visits = s.visits) (hissues : s'.issues = s.issues) :
    Passed [] s s' where
  sound := hs
  visits := by simp [hvisits]
  calm := by simp
  issues := by simp [hissues]

theorem append (h : Passed log s s') (hnext : Passed log' s' s'') : Passed (log ++ log') s s'' where
  sound := hnext.sound
  visits := by
    rw [hnext.visits, h.visits, List.countP_append]
    omega
  calm o ho := (List.mem_append.mp ho).elim (h.calm o) (hnext.calm o)
  issues := by
    rw [hnext.issues, h.issues, List.filterMap_append, List.append_assoc]

theorem failed (h : Passed log s s') (hnext : Failed own log' fault s' s'') :
    Failed own (log ++ log') fault s s'' where
  sound := hnext.sound
  visits := by
    rw [hnext.visits, h.visits, List.countP_append]
    omega
  ends := by
    obtain ⟨before, last, hlog, hfault, hown, hcalm, hissues⟩ := hnext.ends
    refine ⟨log ++ before, last, ?_, hfault, hown, ?_, ?_⟩
    · rw [hlog, List.append_assoc]
    · intro o ho
      exact (List.mem_append.mp ho).elim (h.calm o) (hcalm o)
    · rw [hissues, h.issues, List.filterMap_append, List.append_assoc]

/-- What passes can be followed by anything that is accounted for. -/
theorem accounts {α : Type} {result : Except Fault α × Session} (h : Passed log s s')
    (hnext : Accounts own log' s' result) : Accounts own (log ++ log') s result := by
  match result, hnext with
  | (.ok _, _), hnext => exact h.append hnext
  | (.error _, _), hnext => exact h.failed hnext

/-- What leaves no trace can stand in front of anything. -/
theorem accounts_of_nil {α : Type} {result : Except Fault α × Session} (h : Passed [] s s')
    (hnext : Accounts own log s' result) : Accounts own log s result :=
  h.accounts hnext

end Passed

theorem Failed.weaken {log : List Occurrence} {own : Fault → Option Occurrence} {fault : Fault}
    {s s' : Session} (h : Failed noneOwn log fault s s') : Failed own log fault s s' := by
  obtain ⟨before, last, hlog, hfault, hown, hcalm, hissues⟩ := h.ends
  refine ⟨h.sound, h.visits, before, last, hlog, hfault, .inl ?_, hcalm, hissues⟩
  rcases hown with habort | hown
  · exact habort
  · cases hown

theorem Accounts.weaken {α : Type} {log : List Occurrence} {own : Fault → Option Occurrence}
    {s : Session} {result : Except Fault α × Session} (h : Accounts noneOwn log s result) :
    Accounts own log s result := by
  match result, h with
  | (.ok _, _), h => exact h
  | (.error _, _), h => exact Failed.weaken h

theorem Failed.isAbort {log : List Occurrence} {fault : Fault} {s s' : Session}
    (h : Failed noneOwn log fault s s') : fault.isAbort = true := by
  obtain ⟨before, last, -, -, hown, -, -⟩ := h.ends
  rcases hown with habort | hown
  · exact habort
  · cases hown

/-! ## Boundaries -/

theorem issues_recover (setting : Setting) (fault : Fault) (node : Option Cursor)
    (handler : String) (recovery : Recovery) (s : Session) :
    (recover setting fault node handler recovery s).issues.toList =
      s.issues.toList ++ [issueOf fault node handler recovery] := by
  have hfindings := congrArg Findings.issues
    (findings_recover setting fault node handler recovery s)
  simp only [Findings.issues_append, Note.findings, Findings.issues_listenerFindings,
    List.append_nil] at hfindings
  exact hfindings

/-- A boundary lets through what gives up the conversion, and records everything else. -/
theorem guarded_accounts (setting : Setting) (fallback : Unit → String) {node : Option Cursor}
    {handler : String} {action : Action String} {log : List Occurrence} {s : Session}
    (h : Accounts (ownOf node handler) log s (action s)) :
    Accounts noneOwn log s (guarded setting node handler fallback action s) := by
  unfold guarded
  cases haction : action s with
  | mk outcome s' =>
    rw [haction] at h
    cases outcome with
    | ok text => exact h
    | error fault =>
      obtain ⟨before, last, hlog, hfault, hown, hcalm, hissues⟩ := h.ends
      cases habort : fault.isAbort with
      -- The fault gives up the conversion, and the boundary lets it through.
      | true =>
        simp only [habort]
        exact ⟨h.sound, h.visits, before, last, hlog, hfault, .inl habort, hcalm, hissues⟩
      -- Any other fault is the own one of the action: it gets its issue, and the log passes.
      | false =>
        simp only [habort]
        have hlast : last = .raised fault node handler := by
          rcases hown with hgivesUp | hown
          · rw [habort] at hgivesUp
            cases hgivesUp
          · exact (Option.some.inj hown).symm
        have hsame := sameMemory_recover setting fault node handler fault.kind.recovery s'
        refine ⟨hsame.sound h.sound, hsame.visits.trans h.visits, ?_, ?_⟩
        · intro o ho
          rw [hlog, List.mem_append, List.mem_singleton] at ho
          rcases ho with hbefore | rfl
          · exact hcalm o hbefore
          · simp [hlast, Occurrence.isAbort, Occurrence.fault?, habort]
        · rw [issues_recover, hissues, hlog, List.filterMap_append, List.append_assoc, hlast]
          simp [Occurrence.issue?, habort]

/-! ## Steps -/

/-- A visit breaks a budget, which gives up the conversion, or counts. -/
theorem visit_accounts (setting : Setting) (depth : Nat) (node : Option Cursor) {s : Session}
    (hs : s.Sound) :
    Accounts noneOwn (logVisit setting depth node s) s (visit setting depth s) := by
  have hcounted : ∀ readings, Session.Sound
      { s with visits := s.visits + 1, readings := readings } := fun _ =>
    ⟨hs.arena, hs.resolutions, hs.texts⟩
  unfold logVisit
  obtain ⟨readings, hvisit | ⟨fault, habort, hvisit⟩ | ⟨fault, habort, hvisit⟩⟩ :=
    visit_cases setting depth s
  · rw [hvisit]
    exact ⟨hcounted readings, by simp [Occurrence.isVisit], by simp [Occurrence.isAbort,
      Occurrence.fault?], by simp [Occurrence.issue?]⟩
  · rw [hvisit]
    simp only [Nat.succ_ne_self, if_false]
    exact ⟨hcounted readings, by simp [List.countP_cons, Occurrence.isVisit], [.visited node depth],
      .overran fault node, rfl, rfl, .inl habort, by simp [Occurrence.isAbort, Occurrence.fault?],
      by simp [Occurrence.issue?]⟩
  · rw [hvisit]
    simp only [if_true]
    exact ⟨hs, by simp [Occurrence.isVisit], [], .overran fault node, rfl, rfl, .inl habort,
      by simp, by simp⟩

/-- The search for a rule fails with a fault of a filter, or not at all. -/
theorem resolve_accounts (setting : Setting) (c : Cursor) {s : Session} (hs : s.Sound) :
    match resolve setting c s with
    | (.error fault, s') =>
      Failed (ownOf (some c) "node") [.raised fault (some c) "node"] fault s s'
    | (.ok _, s') => Passed [] s s' := by
  have hnumber := Session.sound_number hs (some c.place)
  rw [resolve_eq hs]
  cases s.ruleAt? (some c.place) with
  | some rule => exact .of_same hnumber rfl rfl
  | none =>
    cases setting.rules.find c with
    | ok rule => exact .of_same (Session.sound_keepRule hnumber _ _) rfl rfl
    | error fault =>
      exact ⟨hnumber, by simp [Occurrence.isVisit, Session.number], [], _, by simp, rfl, .inr rfl,
        by simp, by simp [Session.number]⟩

section Descend

variable {descend : Converter} {logger : Logger}

/-- The program of a rule fails with a fault of its own, or with one that gives up. -/
theorem run_accounts
    (hdescend : ∀ node s, s.Sound → Accounts noneOwn (logger node s) s (descend node s))
    {α : Type} (c : Cursor) (handler : String) (program : Rendering α) {s : Session}
    (hs : s.Sound) :
    Accounts (ownOf (some c) handler) (program.log descend logger c handler s) s
      (program.run descend s) := by
  induction program generalizing s with
  | done value => exact Passed.of_same hs rfl rfl
  | raise fault =>
    exact ⟨hs, by simp [Rendering.log, Occurrence.isVisit], [], _, by simp [Rendering.log], rfl,
      .inr rfl, by simp, by simp⟩
  | report diagnostic next ih =>
    have hstep : Passed [] s (s.report diagnostic) :=
      .of_same ⟨hs.arena, hs.resolutions, hs.texts⟩ rfl rfl
    exact hstep.accounts_of_nil (ih hstep.sound)
  | warn message next ih =>
    have hstep : Passed [] s (s.warn message) :=
      .of_same ⟨hs.arena, hs.resolutions, hs.texts⟩ rfl rfl
    exact hstep.accounts_of_nil (ih hstep.sound)
  -- The conversion of the node has its own account, which the rest of the program continues.
  | process node next ih =>
    have hnode := hdescend node s hs
    simp only [Rendering.run, Rendering.log]
    cases hresult : descend node s with
    | mk outcome s' =>
      rw [hresult] at hnode
      cases outcome with
      | ok text => exact Passed.accounts hnode (ih text hnode.sound)
      | error fault =>
        rw [List.append_nil]
        exact Failed.weaken hnode
  | plant tree next ih =>
    have hstep : Passed [] s { s with trees := s.trees + 1 } :=
      .of_same ⟨hs.arena, hs.resolutions, hs.texts⟩ rfl rfl
    exact hstep.accounts_of_nil (ih _ hstep.sound)

/-- The children of an element fail with a fault that gives up, or not at all. -/
theorem convertAll_accounts
    (hdescend : ∀ node s, s.Sound → Accounts noneOwn (logger node s) s (descend node s))
    (cs : List Cursor) {s : Session} (hs : s.Sound) :
    Accounts noneOwn (logAll descend logger cs s) s (convertAll descend cs s) := by
  induction cs generalizing s with
  | nil => exact Passed.of_same hs rfl rfl
  | cons c rest ih =>
    have hfirst := hdescend (some c) s hs
    simp only [convertAll, logAll]
    cases hresult : descend (some c) s with
    | mk outcome s' =>
      rw [hresult] at hfirst
      cases outcome with
      | error fault =>
        rw [List.append_nil]
        exact hfirst
      | ok first =>
        have hrest := Passed.accounts hfirst (ih hfirst.sound)
        dsimp only
        cases hothers : convertAll descend rest s' with
        | mk outcome s'' =>
          rw [hothers] at hrest
          cases outcome with
          | ok others => exact hrest
          | error fault => exact hrest

theorem convertElement_accounts (setting : Setting) (depth : Nat)
    (hdescend : ∀ node s, s.Sound → Accounts noneOwn (logger node s) s (descend node s))
    (c : Cursor) {s : Session} (hs : s.Sound) :
    Accounts (ownOf (some c) "node") (logElement setting descend logger depth c s) s
      (convertElement setting descend depth c s) := by
  have hresolve := resolve_accounts setting c hs
  unfold convertElement logElement
  cases hfound : resolve setting c s with
  | mk outcome t =>
    rw [hfound] at hresolve
    cases outcome with
    -- A filter failed: nothing below is visited.
    | error fault => exact hresolve
    | ok rule =>
      have hpassed : Passed [] s t := hresolve
      refine hpassed.accounts_of_nil ?_
      dsimp only
      have hchildren := convertAll_accounts hdescend c.children hpassed.sound
      cases hall : convertAll descend c.children t with
      | mk outcome s' =>
        rw [hall] at hchildren
        cases outcome with
        | error fault =>
          simp only [List.append_nil]
          exact Failed.weaken hchildren
        | ok content =>
          refine Passed.accounts hchildren ?_
          cases rule with
          | none => exact Passed.of_same hchildren.sound rfl rfl
          | some rule =>
            -- The inner boundary meets the faults of the rule, and lets no other one through.
            have hrun := run_accounts hdescend c rule.name (rule.replacement
              ⟨c, depth, setting.adapter, setting.options⟩ content) hchildren.sound
            exact Accounts.weaken (guarded_accounts setting (fun _ => content) hrun)

theorem convertNode_accounts (setting : Setting) (depth : Nat)
    (hdescend : ∀ node s, s.Sound → Accounts noneOwn (logger node s) s (descend node s))
    (node : Option Cursor) {s : Session} (hs : s.Sound) :
    Accounts (ownOf node "node") (logNode setting descend logger depth node s) s
      (convertNode setting descend depth node s) := by
  cases node with
  | none => exact Passed.of_same hs rfl rfl
  | some c =>
    have helement := convertElement_accounts setting depth hdescend c hs
    obtain ⟨tree, node, above⟩ := c
    cases node with
    | leaf kind text => exact Passed.of_same hs rfl rfl
    | element name attributes children => exact helement
    | document children => exact helement

/-- A node that is not remembered is visited and converted behind the outer boundary; its text is
remembered in the end. -/
theorem convertFresh_accounts (setting : Setting) (depth : Nat)
    (hdescend : ∀ node s, s.Sound → Accounts noneOwn (logger node s) s (descend node s))
    (node : Option Cursor) {s : Session} (hs : s.Sound) :
    Accounts noneOwn (logFresh setting descend logger depth node s) s
        (convertFresh setting descend depth node s) ∧
      Stores node (convertFresh setting descend depth node s) := by
  have hvisit := visit_accounts setting depth node hs
  simp only [convertFresh, logFresh]
  cases hvisited : visit setting depth s with
  | mk outcome t =>
    rw [hvisited] at hvisit
    cases outcome with
    | error fault =>
      simp only [List.append_nil]
      refine ⟨hvisit, ?_⟩
      intro text s' h
      cases h
    | ok done =>
      -- The outer boundary meets the faults of the filters, and lets no other one through.
      have hconvert := guarded_accounts setting (fun _ => textOf node)
        (convertNode_accounts setting depth hdescend node hvisit.sound)
      dsimp only
      cases hguarded : guarded setting node "node" (fun _ => textOf node)
          (convertNode setting descend depth node) t with
      | mk outcome u =>
        rw [hguarded] at hconvert
        cases outcome with
        | error fault =>
          refine ⟨Passed.failed hvisit hconvert, ?_⟩
          intro text s' h
          cases h
        | ok text =>
          have hremember : Passed [] u (remember node text u) :=
            .of_same (Session.sound_remember hconvert.sound node text) rfl rfl
          constructor
          · have hall := (Passed.append hvisit hconvert).append hremember
            rw [List.append_nil] at hall
            exact hall
          · intro other s' h
            obtain ⟨htext, rfl⟩ := Prod.mk.inj h
            obtain rfl := Except.ok.inj htext
            rw [Session.textAt?_remember hconvert.sound, if_pos rfl]

end Descend

/-- What is remembered comes back as it is, and stays. -/
theorem stores_of_textAt? {node : Option Cursor} {text : String} {s : Session} (hs : s.Sound)
    (h : s.textAt? (nodeKey node) = some text) :
    Stores node (.ok text, s.number (nodeKey node)) := by
  intro other s' hresult
  obtain ⟨hother, rfl⟩ := Prod.mk.inj hresult
  obtain rfl := Except.ok.inj hother
  rw [Session.textAt?_number hs, h]

/-- The log accounts for the conversion of any node at any depth, and a text that comes back is
remembered. -/
theorem process_accounts (setting : Setting) (room depth : Nat) (node : Option Cursor)
    {s : Session} (hs : s.Sound) :
    Accounts noneOwn (logProcess setting room depth node s) s (process setting room depth node s) ∧
      Stores node (process setting room depth node s) := by
  induction room generalizing depth node s with
  -- No level is open: the depth is exceeded unless the node is remembered.
  | zero =>
    have hnumber := Session.sound_number hs (nodeKey node)
    simp only [process, logProcess, remembered?_eq hs]
    cases htext : s.textAt? (nodeKey node) with
    | some text => exact ⟨Passed.of_same hnumber rfl rfl, stores_of_textAt? hs htext⟩
    | none =>
      refine ⟨⟨hnumber, by simp [Occurrence.isVisit, Session.number], [], _, rfl, rfl, .inl rfl,
        by simp, by simp [Session.number]⟩, ?_⟩
      intro text s' h
      cases h
  | succ room ih =>
    have hnumber := Session.sound_number hs (nodeKey node)
    have hpassed : Passed [] s (s.number (nodeKey node)) := .of_same hnumber rfl rfl
    simp only [process, logProcess, remembered?_eq hs]
    cases htext : s.textAt? (nodeKey node) with
    | some text => exact ⟨hpassed, stores_of_textAt? hs htext⟩
    | none =>
      obtain ⟨haccounts, hstores⟩ := convertFresh_accounts setting depth
        (fun other t ht => (ih (depth + 1) other ht).1) node hnumber
      exact ⟨hpassed.accounts_of_nil haccounts, hstores⟩

/-! ## Whole conversions -/

/-- The log of the conversion of a document. -/
def documentLog (setting : Setting) (root : Option Cursor) : List Occurrence :=
  logAt setting 0 root (Session.start setting root)

/-- The document is converted, but its text cannot be cleaned. -/
def CleaningFails (setting : Setting) (root : Option Cursor) : Prop :=
  ∃ text fault, (processAt setting 0 root (Session.start setting root)).1 = .ok text ∧
    setting.adapter.cleanText text = .error fault

theorem isNodeFault_of_isAbort {fault : Fault} (h : fault.isAbort = true) :
    fault.kind.isNodeFault = true := by
  obtain ⟨kind, message, context⟩ := fault
  cases kind with
  | node recovery => rfl
  | budget => rfl
  | depth => rfl
  | _ => cases h

theorem issue?_of_isAbort {o : Occurrence} (h : o.isAbort = true) : o.issue? = none := by
  cases o with
  | visited node depth => rfl
  | overran fault node => rfl
  | raised fault node handler =>
    have habort : fault.isAbort = true := by simpa [Occurrence.isAbort, Occurrence.fault?] using h
    simp [Occurrence.issue?, habort]

/-- Giving up because of a fault of a node leaves no issue. -/
theorem issues_giveUp {setting : Setting} {root : Option Cursor} {fault : Fault} {s : Session}
    (h : fault.kind.isNodeFault = true) : (giveUp setting root fault s).2.2.issues = s.issues := by
  simp [giveUp, h, Session.report]

/-- Giving up visits nothing. -/
theorem visits_giveUp (setting : Setting) (root : Option Cursor) (fault : Fault) (s : Session) :
    (giveUp setting root fault s).2.2.visits = s.visits := by
  unfold giveUp
  split
  · rfl
  · exact (sameMemory_recover setting fault root "parser" .abort s).visits

/-- A conversion ends in one of three ways: the document is converted and cleaned, it is converted
but cannot be cleaned, or the traversal gave it up. -/
theorem convert_cases (setting : Setting) (root : Option Cursor) :
    (∃ markdown s, Passed (documentLog setting root) (Session.start setting root) s ∧
      ¬ CleaningFails setting root ∧ convert setting root = conclude setting markdown none s) ∨
    (∃ fault s, Passed (documentLog setting root) (Session.start setting root) s ∧
      CleaningFails setting root ∧ convert setting root =
        conclude setting (giveUp setting root fault s).1 (some (giveUp setting root fault s).2.1)
          (giveUp setting root fault s).2.2) ∨
    (∃ fault s, Failed noneOwn (documentLog setting root) fault (Session.start setting root) s ∧
      ¬ CleaningFails setting root ∧ convert setting root =
        conclude setting (giveUp setting root fault s).1 (some (giveUp setting root fault s).2.1)
          (giveUp setting root fault s).2.2) := by
  have hprocess : Accounts noneOwn (documentLog setting root) (Session.start setting root)
      (processAt setting 0 root (Session.start setting root)) :=
    (process_accounts setting _ 0 root (Session.sound_start setting root)).1
  cases hprocessed : processAt setting 0 root (Session.start setting root) with
  | mk outcome s =>
    rw [hprocessed] at hprocess
    cases outcome with
    -- The traversal gave up, so no text is there to be cleaned.
    | error fault =>
      have htraverse : traverse setting root (Session.start setting root) = (.error fault, s) := by
        simp [traverse, hprocessed]
      refine .inr (.inr ⟨fault, s, hprocess, ?_, convert_of_error htraverse⟩)
      rintro ⟨text, failure, htext, -⟩
      rw [hprocessed] at htext
      cases htext
    | ok text =>
      cases hclean : setting.adapter.cleanText text with
      | ok markdown =>
        have htraverse : traverse setting root (Session.start setting root) =
            (.ok markdown, s) := by
          simp [traverse, hprocessed, hclean]
        refine .inl ⟨markdown, s, hprocess, ?_, convert_of_ok htraverse⟩
        rintro ⟨other, failure, hother, hfailure⟩
        rw [hprocessed] at hother
        obtain rfl := Except.ok.inj hother
        rw [hclean] at hfailure
        cases hfailure
      | error failure =>
        have htraverse : traverse setting root (Session.start setting root) =
            (.error failure, s) := by
          simp [traverse, hprocessed, hclean]
        exact .inr (.inl ⟨failure, s, hprocess, ⟨text, failure, by rw [hprocessed], hclean⟩,
          convert_of_error htraverse⟩)

theorem isAborted_convert_iff (setting : Setting) (root : Option Cursor) :
    (convert setting root).isAborted = true ↔
      (∃ o ∈ documentLog setting root, o.isAbort = true) ∨ CleaningFails setting root := by
  rcases convert_cases setting root with ⟨markdown, s, hpassed, hcleans, hconvert⟩ |
    ⟨fault, s, -, hfails, hconvert⟩ | ⟨fault, s, hfailed, hcleans, hconvert⟩
  · have hdone : (convert setting root).isAborted = false := by rw [hconvert]; rfl
    rw [hdone]
    constructor
    · intro h
      cases h
    · rintro (⟨o, ho, habort⟩ | hfails)
      · rw [hpassed.calm o ho] at habort
        cases habort
      · exact absurd hfails hcleans
  · have haborted : (convert setting root).isAborted = true := by rw [hconvert]; rfl
    exact ⟨fun _ => .inr hfails, fun _ => haborted⟩
  · have haborted : (convert setting root).isAborted = true := by rw [hconvert]; rfl
    obtain ⟨before, last, hlog, hfault, -, -, -⟩ := hfailed.ends
    have hlast : last.isAbort = true := by
      simp [Occurrence.isAbort, hfault, hfailed.isAbort]
    exact ⟨fun _ => .inl ⟨last, by simp [hlog], hlast⟩, fun _ => haborted⟩

theorem issues_convert {setting : Setting} {root : Option Cursor}
    (h : ¬ CleaningFails setting root) :
    (convert setting root).issues = (documentLog setting root).filterMap Occurrence.issue? := by
  rcases convert_cases setting root with ⟨markdown, s, hpassed, -, hconvert⟩ |
    ⟨fault, s, -, hfails, -⟩ | ⟨fault, s, hfailed, -, hconvert⟩
  · rw [hconvert]
    exact hpassed.issues
  · exact absurd hfails h
  -- The last entry gave up and has no issue; giving up adds none.
  · obtain ⟨before, last, hlog, hfault, -, -, hissues⟩ := hfailed.ends
    have hlast : last.issue? = none :=
      issue?_of_isAbort (by simp [Occurrence.isAbort, hfault, hfailed.isAbort])
    have hkept : (convert setting root).issues = s.issues.toList := by
      rw [hconvert]
      exact congrArg Array.toList (issues_giveUp (isNodeFault_of_isAbort hfailed.isAbort))
    rw [hkept, hissues, hlog, List.filterMap_append]
    simp [hlast, Session.start]

theorem visits_convert (setting : Setting) (root : Option Cursor) :
    (convert setting root).visits = (documentLog setting root).countP Occurrence.isVisit := by
  have hstart : (Session.start setting root).visits = 0 := rfl
  rcases convert_cases setting root with ⟨markdown, s, hpassed, -, hconvert⟩ |
    ⟨fault, s, hpassed, -, hconvert⟩ | ⟨fault, s, hfailed, -, hconvert⟩
  · have hvisits : (convert setting root).visits = s.visits := by rw [hconvert]; rfl
    rw [hvisits, hpassed.visits, hstart, Nat.zero_add]
  · have hvisits : (convert setting root).visits = s.visits := by
      rw [hconvert]
      exact visits_giveUp setting root fault s
    rw [hvisits, hpassed.visits, hstart, Nat.zero_add]
  · have hvisits : (convert setting root).visits = s.visits := by
      rw [hconvert]
      exact visits_giveUp setting root fault s
    rw [hvisits, hfailed.visits, hstart, Nat.zero_add]

/-- Only faults that give up the conversion cross the boundaries. From any reachable session the
conversion of a node gives a text that is remembered of the node, or fails with a fault that gives
up; this fault is the last entry of the log and leaves no issue. A conversion is therefore given up
exactly if such a fault occurs or the text cannot be cleaned, and its issues are those of the
failures of filters and rules, one each. It has a result unless its budget of visits cannot be
counted up to. -/
theorem convertCounted_boundaries (setting : Setting) (root : Option Cursor) :
    (∀ s, Session.Reachable setting root s → ∀ depth node,
      (∃ text s', processAt setting depth node s = (.ok text, s') ∧
        s'.textAt? (nodeKey node) = some text ∧
        s'.visits = s.visits + (logAt setting depth node s).countP Occurrence.isVisit ∧
        s'.issues.toList = s.issues.toList ++
          (logAt setting depth node s).filterMap Occurrence.issue? ∧
        ∀ o ∈ logAt setting depth node s, o.isAbort = false) ∨
      (∃ fault s' before last, processAt setting depth node s = (.error fault, s') ∧
        fault.isAbort = true ∧ fault.kind.isNodeFault = true ∧
        logAt setting depth node s = before ++ [last] ∧ last.fault? = some fault ∧
        s'.visits = s.visits + (before ++ [last]).countP Occurrence.isVisit ∧
        s'.issues.toList = s.issues.toList ++ before.filterMap Occurrence.issue? ∧
        ∀ o ∈ before, o.isAbort = false)) ∧
    (setting.options.maxVisits + 1 ≤ Arena.maxLimit →
      ∃ result, convertCounted setting root = .ok result) ∧
    (∀ result, convertCounted setting root = .ok result →
      (result.isAborted = true ↔
        (∃ o ∈ documentLog setting root, o.isAbort = true) ∨ CleaningFails setting root) ∧
      result.visits = (documentLog setting root).countP Occurrence.isVisit ∧
      (¬ CleaningFails setting root →
        result.issues = (documentLog setting root).filterMap Occurrence.issue?)) := by
  refine ⟨?_, ?_, ?_⟩
  · intro s hreachable depth node
    obtain ⟨haccounts, hstores⟩ : Accounts noneOwn (logAt setting depth node s) s
        (processAt setting depth node s) ∧ Stores node (processAt setting depth node s) :=
      process_accounts setting _ depth node hreachable.sound
    cases hresult : processAt setting depth node s with
    | mk outcome s' =>
      rw [hresult] at haccounts hstores
      cases outcome with
      | ok text =>
        exact .inl ⟨text, s', rfl, hstores text s' rfl, haccounts.visits, haccounts.issues,
          haccounts.calm⟩
      | error fault =>
        have habort := Failed.isAbort haccounts
        obtain ⟨before, last, hlog, hfault, -, hcalm, hissues⟩ := haccounts.ends
        have hvisits := haccounts.visits
        rw [hlog] at hvisits
        exact .inr ⟨fault, s', before, last, rfl, habort, isNodeFault_of_isAbort habort, hlog,
          hfault, hvisits, hissues, hcalm⟩
  · intro hlimit
    exact ⟨convert setting root, by rw [convertCounted_eq, if_pos hlimit]⟩
  · intro result hresult
    obtain rfl := eq_convert_of_convertCounted hresult
    exact ⟨isAborted_convert_iff setting root, visits_convert setting root, issues_convert⟩

end Transcript
