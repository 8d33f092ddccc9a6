import Transcript.Proofs.Conversion.Budget

/-!
# The traversal step by step

The traversal as a machine: a control, a stack of frames that wait for answers, and a session. One
step is one event of a run, so that "at every moment of the run" has a meaning, and no bound is
built in: a run of the machine may be as long as it likes. That it comes to rest, with the answer of
the recursion, is a theorem.

## Main definitions

- `Control`, `Frame`, `Machine`: the states
- `Machine.step?`: one step; a machine without a step is at rest
- `Machine.after`: the state after a number of steps
- `Machine.Leads`: some number of steps leads from a state to another

## Main results

- `Machine.leads_ask`: asking for a node leads to what `processAt` gives, on any stack
-/

namespace Transcript

open Markup

/-! ## States -/

/-- What is done next. -/
inductive Control where
  /-- A node is asked for at a depth. -/
  | ask (depth : Nat) (node : Option Cursor)
  /-- A node that passed its visit is converted. -/
  | enter (depth : Nat) (node : Option Cursor)
  /-- Siblings are converted, behind the text of those before them. -/
  | siblings (depth : Nat) (before : String) (rest : List Cursor)
  /-- A program runs; the nodes it asks for lie at a depth. -/
  | render (depth : Nat) (program : Rendering String)
  /-- A text comes back. -/
  | answer (text : String)
  /-- A fault comes back. -/
  | fail (fault : Fault)

/-- What waits for an answer. -/
inductive Frame where
  /-- The siblings behind the one that was asked for. -/
  | siblings (depth : Nat) (before : String) (rest : List Cursor)
  /-- The rule of an element whose children are converted. -/
  | rule (depth : Nat) (c : Cursor) (rule : Option Rule)
  /-- A program that asked for a node. -/
  | program (depth : Nat) (next : String → Rendering String)
  /-- The boundary around a rule. -/
  | inner (c : Cursor) (handler content : String)
  /-- The boundary around a node, whose text is remembered here. -/
  | outer (node : Option Cursor)

/-- A state of the traversal. -/
structure Machine where
  /-- What is done next. -/
  control : Control
  /-- What waits, the innermost first. -/
  frames : List Frame
  /-- The session. -/
  session : Session

namespace Machine

/-! ## Steps -/

/-- A node is asked for: it is remembered, or it has to pass its visit. -/
def asked (setting : Setting) (depth : Nat) (node : Option Cursor) (frames : List Frame)
    (s : Session) : Machine :=
  match remembered? node s with
  | (some text, s) => ⟨.answer text, frames, s⟩
  | (none, s) =>
    match visit setting depth s with
    | (.error fault, s) => ⟨.fail fault, frames, s⟩
    | (.ok (), s) => ⟨.enter depth node, .outer node :: frames, s⟩

/-- A node is converted: text stands for itself, and an element waits for its children. -/
def entered (setting : Setting) (depth : Nat) (node : Option Cursor) (frames : List Frame)
    (s : Session) : Machine :=
  match node with
  | none => ⟨.answer "", frames, s⟩
  | some c =>
    match c.node with
    | .leaf _ _ => ⟨.answer c.node.textContent, frames, s⟩
    | _ =>
      match resolve setting c s with
      | (.error fault, s) => ⟨.fail fault, frames, s⟩
      | (.ok rule, s) => ⟨.siblings (depth + 1) "" c.children, .rule depth c rule :: frames, s⟩

/-- A program does its next thing. -/
def rendered (depth : Nat) (program : Rendering String) (frames : List Frame) (s : Session) :
    Machine :=
  match program with
  | .done text => ⟨.answer text, frames, s⟩
  | .raise fault => ⟨.fail fault, frames, s⟩
  | .report diagnostic next => ⟨.render depth next, frames, s.report diagnostic⟩
  | .warn message next => ⟨.render depth next, frames, s.warn message⟩
  | .process node next => ⟨.ask depth node, .program depth next :: frames, s⟩
  | .plant tree next =>
    ⟨.render depth (next (Cursor.root s.trees tree)), frames, { s with trees := s.trees + 1 }⟩

/-- A text comes back to a frame. -/
def answered (setting : Setting) (text : String) (frames : List Frame) (s : Session) :
    Frame → Machine
  | .siblings depth before rest => ⟨.siblings depth (before ++ text) rest, frames, s⟩
  | .rule _ _ none => ⟨.answer text, frames, s⟩
  | .rule depth c (some rule) =>
    ⟨.render (depth + 1) (rule.replacement ⟨c, depth, setting.adapter, setting.options⟩ text),
      .inner c rule.name text :: frames, s⟩
  | .program depth next => ⟨.render depth (next text), frames, s⟩
  | .inner _ _ _ => ⟨.answer text, frames, s⟩
  | .outer node => ⟨.answer text, frames, remember node text s⟩

/-- A fault comes back to a frame. The boundaries recover from it unless it gives up. -/
def failed (setting : Setting) (fault : Fault) (frames : List Frame) (s : Session) :
    Frame → Machine
  | .inner c handler content =>
    if fault.isAbort then ⟨.fail fault, frames, s⟩
    else ⟨.answer content, frames, recover setting fault (some c) handler fault.kind.recovery s⟩
  | .outer node =>
    if fault.isAbort then ⟨.fail fault, frames, s⟩
    -- The flattened text is remembered like any other.
    else ⟨.answer (textOf node), .outer node :: frames,
      recover setting fault node "node" fault.kind.recovery s⟩
  | _ => ⟨.fail fault, frames, s⟩

/-- One step. At rest there is none: an answer or a fault has come back, and nothing waits. -/
def step? (setting : Setting) (m : Machine) : Option Machine :=
  match m.control, m.frames with
  | .ask depth node, frames => some (asked setting depth node frames m.session)
  | .enter depth node, frames => some (entered setting depth node frames m.session)
  | .siblings _ before [], frames => some ⟨.answer before, frames, m.session⟩
  | .siblings depth before (c :: rest), frames =>
    some ⟨.ask depth (some c), .siblings depth before rest :: frames, m.session⟩
  | .render depth program, frames => some (rendered depth program frames m.session)
  | .answer text, frame :: frames => some (answered setting text frames m.session frame)
  | .fail fault, frame :: frames => some (failed setting fault frames m.session frame)
  | .answer _, [] => none
  | .fail _, [] => none

/-- The state after a number of steps; a machine at rest stays as it is. -/
def after (setting : Setting) : Nat → Machine → Machine
  | 0, m => m
  | n + 1, m =>
    match m.step? setting with
    | none => m
    | some m' => after setting n m'

/-- Some number of steps leads from a state to another. -/
def Leads (setting : Setting) (m m' : Machine) : Prop :=
  ∃ n, m.after setting n = m'

/-- The state in which the result of an action comes back. -/
def back (frames : List Frame) : Except Fault String × Session → Machine
  | (.ok text, s) => ⟨.answer text, frames, s⟩
  | (.error fault, s) => ⟨.fail fault, frames, s⟩

variable {setting : Setting}

/-! ## Runs -/

theorem after_of_rest {m : Machine} (h : m.step? setting = none) (n : Nat) :
    m.after setting n = m := by
  cases n with
  | zero => rfl
  | succ n => simp [after, h]

theorem after_add (n k : Nat) (m : Machine) :
    m.after setting (n + k) = (m.after setting n).after setting k := by
  induction n generalizing m with
  | zero => simp [after]
  | succ n ih =>
    rw [Nat.succ_add]
    cases hstep : m.step? setting with
    | none => simp [after, hstep, after_of_rest hstep]
    | some m' => simpa [after, hstep] using ih m'

namespace Leads

theorem refl (m : Machine) : Leads setting m m :=
  ⟨0, rfl⟩

theorem trans {m m' m'' : Machine} (h : Leads setting m m') (hnext : Leads setting m' m'') :
    Leads setting m m'' := by
  obtain ⟨n, rfl⟩ := h
  obtain ⟨k, rfl⟩ := hnext
  exact ⟨n + k, after_add n k m⟩

/-- One step, and then some more. -/
theorem step {m m' m'' : Machine} (h : m.step? setting = some m') (hnext : Leads setting m' m'') :
    Leads setting m m'' := by
  obtain ⟨n, rfl⟩ := hnext
  exact ⟨n + 1, by simp [after, h]⟩

theorem single {m m' : Machine} (h : m.step? setting = some m') : Leads setting m m' :=
  step h (refl m')

end Leads

/-! ## The machine follows the recursion

Each part of the traversal leads to its own result, whatever waits behind it, as soon as asking for
a node one level deeper does. -/

section Descend

variable {descend : Converter} {depth : Nat}

/-- The program of a rule. -/
theorem leads_render
    (hdescend : ∀ node frames s,
      Leads setting ⟨.ask depth node, frames, s⟩ (back frames (descend node s)))
    (program : Rendering String) (frames : List Frame) (s : Session) :
    Leads setting ⟨.render depth program, frames, s⟩ (back frames (program.run descend s)) := by
  induction program generalizing s with
  | done text => exact .single rfl
  | raise fault => exact .single rfl
  | report diagnostic next ih => exact .step rfl (ih _)
  | warn message next ih => exact .step rfl (ih _)
  -- The program waits in a frame until the node has its text.
  | process node next ih =>
    have hnode := hdescend node (.program depth next :: frames) s
    refine .step rfl (hnode.trans ?_)
    simp only [Rendering.run]
    cases descend node s with
    | mk outcome t =>
      cases outcome with
      | ok text => exact .step rfl (ih text t)
      | error fault => exact .single rfl
  | plant tree next ih => exact .step rfl (ih _ _)

/-- The program of a rule, behind the inner boundary. -/
theorem leads_inner
    (hdescend : ∀ node frames s,
      Leads setting ⟨.ask depth node, frames, s⟩ (back frames (descend node s)))
    (c : Cursor) (handler content : String) (program : Rendering String) (frames : List Frame)
    (s : Session) :
    Leads setting ⟨.render depth program, .inner c handler content :: frames, s⟩
      (back frames
        (guarded setting (some c) handler (fun _ => content) (program.run descend) s)) := by
  refine (leads_render hdescend program (.inner c handler content :: frames) s).trans ?_
  unfold guarded
  cases program.run descend s with
  | mk outcome t =>
    cases outcome with
    | ok text => exact .single rfl
    | error fault =>
      cases habort : fault.isAbort with
      | true => exact .single (by simp [step?, failed, back, habort])
      | false => exact .single (by simp [step?, failed, back, habort])

/-- Siblings, behind the text of those before them. -/
theorem leads_siblings
    (hdescend : ∀ node frames s,
      Leads setting ⟨.ask depth node, frames, s⟩ (back frames (descend node s)))
    (cs : List Cursor) (before : String) (frames : List Frame) (s : Session) :
    Leads setting ⟨.siblings depth before cs, frames, s⟩
      (back frames
        ((convertAll descend cs s).1.map (before ++ ·), (convertAll descend cs s).2)) := by
  induction cs generalizing before s with
  | nil => exact .single (by simp [step?, convertAll, Except.map, back])
  | cons c rest ih =>
    have hfirst := hdescend (some c) (.siblings depth before rest :: frames) s
    refine .step rfl (hfirst.trans ?_)
    simp only [convertAll]
    cases descend (some c) s with
    | mk outcome t =>
      cases outcome with
      | error fault => exact .single rfl
      | ok first =>
        refine .step rfl ((ih (before ++ first) t).trans ?_)
        dsimp only
        cases convertAll descend rest t with
        | mk outcome u =>
          cases outcome with
          | error fault => exact .refl _
          | ok others => simpa [Except.map, String.append_assoc] using .refl _

/-- An element: its children, then its rule behind the inner boundary. -/
theorem leads_element
    (hdescend : ∀ node frames s,
      Leads setting ⟨.ask (depth + 1) node, frames, s⟩ (back frames (descend node s)))
    {c : Cursor} (hc : c.node.isElement = true) (frames : List Frame) (s : Session) :
    Leads setting ⟨.enter depth (some c), frames, s⟩
      (back frames (convertElement setting descend depth c s)) := by
  have henter : step? setting ⟨.enter depth (some c), frames, s⟩ = some
      (match resolve setting c s with
      | (.error fault, t) => ⟨.fail fault, frames, t⟩
      | (.ok rule, t) =>
        ⟨.siblings (depth + 1) "" c.children, .rule depth c rule :: frames, t⟩) := by
    cases hnode : c.node with
    | leaf kind text => simp [hnode, Node.isElement] at hc
    | element name attributes children => simp [step?, entered, hnode]
    | document children => simp [step?, entered, hnode]
  refine .step henter ?_
  unfold convertElement
  cases resolve setting c s with
  | mk outcome t =>
    cases outcome with
    | error fault => exact .refl _
    | ok rule =>
      have hchildren := leads_siblings hdescend c.children "" (.rule depth c rule :: frames) t
      refine hchildren.trans ?_
      dsimp only
      cases convertAll descend c.children t with
      | mk outcome u =>
        cases outcome with
        | error fault => exact .single rfl
        | ok content =>
          simp only [Except.map, String.empty_append, back]
          cases rule with
          | none => exact .single rfl
          | some rule =>
            exact .step rfl (leads_inner hdescend c rule.name content _ frames u)

/-- A node that passed its visit. -/
theorem leads_enter
    (hdescend : ∀ node frames s,
      Leads setting ⟨.ask (depth + 1) node, frames, s⟩ (back frames (descend node s)))
    (node : Option Cursor) (frames : List Frame) (s : Session) :
    Leads setting ⟨.enter depth node, frames, s⟩
      (back frames (convertNode setting descend depth node s)) := by
  cases node with
  | none => exact .single rfl
  | some c =>
    have helement := leads_element hdescend (c := c)
    cases hnode : c.node with
    | leaf kind text =>
      exact .single (by simp [step?, entered, convertNode, hnode, back])
    | element name attributes children =>
      simpa [convertNode, hnode] using helement (by simp [hnode, Node.isElement]) frames s
    | document children =>
      simpa [convertNode, hnode] using helement (by simp [hnode, Node.isElement]) frames s

/-- A node that passed its visit, behind the outer boundary. -/
theorem leads_outer
    (hdescend : ∀ node frames s,
      Leads setting ⟨.ask (depth + 1) node, frames, s⟩ (back frames (descend node s)))
    (node : Option Cursor) (frames : List Frame) (s : Session) :
    Leads setting ⟨.enter depth node, .outer node :: frames, s⟩
      (back frames
        (match guarded setting node "node" (fun _ => textOf node)
            (convertNode setting descend depth node) s with
        | (.error fault, t) => (.error fault, t)
        | (.ok text, t) => (.ok text, remember node text t))) := by
  refine (leads_enter hdescend node (.outer node :: frames) s).trans ?_
  unfold guarded
  cases convertNode setting descend depth node s with
  | mk outcome t =>
    cases outcome with
    | ok text => exact .single rfl
    | error fault =>
      cases habort : fault.isAbort with
      | true => exact .single (by simp [step?, failed, back, habort])
      -- The fallback answers to the frame of the boundary, which remembers it.
      | false =>
        refine .step (by simp only [back, step?, failed, habort]; rfl) (.single ?_)
        simp [step?, answered, back, habort]

end Descend

/-- Asking for a node leads to what the recursion gives for it. -/
theorem leads_ask (depth : Nat) (node : Option Cursor) (frames : List Frame) (s : Session) :
    Leads setting ⟨.ask depth node, frames, s⟩
      (back frames (processAt setting depth node s)) := by
  -- Induction on the levels still open: the machine goes as deep as the depth check lets it.
  induction hroom : roomAt setting.options depth generalizing depth node frames s with
  | zero =>
    have hdeep : setting.options.maxDepth < depth := by
      unfold roomAt at hroom
      omega
    refine .single ?_
    rw [processAt_eq]
    simp only [step?, asked]
    cases remembered? node s with
    | mk text t =>
      cases text with
      | some text => rfl
      | none => simp [convertFresh, visit_of_deep t hdeep, back]
  | succ room ih =>
    have hnext : roomAt setting.options (depth + 1) = room := by
      unfold roomAt at hroom ⊢
      omega
    have hdescend := fun other frames t => ih (depth + 1) other frames t hnext
    rw [processAt_eq]
    have hask : step? setting ⟨.ask depth node, frames, s⟩ =
        some (asked setting depth node frames s) := rfl
    refine .step hask ?_
    unfold asked
    cases remembered? node s with
    | mk text t =>
      cases text with
      | some text => exact .refl _
      | none =>
        dsimp only
        unfold convertFresh
        cases visit setting depth t with
        | mk outcome u =>
          cases outcome with
          | error fault => exact .refl _
          | ok done => exact leads_outer hdescend node frames u

end Machine

end Transcript
