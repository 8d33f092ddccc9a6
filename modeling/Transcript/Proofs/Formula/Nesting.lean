import Mathlib.Data.List.Basic
import Transcript.Formula.MathMl

/-!
# How deep formulas are followed

The conversion of a formula goes from an element to some of its element children, depending on the
name of the element: to none of them, to the first few, or to all of them. So the elements that are
reached at a depth are known from the tree alone. The limit on nesting is exact: the conversion
fails if and only if an element is reached at the first depth beyond the limit, and it never goes
deeper than that.

## Main definitions

- `reachedFrom`, `ReachedAt`: the elements that a conversion goes on to, and those it gets to
- `assemble`: an element as LaTeX, given the parts it is made of
- `loggedNode`: the conversion with a log of its calls

## Main results

- `convertNode_eq`: one step of the conversion
- `convertNode_fails_iff`, `latexOfMathMl_eq_error_iff`: when the conversion fails
- `loggedNode_fst`, `mem_loggedNode`: the calls of a conversion
-/

namespace Transcript.Formula

open Markup

/-! ## Elements that are reached -/

/-- The element children of a node. -/
def elementChildren (node : Node) : List Node :=
  node.children.filter Node.isElement

/-- The names of elements of which no child is looked at: tokens, words and what is ignored. -/
def closedNames : List String :=
  ["mi", "mn", "mo", "ms", "mtext", "annotation", "annotation-xml", "mspace", "none", "mprescripts"]

/-- The names of elements that are made of two parts. -/
def pairNames : List String :=
  ["msub", "msup", "mfrac", "mroot"]

/-- So many nodes from the front; nothing if there are fewer. -/
def firstIfComplete (count : Nat) (nodes : List Node) : List Node :=
  if nodes.length < count then [] else nodes.take count

/-- The elements that a conversion goes on to from an element. -/
def reachedFrom (node : Node) : List Node :=
  if node.tagName ∈ closedNames then []
  else if node.tagName ∈ pairNames then firstIfComplete 2 (elementChildren node)
  else if node.tagName = "msubsup" then firstIfComplete 3 (elementChildren node)
  else elementChildren node

/-- The elements that a conversion gets to, by their depth below the start. -/
inductive ReachedAt (start : Node) : Nat → Node → Prop where
  /-- The start itself. -/
  | start : ReachedAt start 0 start
  /-- What a reached element goes on to lies one level deeper. -/
  | next {depth : Nat} {node child : Node} (hnode : ReachedAt start depth node)
      (hchild : child ∈ reachedFrom node) : ReachedAt start (depth + 1) child

theorem mem_firstIfComplete {count : Nat} {nodes : List Node} {node : Node}
    (h : node ∈ firstIfComplete count nodes) : node ∈ nodes := by
  unfold firstIfComplete at h
  split at h
  · cases h
  · exact List.mem_of_mem_take h

/-- What is reached from a node is among its element children. -/
theorem mem_elementChildren_of_reachedFrom {node child : Node} (h : child ∈ reachedFrom node) :
    child ∈ elementChildren node := by
  unfold reachedFrom at h
  split at h
  · cases h
  · split at h
    · exact mem_firstIfComplete h
    · split at h
      · exact mem_firstIfComplete h
      · exact h

theorem sizeOf_lt_of_reachedFrom {node child : Node} (h : child ∈ reachedFrom node) :
    sizeOf child < sizeOf node := by
  have hmem : child ∈ node.children :=
    (List.mem_filter.mp (mem_elementChildren_of_reachedFrom h)).1
  cases node with
  | leaf kind text => cases hmem
  | element name attributes children =>
    have hlt : sizeOf child < sizeOf children := List.sizeOf_lt_of_mem hmem
    simp only [Node.element.sizeOf_spec]
    omega
  | document children =>
    have hlt : sizeOf child < sizeOf children := List.sizeOf_lt_of_mem hmem
    simp only [Node.document.sizeOf_spec]
    omega

/-- Induction from what a node goes on to. -/
theorem reached_induction {P : Node → Prop}
    (step : ∀ node, (∀ child ∈ reachedFrom node, P child) → P node) (node : Node) : P node :=
  step node fun child _hchild => reached_induction step child
termination_by sizeOf node
decreasing_by exact sizeOf_lt_of_reachedFrom _hchild

/-- A path to a reached element has a first step. -/
theorem reachedAt_succ_iff {start node : Node} {depth : Nat} :
    ReachedAt start (depth + 1) node ↔ ∃ child ∈ reachedFrom start, ReachedAt child depth node := by
  constructor
  · intro h
    -- Induction on the path, which grows at its end.
    induction depth generalizing node with
    | zero =>
      cases h with
      | next hnode hchild =>
        cases hnode
        exact ⟨node, hchild, .start⟩
    | succ depth ih =>
      cases h with
      | next hnode hchild =>
        obtain ⟨first, hfirst, hpath⟩ := ih hnode
        exact ⟨first, hfirst, .next hpath hchild⟩
  · rintro ⟨child, hchild, hpath⟩
    induction hpath with
    | start => exact .next .start hchild
    | next _ hnext ih => exact .next ih hnext

/-! ## The conversion with a log -/

mutual

/-- The conversion of an element at a depth, with all calls that it makes: the depth and the element
of each call, in order. -/
def loggedNode (limit : Int) (depth : Nat) : Node → Except Fault String × List (Nat × Node)
  | .leaf kind text =>
    (if limit < depth then .error (nestingFault limit) else .ok "", [(depth, .leaf kind text)])
  | .element name attributes children =>
    let node := Node.element name attributes children
    if limit < depth then (.error (nestingFault limit), [(depth, node)])
    else
      match shapeOf (Text.lower name) with
      | .token => (.ok node.flatText, [(depth, node)])
      | .ignored => (.ok "", [(depth, node)])
      | .words => (.ok ("\\text" ++ braced node.flatText), [(depth, node)])
      | .scripts arity place =>
        if elementCount children < arity then (.ok "", [(depth, node)])
        else
          let parts := loggedElements limit (depth + 1) arity children
          (parts.1.map place, (depth, node) :: parts.2)
      | .group place =>
        let parts := loggedElements limit (depth + 1) children.length children
        (parts.1.map fun parts => place (Text.join " " parts), (depth, node) :: parts.2)
  | .document children =>
    if limit < depth then (.error (nestingFault limit), [(depth, .document children)])
    else
      let parts := loggedElements limit (depth + 1) children.length children
      (parts.1.map (Text.join " "), (depth, .document children) :: parts.2)

/-- `loggedNode` for the first `count` elements among siblings, up to the first that fails. -/
def loggedElements (limit : Int) (depth : Nat) (count : Nat) :
    List Node → Except Fault (List String) × List (Nat × Node)
  | [] => (.ok [], [])
  | node :: rest =>
    match count with
    | 0 => (.ok [], [])
    | left + 1 =>
      if node.isElement then
        match loggedNode limit depth node with
        | (.error f, calls) => (.error f, calls)
        | (.ok part, calls) =>
          let others := loggedElements limit depth left rest
          (others.1.map (part :: ·), calls ++ others.2)
      else loggedElements limit depth (left + 1) rest

end

mutual

/-- The log changes nothing. -/
theorem loggedNode_fst (limit : Int) (depth : Nat) (node : Node) :
    (loggedNode limit depth node).1 = convertNode limit depth node := by
  cases node with
  | leaf kind text => rfl
  | element name attributes children =>
    rw [loggedNode, convertNode]
    split
    · rfl
    · dsimp only
      cases shapeOf (Text.lower name) with
      | token => rfl
      | ignored => rfl
      | words => rfl
      | scripts arity place =>
        dsimp only
        split
        · rfl
        · rw [loggedElements_fst]
      | group place => dsimp only; rw [loggedElements_fst]
  | document children =>
    rw [loggedNode, convertNode]
    split
    · rfl
    · dsimp only; rw [loggedElements_fst]

theorem loggedElements_fst (limit : Int) (depth count : Nat) (nodes : List Node) :
    (loggedElements limit depth count nodes).1 = convertElements limit depth count nodes := by
  cases nodes with
  | nil => rfl
  | cons node rest =>
    cases count with
    | zero => rfl
    | succ left =>
      rw [loggedElements, convertElements]
      dsimp only
      split
      · rw [← loggedNode_fst]
        cases loggedNode limit depth node with
        | mk outcome calls =>
          cases outcome with
          | error f => rfl
          | ok part => dsimp only; rw [loggedElements_fst]
      · exact loggedElements_fst limit depth (left + 1) rest

end

/-! ## One step -/

/-- An element as LaTeX, given the parts that the elements reached from it come to. -/
def assemble (node : Node) : List String → String :=
  match shapeOf node.tagName with
  | .token => fun _ => node.flatText
  | .ignored => fun _ => ""
  | .words => fun _ => "\\text" ++ braced node.flatText
  -- An incomplete script has no parts to put into place.
  | .scripts arity place => if (elementChildren node).length < arity then fun _ => "" else place
  | .group place => fun parts => place (Text.join " " parts)

/-- `loggedNode` for nodes one after another, up to the first that fails. -/
def loggedEach (limit : Int) (depth : Nat) :
    List Node → Except Fault (List String) × List (Nat × Node)
  | [] => (.ok [], [])
  | node :: rest =>
    match loggedNode limit depth node with
    | (.error f, calls) => (.error f, calls)
    | (.ok part, calls) =>
      let others := loggedEach limit depth rest
      (others.1.map (part :: ·), calls ++ others.2)

theorem loggedElements_eq (limit : Int) (depth count : Nat) (nodes : List Node) :
    loggedElements limit depth count nodes =
      loggedEach limit depth ((nodes.filter Node.isElement).take count) := by
  induction nodes generalizing count with
  | nil => simp [loggedElements, loggedEach]
  | cons node rest ih =>
    cases count with
    | zero => simp [loggedElements, loggedEach]
    | succ left =>
      rw [loggedElements, List.filter_cons]
      cases node.isElement with
      | true => simp only [if_true, List.take_succ_cons, loggedEach, ih]
      | false => simpa using ih (left + 1)

/-- What is reached from an element depends on what becomes of elements of its name. -/
theorem reachedFrom_eq (node : Node) :
    reachedFrom node =
      match shapeOf node.tagName with
      | .token | .ignored | .words => []
      | .scripts arity _ => firstIfComplete arity (elementChildren node)
      | .group _ => elementChildren node := by
  unfold reachedFrom
  generalize node.tagName = name
  fun_cases shapeOf name <;> simp_all [closedNames, pairNames]

theorem shapeOf_leaf (kind : LeafKind) (text : String) :
    shapeOf (Node.leaf kind text).tagName = .group id := rfl

theorem shapeOf_document (children : List Node) :
    shapeOf (Node.document children).tagName = .group id := by
  have hname : Text.lower documentName = documentName := by decide
  rw [Node.tagName, Node.name, hname]
  rfl

/-- All elements from the front of a list of as many elements or more. -/
theorem take_length_filter (children : List Node) :
    (children.filter Node.isElement).take children.length = children.filter Node.isElement :=
  List.take_of_length_le (List.length_filter_le ..)

/-- One step of the conversion: within the limit, the elements reached from a node are converted one
level deeper, and the node is assembled from what they come to. -/
theorem loggedNode_eq (limit : Int) (depth : Nat) (node : Node) :
    loggedNode limit depth node =
      if limit < depth then (.error (nestingFault limit), [(depth, node)])
      else
        let parts := loggedEach limit (depth + 1) (reachedFrom node)
        (parts.1.map (assemble node), (depth, node) :: parts.2) := by
  rw [reachedFrom_eq]
  cases node with
  | leaf kind text =>
    rw [shapeOf_leaf, loggedNode]
    split
    · rfl
    · rfl
  | document children =>
    have hassemble : assemble (.document children) = Text.join " " := by
      funext parts
      simp only [assemble, shapeOf_document, id]
    rw [shapeOf_document, hassemble, loggedNode, loggedElements_eq, take_length_filter]
    rfl
  | element name attributes children =>
    have htag : (Node.element name attributes children).tagName = Text.lower name := rfl
    rw [loggedNode, htag]
    unfold assemble
    rw [htag]
    split
    · rfl
    · cases shapeOf (Text.lower name) with
      | token => rfl
      | ignored => rfl
      | words => rfl
      | scripts arity place =>
        have hcount : (elementChildren (.element name attributes children)).length =
            elementCount children := rfl
        dsimp only
        rw [firstIfComplete, hcount]
        -- Too few elements come to nothing; otherwise the first ones are converted.
        split
        · rfl
        · rw [loggedElements_eq]
          rfl
      | group place =>
        dsimp only [elementChildren, Node.children]
        rw [loggedElements_eq, take_length_filter]

/-! ## Failing -/

/-- One after another, nodes fail as the first of them that fails does. -/
theorem loggedEach_fst_eq_error {limit : Int} {depth : Nat} {nodes : List Node} {f : Fault}
    (h : (loggedEach limit depth nodes).1 = .error f) :
    ∃ node ∈ nodes, convertNode limit depth node = .error f := by
  induction nodes with
  | nil => cases h
  | cons node rest ih =>
    have hnode := loggedNode_fst limit depth node
    rw [loggedEach] at h
    cases hlogged : loggedNode limit depth node with
    | mk outcome calls =>
      rw [hlogged] at h hnode
      cases outcome with
      | error g =>
        obtain rfl : g = f := Except.error.inj h
        exact ⟨node, List.mem_cons_self, hnode.symm⟩
      | ok part =>
        cases hrest : (loggedEach limit depth rest).1 with
        | ok others => simp [hrest, Except.map] at h
        | error g =>
          obtain rfl : g = f := by simpa [hrest, Except.map] using h
          obtain ⟨failing, hmem, hfails⟩ := ih hrest
          exact ⟨failing, List.mem_cons_of_mem _ hmem, hfails⟩

/-- One after another, nodes come to what each of them comes to. -/
theorem exists_convertNode_of_loggedEach {limit : Int} {depth : Nat} {nodes : List Node}
    {parts : List String} (h : (loggedEach limit depth nodes).1 = .ok parts) {part : String}
    (hpart : part ∈ parts) : ∃ node ∈ nodes, convertNode limit depth node = .ok part := by
  induction nodes generalizing parts with
  | nil =>
    obtain rfl : [] = parts := Except.ok.inj h
    cases hpart
  | cons node rest ih =>
    have hnode := loggedNode_fst limit depth node
    rw [loggedEach] at h
    cases hlogged : loggedNode limit depth node with
    | mk outcome calls =>
      rw [hlogged] at h hnode
      cases outcome with
      | error f => cases h
      | ok first =>
        cases hrest : (loggedEach limit depth rest).1 with
        | error f => simp [hrest, Except.map] at h
        | ok others =>
          obtain rfl : first :: others = parts := by simpa [hrest, Except.map] using h
          rcases List.mem_cons.mp hpart with rfl | hothers
          · exact ⟨node, List.mem_cons_self, hnode.symm⟩
          · obtain ⟨other, hmem, hother⟩ := ih hrest hothers
            exact ⟨other, List.mem_cons_of_mem _ hmem, hother⟩

/-- One after another, nodes fail if one of them does. -/
theorem loggedEach_fails_iff {limit : Int} {depth : Nat} {nodes : List Node} :
    (∃ f, (loggedEach limit depth nodes).1 = .error f) ↔
      ∃ node ∈ nodes, ∃ f, convertNode limit depth node = .error f := by
  constructor
  · rintro ⟨f, hf⟩
    obtain ⟨node, hnode, hfails⟩ := loggedEach_fst_eq_error hf
    exact ⟨node, hnode, f, hfails⟩
  · rintro ⟨node, hnode, f, hfails⟩
    induction nodes with
    | nil => cases hnode
    | cons first rest ih =>
      have hfirst := loggedNode_fst limit depth first
      rw [loggedEach]
      cases hlogged : loggedNode limit depth first with
      | mk outcome calls =>
        rw [hlogged] at hfirst
        cases outcome with
        | error g => exact ⟨g, rfl⟩
        -- The first one does not fail, so it is another one that does.
        | ok part =>
          rcases List.mem_cons.mp hnode with rfl | hrest
          · rw [← hfirst] at hfails
            cases hfails
          · obtain ⟨g, hg⟩ := ih hrest
            exact ⟨g, by simp [hg, Except.map]⟩

/-- One step of the conversion, without its log. -/
theorem convertNode_eq (limit : Int) (depth : Nat) (node : Node) :
    convertNode limit depth node =
      if limit < depth then .error (nestingFault limit)
      else (loggedEach limit (depth + 1) (reachedFrom node)).1.map (assemble node) := by
  rw [← loggedNode_fst, loggedNode_eq]
  split
  · rfl
  · rfl

theorem map_eq_error_iff {α β : Type} {e : Except Fault α} {f : α → β} {fault : Fault} :
    e.map f = .error fault ↔ e = .error fault := by
  cases e with
  | ok value => simp [Except.map]
  | error other => simp [Except.map]

/-- A conversion fails for one reason only. -/
theorem eq_nestingFault_of_convertNode {limit : Int} {depth : Nat} {node : Node} {f : Fault}
    (h : convertNode limit depth node = .error f) : f = nestingFault limit := by
  induction node using reached_induction generalizing depth with
  | step node ih =>
    rw [convertNode_eq] at h
    split at h
    · exact (Except.error.inj h).symm
    · obtain ⟨child, hchild, hfails⟩ := loggedEach_fst_eq_error (map_eq_error_iff.mp h)
      exact ih child hchild hfails

/-- The levels that are open below a level within the limit. -/
theorem toNat_levels {limit : Int} {depth : Nat} (h : ¬limit < depth) :
    (limit + 1 - depth).toNat = (limit + 1 - (depth + 1 : Nat)).toNat + 1 := by
  omega

/-- A conversion fails if and only if something is reached at the first depth beyond the limit. -/
theorem convertNode_fails_iff {limit : Int} {depth : Nat} {node : Node} :
    (∃ f, convertNode limit depth node = .error f) ↔
      ∃ deep, ReachedAt node (limit + 1 - depth).toNat deep := by
  induction node using reached_induction generalizing depth with
  | step node ih =>
    rw [convertNode_eq]
    by_cases hbeyond : limit < depth
    -- The node itself lies beyond the limit.
    · have hnone : (limit + 1 - depth).toNat = 0 := by omega
      rw [if_pos hbeyond, hnone]
      exact ⟨fun _ => ⟨node, .start⟩, fun _ => ⟨_, rfl⟩⟩
    -- Otherwise it is what the node goes on to that counts, one level deeper.
    · rw [if_neg hbeyond, toNat_levels hbeyond]
      simp only [map_eq_error_iff, loggedEach_fails_iff, reachedAt_succ_iff]
      constructor
      · rintro ⟨child, hchild, hfails⟩
        obtain ⟨deep, hdeep⟩ := (ih child hchild).mp hfails
        exact ⟨deep, child, hchild, hdeep⟩
      · rintro ⟨deep, child, hchild, hdeep⟩
        exact ⟨child, hchild, (ih child hchild).mpr ⟨deep, hdeep⟩⟩

/-- A formula fails to be converted, with one and the same fault, if and only if something is reached
one level beyond the limit. -/
theorem latexOfMathMl_eq_error_iff {limit : Int} {start : Node} :
    latexOfMathMl limit start = .error (nestingFault limit) ↔
      ∃ deep, ReachedAt start (limit + 1).toNat deep := by
  have hfails : (∃ f, convertNode limit 0 start = .error f) ↔
      ∃ deep, ReachedAt start (limit + 1 - (0 : Nat)).toNat deep := convertNode_fails_iff
  have hlevel : limit + 1 - (0 : Nat) = limit + 1 := by omega
  rw [latexOfMathMl, map_eq_error_iff, ← hlevel, ← hfails]
  constructor
  · intro hfault
    exact ⟨_, hfault⟩
  · rintro ⟨f, hf⟩
    rw [hf, eq_nestingFault_of_convertNode hf]

theorem exists_latexOfMathMl_eq {limit : Int} {start : Node}
    (h : ¬∃ deep, ReachedAt start (limit + 1).toNat deep) :
    ∃ latex, latexOfMathMl limit start = .ok latex := by
  cases hlatex : latexOfMathMl limit start with
  | ok latex => exact ⟨latex, rfl⟩
  | error f =>
    have hf := eq_nestingFault_of_convertNode (map_eq_error_iff.mp hlatex)
    exact absurd (latexOfMathMl_eq_error_iff.mp (hf ▸ hlatex)) h

/-! ## Calls -/

theorem mem_loggedEach {limit : Int} {depth : Nat} {nodes : List Node} {call : Nat × Node}
    (h : call ∈ (loggedEach limit depth nodes).2) :
    ∃ node ∈ nodes, call ∈ (loggedNode limit depth node).2 := by
  induction nodes with
  | nil => cases h
  | cons node rest ih =>
    rw [loggedEach] at h
    cases hlogged : loggedNode limit depth node with
    | mk outcome calls =>
      rw [hlogged] at h
      cases outcome with
      | error f => exact ⟨node, List.mem_cons_self, by rw [hlogged]; exact h⟩
      | ok part =>
        rcases List.mem_append.mp h with hfirst | hrest
        · exact ⟨node, List.mem_cons_self, by rw [hlogged]; exact hfirst⟩
        · obtain ⟨other, hother, hcall⟩ := ih hrest
          exact ⟨other, List.mem_cons_of_mem _ hother, hcall⟩

/-- Every call of a conversion is made on a reached element, and not beyond the first depth that is
too deep. -/
theorem mem_loggedNode {limit : Int} {depth : Nat} {node : Node} {call : Nat × Node}
    (h : call ∈ (loggedNode limit depth node).2) :
    ∃ levels, call.1 = depth + levels ∧ levels ≤ (limit + 1 - depth).toNat ∧
      ReachedAt node levels call.2 := by
  induction node using reached_induction generalizing depth with
  | step node ih =>
    rw [loggedNode_eq] at h
    split at h
    · obtain rfl := List.mem_singleton.mp h
      exact ⟨0, rfl, Nat.zero_le _, .start⟩
    · rename_i hbeyond
      rcases List.mem_cons.mp h with rfl | hbelow
      · exact ⟨0, rfl, Nat.zero_le _, .start⟩
      · obtain ⟨child, hchild, hcall⟩ := mem_loggedEach hbelow
        obtain ⟨levels, hdepth, hlevels, hpath⟩ := ih child hchild hcall
        refine ⟨levels + 1, by omega, ?_, reachedAt_succ_iff.mpr ⟨child, hchild, hpath⟩⟩
        rw [toNat_levels hbeyond]
        omega

end Transcript.Formula
