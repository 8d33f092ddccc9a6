import Transcript.Proofs.Document.Pass

/-!
# Noise in a single pass

Noise is taken out rule by rule, and for each rule element by element, out of a tree that changes
all the time. The outcome is that of a single pass over the tree as it was at the beginning: every
element below the root is treated by the first rule that names it. It follows that order, text and
attributes of what is left are unchanged, that no noise is left, and that a second time changes
nothing. Only attributes without a value are lost, since the pass goes over a copy.

## Main definitions

- `treatment?`, `Node.treated`: the treatment by the first rule that names a node
- `Node.contents`, `Node.head`: the nodes of a tree, and what a node says itself

## Main results

- `NoiseRule.clear_eq`: a rule applied element by element
- `stripNoise_eq`: all rules applied one after another
- `stripNoiseAt_treats_once`: a tree without noise
-/

namespace Transcript

open Markup

/-! ## Rules one after another -/

/-- What becomes of a node by the first rule that names it; nothing if no rule does. -/
def treatment? (rules : List NoiseRule) (node : Node) : Option NoiseMode :=
  (rules.find? fun rule => rule.names node).map NoiseRule.mode

theorem treatment?_cons (rule : NoiseRule) (rules : List NoiseRule) (node : Node) :
    treatment? (rule :: rules) node =
      (if rule.names node then some rule.mode else none).or (treatment? rules node) := by
  rw [treatment?, List.find?_cons]
  cases rule.names node <;> rfl

/-- A rule treats the nodes that it names. The elements to replace are found by numbers, of which
each belongs to one node. -/
theorem NoiseRule.clear_eq (rule : NoiseRule) {tree : Numbered} (h : tree.Distinct) :
    NoiseRule.clear tree rule =
      Numbered.passBelow (fun _ o => if rule.names o then some rule.mode else none) tree := by
  rw [NoiseRule.clear, Numbered.foldl_replaceBelow]
  apply Numbered.passBelow_congr
  intro entry hentry
  simp only [h.mem_findBelow_iff hentry]

/-- All rules together treat each node by the first of them that names it. -/
theorem foldl_clear (rules : List NoiseRule) {tree : Numbered} (h : tree.Distinct) :
    rules.foldl NoiseRule.clear tree =
      Numbered.passBelow (fun _ o => treatment? rules o) tree := by
  induction rules generalizing tree with
  | nil => exact (Numbered.passBelow_none tree).symm
  | cons rule rest ih =>
    rw [List.foldl_cons, rule.clear_eq h, ih (h.passBelow _), Numbered.passBelow_passBelow]
    congr 1
    funext n o
    exact (treatment?_cons rule rest o).symm

/-! ## The single pass -/

mutual

/-- The tree with every node below its root treated by the first rule that names it. -/
def Markup.Node.treated (rules : List NoiseRule) : Node → Node
  | .leaf kind text => .leaf kind text
  | .element name attributes children => .element name attributes (Node.treatedAll rules children)
  | .document children => .document (Node.treatedAll rules children)

/-- Siblings, each of them treated by the first rule that names it, and everything below them. -/
def Markup.Node.treatedAll (rules : List NoiseRule) : List Node → List Node
  | [] => []
  | node :: rest =>
    match treatment? rules node with
    | none => Node.treated rules node :: Node.treatedAll rules rest
    -- The children that are left move up.
    | some .unwrap => (Node.treated rules node).children ++ Node.treatedAll rules rest
    | some .extract => Node.treatedAll rules rest
    | some .decompose => Node.treatedAll rules rest

end

theorem NoiseRule.names_withChildren (rule : NoiseRule) (children : List Node) (node : Node) :
    rule.names (node.withChildren children) = rule.names node := by
  cases node <;> rfl

theorem treatment?_withChildren (rules : List NoiseRule) (children : List Node) (node : Node) :
    treatment? rules (node.withChildren children) = treatment? rules node := by
  simp only [treatment?, NoiseRule.names_withChildren]

theorem isElement_of_treatment? {rules : List NoiseRule} {node : Node} {mode : NoiseMode}
    (h : treatment? rules node = some mode) : node.isElement = true := by
  obtain ⟨rule, hfind, -⟩ := Option.map_eq_some_iff.mp h
  have hnames := List.find?_some hfind
  simp only [NoiseRule.names, Bool.and_eq_true] at hnames
  exact hnames.1.1

theorem children_node {tree : Numbered} (h : tree.origin.isElement = true) :
    tree.node.children = Numbered.nodes tree.children := by
  obtain ⟨own, origin, children⟩ := tree
  cases origin with
  | leaf kind text => cases h
  | element name attributes _ => rfl
  | document _ => rfl

theorem nodes_append (trees others : List Numbered) :
    Numbered.nodes (trees ++ others) = Numbered.nodes trees ++ Numbered.nodes others := by
  induction trees with
  | nil => rfl
  | cons tree rest ih => rw [List.cons_append, Numbered.nodes, Numbered.nodes, ih, List.cons_append]

mutual

/-- The single pass does not need the numbers. -/
theorem node_passBelow (rules : List NoiseRule) (tree : Numbered) :
    (Numbered.passBelow (fun _ o => treatment? rules o) tree).node = tree.node.treated rules := by
  cases tree with
  | mk own origin children =>
    have hbelow := nodes_passAmong rules children
    cases origin with
    | leaf kind text => rfl
    | element name attributes _ => exact congrArg (Node.element name attributes) hbelow
    | document _ => exact congrArg Node.document hbelow

theorem nodes_passAmong (rules : List NoiseRule) (trees : List Numbered) :
    Numbered.nodes (Numbered.passAmong (fun _ o => treatment? rules o) trees) =
      Node.treatedAll rules (Numbered.nodes trees) := by
  cases trees with
  | nil => rfl
  | cons tree rest =>
    have hnode := node_passBelow rules tree
    have hsame : treatment? rules tree.node = treatment? rules tree.origin := by
      cases tree
      exact treatment?_withChildren ..
    rw [Numbered.passAmong, nodes_append, nodes_passAmong rules rest, Numbered.nodes,
      Node.treatedAll, hsame]
    cases htreatment : treatment? rules tree.origin with
    | none =>
      show Numbered.node _ :: _ = _
      rw [hnode]
      rfl
    | some mode =>
      cases mode with
      | unwrap =>
        -- Only elements are treated, and an element has the children that the pass has left.
        have helement : (Numbered.passBelow (fun _ o => treatment? rules o) tree).origin.isElement =
            true := by
          rw [Numbered.passBelow_eq]
          exact isElement_of_treatment? htreatment
        show Numbered.nodes (Numbered.children _) ++ _ = _
        rw [← children_node helement, hnode]
      | extract => rfl
      | decompose => rfl

end

/-- Taking out noise rule by rule and element by element comes to the single pass over the copy. -/
theorem stripNoise_eq (rules : List NoiseRule) (root : Node) :
    stripNoise rules root = root.copy.treated rules := by
  rw [stripNoise, foldl_clear rules (Numbered.distinct_numbered root.copy), node_passBelow,
    Node.numbered, Numbered.node_numberFrom]

/-! ## What is left -/

namespace Markup.Node

mutual

/-- Everything below the root, in document order. -/
def contents : Node → List Node
  | leaf _ _ => []
  | element _ _ children => contentsAll children
  | document children => contentsAll children

/-- Siblings, each followed by everything below it. -/
def contentsAll : List Node → List Node
  | [] => []
  | node :: rest => node :: (contents node ++ contentsAll rest)

end

/-- What a node says itself: its kind, name, attributes and text, but nothing of its children. -/
def head (node : Node) : Node :=
  node.withChildren []

theorem contentsAll_append (nodes others : List Node) :
    contentsAll (nodes ++ others) = contentsAll nodes ++ contentsAll others := by
  induction nodes with
  | nil => rfl
  | cons node rest ih => simp [contentsAll, ih]

theorem contents_eq (node : Node) : node.contents = contentsAll node.children := by
  cases node <;> rfl

theorem head_treated (rules : List NoiseRule) (node : Node) :
    (node.treated rules).head = node.head := by
  cases node <;> rfl

theorem attributes_head (node : Node) : node.head.attributes = node.attributes := by
  cases node <;> rfl

mutual

/-- The pass keeps the order of what it keeps, and everything that a node says itself. -/
theorem head_contents_treated_sublist (rules : List NoiseRule) (node : Node) :
    ((node.treated rules).contents.map head).Sublist (node.contents.map head) := by
  cases node with
  | leaf kind text => exact .slnil
  | element name attributes children => exact head_contentsAll_treatedAll_sublist rules children
  | document children => exact head_contentsAll_treatedAll_sublist rules children

theorem head_contentsAll_treatedAll_sublist (rules : List NoiseRule) (nodes : List Node) :
    ((contentsAll (treatedAll rules nodes)).map head).Sublist ((contentsAll nodes).map head) := by
  cases nodes with
  | nil => exact .slnil
  | cons node rest =>
    have hbelow := head_contents_treated_sublist rules node
    have hrest := head_contentsAll_treatedAll_sublist rules rest
    have hdropped := (hrest.trans (List.sublist_append_right (node.contents.map head) _)).cons
      node.head
    rw [treatedAll, contentsAll, List.map_cons, List.map_append]
    cases treatment? rules node with
    | none =>
      dsimp only
      rw [contentsAll, List.map_cons, List.map_append, head_treated]
      exact (hbelow.append hrest).cons_cons _
    | some mode =>
      cases mode with
      | unwrap =>
        dsimp only
        rw [contentsAll_append, ← contents_eq, List.map_append]
        exact (hbelow.append hrest).cons _
      | extract => exact hdropped
      | decompose => exact hdropped

end

mutual

/-- Only what no rule names is left below the root. -/
theorem treatment?_of_mem_contents (rules : List NoiseRule) (node : Node) :
    ∀ other ∈ (node.treated rules).contents, treatment? rules other = none := by
  cases node with
  | leaf kind text => nofun
  | element name attributes children => exact treatment?_of_mem_contentsAll rules children
  | document children => exact treatment?_of_mem_contentsAll rules children

theorem treatment?_of_mem_contentsAll (rules : List NoiseRule) (nodes : List Node) :
    ∀ other ∈ contentsAll (treatedAll rules nodes), treatment? rules other = none := by
  cases nodes with
  | nil => nofun
  | cons node rest =>
    have hbelow := treatment?_of_mem_contents rules node
    have hrest := treatment?_of_mem_contentsAll rules rest
    rw [treatedAll]
    cases htreatment : treatment? rules node with
    | none =>
      -- The treated node says what the node says, so no rule names it either.
      have hself : treatment? rules (node.treated rules) = none := by
        rw [← treatment?_withChildren rules [], ← head, head_treated, head,
          treatment?_withChildren, htreatment]
      exact List.forall_mem_cons.mpr ⟨hself, List.forall_mem_append.mpr ⟨hbelow, hrest⟩⟩
    | some mode =>
      cases mode with
      | unwrap =>
        rw [contents_eq] at hbelow
        dsimp only
        rw [contentsAll_append]
        exact List.forall_mem_append.mpr ⟨hbelow, hrest⟩
      | extract => exact hrest
      | decompose => exact hrest

end

mutual

/-- A tree below whose root no rule names anything is left alone. -/
theorem treated_of_contents {rules : List NoiseRule} (node : Node)
    (h : ∀ other ∈ node.contents, treatment? rules other = none) : node.treated rules = node := by
  cases node with
  | leaf kind text => rfl
  | element name attributes children =>
    rw [treated, treatedAll_of_contentsAll children h]
  | document children => rw [treated, treatedAll_of_contentsAll children h]

theorem treatedAll_of_contentsAll {rules : List NoiseRule} (nodes : List Node)
    (h : ∀ other ∈ contentsAll nodes, treatment? rules other = none) :
    treatedAll rules nodes = nodes := by
  cases nodes with
  | nil => rfl
  | cons node rest =>
    obtain ⟨hself, hothers⟩ := List.forall_mem_cons.mp h
    obtain ⟨hbelow, hrest⟩ := List.forall_mem_append.mp hothers
    rw [treatedAll, hself, treated_of_contents node hbelow, treatedAll_of_contentsAll rest hrest]

end

/-! ## Copies -/

theorem head_copy (node : Node) : node.copy.head = node.head.copy := by
  cases node <;> rfl

theorem hasValue_copy (node : Node) : node.copy.attributes.all Attribute.hasValue = true := by
  cases node with
  | leaf kind text => rfl
  | element name attributes children =>
    apply List.all_eq_true.mpr
    intro a ha
    exact (List.mem_filter.mp ha).2
  | document children => rfl

mutual

/-- A copy has the nodes of the tree, each without the attributes that have no value. -/
theorem head_contents_copy (node : Node) :
    node.copy.contents.map head = node.contents.map fun other => other.head.copy := by
  cases node with
  | leaf kind text => rfl
  | element name attributes children => exact head_contentsAll_copyAll children
  | document children => exact head_contentsAll_copyAll children

theorem head_contentsAll_copyAll (nodes : List Node) :
    (contentsAll (copyAll nodes)).map head = (contentsAll nodes).map fun other => other.head.copy := by
  cases nodes with
  | nil => rfl
  | cons node rest =>
    rw [copyAll, contentsAll, contentsAll, List.map_cons, List.map_append, List.map_cons,
      List.map_append, head_copy, head_contents_copy node, head_contentsAll_copyAll rest]

end

mutual

theorem copy_eq_self (node : Node)
    (h : ∀ other ∈ node :: node.contents, other.attributes.all Attribute.hasValue = true) :
    node.copy = node := by
  obtain ⟨hself, hbelow⟩ := List.forall_mem_cons.mp h
  cases node with
  | leaf kind text => rfl
  | element name attributes children =>
    have hvalues : attributes.filter Attribute.hasValue = attributes :=
      List.filter_eq_self.mpr (List.all_eq_true.mp hself)
    rw [copy, copyAll_eq_self children hbelow, hvalues]
  | document children => rw [copy, copyAll_eq_self children hbelow]

theorem copyAll_eq_self (nodes : List Node)
    (h : ∀ other ∈ contentsAll nodes, other.attributes.all Attribute.hasValue = true) :
    copyAll nodes = nodes := by
  cases nodes with
  | nil => rfl
  | cons node rest =>
    obtain ⟨hself, hothers⟩ := List.forall_mem_cons.mp h
    obtain ⟨hbelow, hrest⟩ := List.forall_mem_append.mp hothers
    rw [copyAll, copy_eq_self node (List.forall_mem_cons.mpr ⟨hself, hbelow⟩),
      copyAll_eq_self rest hrest]

end

/-- A treated copy has no attributes without a value left, so a copy of it is the same tree. -/
theorem copy_treated_copy (rules : List NoiseRule) (node : Node) :
    (node.copy.treated rules).copy = node.copy.treated rules := by
  have hvalued : ∀ other source : Node, other.head = source.head.copy →
      other.attributes.all Attribute.hasValue = true := by
    intro other source hsame
    rw [← attributes_head, hsame]
    exact hasValue_copy source.head
  apply copy_eq_self
  intro other hother
  cases List.mem_cons.mp hother with
  | inl hroot =>
    apply hvalued other node
    rw [hroot, head_treated, head_copy]
  | inr hbelow =>
    -- Whatever is left is in the copy as well.
    have hleft := (head_contents_treated_sublist rules node.copy).subset
      (List.mem_map_of_mem hbelow)
    rw [head_contents_copy] at hleft
    obtain ⟨source, -, hsame⟩ := List.mem_map.mp hleft
    exact hvalued other source hsame.symm

end Markup.Node

/-! ## Trees without noise -/

theorem treatment?_eq_none_iff {rules : List NoiseRule} {node : Node} :
    treatment? rules node = none ↔ ∀ rule ∈ rules, rule.names node = false := by
  simp [treatment?]

theorem stripNoiseAt_of_isElement {root : Node} (h : root.isElement = true)
    (rules : List NoiseRule) : stripNoiseAt rules root = .ok (root.copy.treated rules) := by
  rw [stripNoiseAt, h, Bool.or_true, if_pos rfl, stripNoise_eq]

/-- A tree without noise is a copy in which every node below the root is treated by the first rule
that names it. What is kept stays in order and says what it says in the copy, no rule names anything
that is left, and to take out the noise again changes nothing. The copy is the tree itself, unless
it has attributes without a value. -/
theorem stripNoiseAt_treats_once {root : Node} (h : root.isElement = true)
    (rules : List NoiseRule) :
    ∃ clean, stripNoiseAt rules root = .ok clean ∧
      clean = root.copy.treated rules ∧
      clean.head = root.head.copy ∧
      (clean.contents.map Node.head).Sublist (root.contents.map fun other => other.head.copy) ∧
      (∀ other ∈ clean.contents, ∀ rule ∈ rules, rule.names other = false) ∧
      stripNoiseAt rules clean = .ok clean ∧
      ((∀ other ∈ root :: root.contents, other.attributes.all Attribute.hasValue = true) →
        root.copy = root) := by
  have hhead : (root.copy.treated rules).head = root.head.copy := by
    rw [Node.head_treated, Node.head_copy]
  have hheads : ((root.copy.treated rules).contents.map Node.head).Sublist
      (root.contents.map fun other => other.head.copy) := by
    rw [← Node.head_contents_copy]
    exact Node.head_contents_treated_sublist rules root.copy
  have hnone := Node.treatment?_of_mem_contents rules root.copy
  have hagain : (root.copy.treated rules).copy.treated rules = root.copy.treated rules := by
    rw [Node.copy_treated_copy, Node.treated_of_contents _ hnone]
  have helement : (root.copy.treated rules).isElement = true := by
    cases root with
    | leaf kind text => cases h
    | element name attributes children => rfl
    | document children => rfl
  refine ⟨root.copy.treated rules, stripNoiseAt_of_isElement h rules, rfl, hhead, hheads, ?_, ?_,
    Node.copy_eq_self root⟩
  · intro other hother
    exact treatment?_eq_none_iff.mp (hnone other hother)
  · rw [stripNoiseAt_of_isElement helement, hagain]

/-- Elements of the same name inside each other, with a different rule for each of them. -/
def nestedNoise : List NoiseRule :=
  [⟨"div", [], .unwrap⟩, ⟨"span", [.text "x"], .extract⟩, ⟨"div", [.text "x"], .decompose⟩]

/-- A block that two rules name, with noise below it. -/
def nestedNoisePage : Node :=
  .element "p" [] [
    .element "div" [⟨"class", .words ["x"]⟩] [
      .element "span" [⟨"class", .words ["x"]⟩] [.leaf .plain "a"],
      .element "div" [] [.leaf .plain "b"],
      .element "span" [] [.leaf .plain "c"]],
    .leaf .plain "d"]

/-- The outer block is unwrapped and not destroyed, so what stands below it is left. -/
theorem stripNoiseAt_treats_once_nested :
    nestedNoisePage.isElement = true ∧
      ∃ clean, stripNoiseAt nestedNoise nestedNoisePage = .ok clean ∧
        clean = .element "p" [] [.leaf .plain "b", .element "span" [] [.leaf .plain "c"],
          .leaf .plain "d"] := by
  obtain ⟨clean, hclean, htreated, -⟩ :=
    stripNoiseAt_treats_once (show nestedNoisePage.isElement = true from rfl) nestedNoise
  refine ⟨rfl, clean, hclean, ?_⟩
  rw [htreated]
  rfl

/-- An element with an attribute that has no value. -/
def valuelessPage : Node :=
  .element "p" [] [.element "b" [⟨"k", .bare⟩] [.leaf .plain "c"]]

/-- An attribute without a value is lost, although no rule names anything. -/
theorem valueless_attribute_lost :
    valuelessPage.treated defaultNoise = valuelessPage ∧
      stripNoiseAt defaultNoise valuelessPage =
        .ok (.element "p" [] [.element "b" [] [.leaf .plain "c"]]) ∧
      stripNoiseAt defaultNoise valuelessPage ≠ .ok (valuelessPage.treated defaultNoise) := by
  have hclean : stripNoiseAt defaultNoise valuelessPage =
      .ok (.element "p" [] [.element "b" [] [.leaf .plain "c"]]) := rfl
  refine ⟨rfl, hclean, ?_⟩
  rw [hclean]
  nofun

end Transcript
