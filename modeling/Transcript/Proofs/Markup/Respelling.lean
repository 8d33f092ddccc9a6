import Transcript.Markup.Query
import Transcript.Proofs.Markup.Likeness
import Transcript.Proofs.Markup.Strings
import Transcript.Proofs.Text.Lowering

/-!
# Respelled trees

The names of the elements of a tree may be written anew, some letters in capitals and others not,
each element in its own way. As long as no element keeps its text apart, nothing else changes: the
elements stand where they stood, and all of them read alike. Selectors go by names up to the case of
ASCII letters, so they find what they found.

## Main definitions

- `Spelling`: a way to write names anew that changes the case of ASCII letters alone
- `Node.respell`, `Cursor.respell`: a tree, and a node in its tree, with names written anew

## Main results

- `Cursor.likeness_respell`: respelling is a likeness
- `Cursor.ancestors_respell`, `Cursor.findAncestor?_respell`: what stands above
- `Selector.holds_respell`: selectors say the same
- `Cursor.closestText?_respell`, `Cursor.findText?_respell`: searches by written selectors
-/

namespace Transcript

namespace Markup

/-- A way to write the names of elements anew, each by the place of its element, in which the case of
ASCII letters is all that changes. -/
structure Spelling where
  /-- A name as it is written at a place, given by its child indexes, the innermost first. -/
  spell : List Nat → String → String
  same (indexes : List Nat) (name : String) :
    Text.asciiLower (spell indexes name) = Text.asciiLower name

mutual

/-- A tree with names written anew, `indexes` being the place of its root. -/
def Node.respell (s : Spelling) (indexes : List Nat) : Node → Node
  | .leaf kind text => .leaf kind text
  | .element name attributes children =>
    .element (s.spell indexes name) attributes (Node.respellAll s indexes 0 children)
  | .document children => .document (Node.respellAll s indexes 0 children)

/-- `Node.respell` for siblings, the first of them having `index`. -/
def Node.respellAll (s : Spelling) (indexes : List Nat) (index : Nat) : List Node → List Node
  | [] => []
  | node :: rest =>
    Node.respell s (index :: indexes) node :: Node.respellAll s indexes (index + 1) rest

end

/-- The way up in the tree with names written anew. -/
def Cursor.respellSteps (s : Spelling) : List Step → List Step
  | [] => []
  | step :: above =>
    ⟨step.parent.respell s (above.map Step.index), step.index⟩ :: respellSteps s above

/-- The node in the tree with names written anew. -/
def Cursor.respell (s : Spelling) (c : Cursor) : Cursor :=
  ⟨c.tree, c.node.respell s c.place.indexes, respellSteps s c.above⟩

/-! ## Single nodes -/

namespace Node

variable {s : Spelling} {indexes : List Nat}

theorem children_respell (node : Node) :
    (node.respell s indexes).children = respellAll s indexes 0 node.children := by
  cases node <;> rfl

theorem isElement_respell (node : Node) : (node.respell s indexes).isElement = node.isElement := by
  cases node <;> rfl

theorem isDocument_respell (node : Node) :
    (node.respell s indexes).isDocument = node.isDocument := by
  cases node <;> rfl

theorem attributes_respell (node : Node) :
    (node.respell s indexes).attributes = node.attributes := by
  cases node <;> rfl

/-- Names are the same up to the case of ASCII letters. -/
theorem asciiLower_name_respell (node : Node) :
    Text.asciiLower (node.respell s indexes).name = Text.asciiLower node.name := by
  cases node with
  | leaf kind text => rfl
  | element name attributes children => exact s.same indexes name
  | document children => rfl

theorem tagName_respell (node : Node) : (node.respell s indexes).tagName = node.tagName :=
  Text.lower_eq_of_asciiLower (asciiLower_name_respell node)

mutual

/-- No string changes. -/
theorem strings_respell (keep : LeafKind → Bool) (indexes : List Nat) (node : Node) :
    (node.respell s indexes).strings keep = node.strings keep := by
  cases node with
  | leaf kind text => rfl
  | element name attributes children =>
    rw [respell, strings, strings, stringsAll_respellAll keep indexes 0 children]
  | document children =>
    rw [respell, strings, strings, stringsAll_respellAll keep indexes 0 children]

theorem stringsAll_respellAll (keep : LeafKind → Bool) (indexes : List Nat) (index : Nat)
    (nodes : List Node) :
    stringsAll keep (respellAll s indexes index nodes) = stringsAll keep nodes := by
  cases nodes with
  | nil => rfl
  | cons node rest =>
    rw [respellAll, stringsAll, stringsAll, strings_respell keep (index :: indexes) node,
      stringsAll_respellAll keep indexes (index + 1) rest]

end

/-- Elements that keep their text apart have names in lower case. -/
theorem not_mem_reservedOwners {node : Node} (h : node.tagName ∉ reservedOwners) :
    node.name ∉ reservedOwners := by
  have hlower : ∀ name ∈ reservedOwners, Text.lower name = name := by decide
  intro hmem
  rw [tagName, hlower node.name hmem] at h
  exact h hmem

/-- An element that does not keep its text apart reads alike with its name written anew. -/
theorem readsAs_respell {node : Node} (h : node.tagName ∉ reservedOwners) :
    (node.respell s indexes).ReadsAs node := by
  have htag := @tagName_respell s indexes node
  have hcounts : countsAsText (node.respell s indexes).name = countsAsText node.name :=
    countsAsText_congr (not_mem_reservedOwners (htag ▸ h)) (not_mem_reservedOwners h)
  have hflat : (node.respell s indexes).flatText = node.flatText := by
    rw [flatText, hcounts, strings_respell, flatText]
  exact {
    isElement := isElement_respell node
    tagName := htag
    attributes := attributes_respell node
    flatText := hflat
    textContent := by
      cases node with
      | leaf kind text => rfl
      | element name attributes children => exact hflat
      | document children => exact hflat }

end Node

namespace Cursor

variable {s : Spelling} {c d page : Cursor}

/-! ## Nodes in their tree -/

theorem map_index_respellSteps (above : List Step) :
    (respellSteps s above).map Step.index = above.map Step.index := by
  induction above with
  | nil => rfl
  | cons step above ih => rw [respellSteps, List.map_cons, ih, List.map_cons]

/-- Nothing changes its place. -/
theorem place_respell (c : Cursor) : (c.respell s).place = c.place := by
  rw [place, respell, map_index_respellSteps, place]

theorem length_above_respell (c : Cursor) : (c.respell s).above.length = c.above.length := by
  have hindexes := congrArg List.length (@map_index_respellSteps s c.above)
  rwa [List.length_map, List.length_map] at hindexes

theorem childrenFrom_respell (tree : Nat) (parent : Node) (above : List Step) (index : Nat)
    (nodes : List Node) :
    childrenFrom tree (parent.respell s (above.map Step.index)) (respellSteps s above) index
        (Node.respellAll s (above.map Step.index) index nodes) =
      (childrenFrom tree parent above index nodes).map (respell s) := by
  induction nodes generalizing index with
  | nil => rfl
  | cons node rest ih =>
    rw [Node.respellAll, childrenFrom, ih, childrenFrom, List.map_cons]
    rfl

theorem children_respell (c : Cursor) :
    (c.respell s).children = c.children.map (respell s) := by
  rw [children, respell, Node.children_respell]
  exact childrenFrom_respell c.tree c.node c.above 0 c.node.children

theorem parent?_respell (c : Cursor) : (c.respell s).parent? = c.parent?.map (respell s) := by
  obtain ⟨tree, node, above⟩ := c
  cases above <;> rfl

theorem ancestors_respell (c : Cursor) :
    (c.respell s).ancestors = c.ancestors.map (respell s) := by
  obtain ⟨tree, node, above⟩ := c
  induction above generalizing node with
  | nil => rfl
  | cons step above ih =>
    have hrest := ih step.parent
    show (⟨tree, step.parent, above⟩ : Cursor).respell s ::
      ((⟨tree, step.parent, above⟩ : Cursor).respell s).ancestors = _
    rw [hrest]
    rfl

theorem precedingElements_respell (c : Cursor) :
    (c.respell s).precedingElements = c.precedingElements.map (respell s) := by
  obtain ⟨tree, node, above⟩ := c
  cases above with
  | nil => rfl
  | cons step above =>
    have hsiblings := @childrenFrom_respell s tree step.parent above 0 step.parent.children
    rw [← Node.children_respell] at hsiblings
    simp only [precedingElements, respell, respellSteps]
    rw [hsiblings, ← List.map_take, ← List.map_reverse]
    exact filter_map_of_eq fun d _ => Node.isElement_respell d.node

/-- What stands above a node in a subtree is in the subtree, or stands above it. -/
theorem mem_subtree_or_of_mem_ancestors :
    ∀ d ∈ c.subtree, ∀ a ∈ d.ancestors, a ∈ c.subtree ∨ a ∈ c.ancestors := by
  refine subtree_induction (fun a ha => .inr ha) fun x hx ih d hd => ?_
  rw [ancestors_of_mem_children hd]
  exact List.forall_mem_cons.mpr ⟨.inl hx, ih⟩

/-- What stands above a node of a tree is in the tree. -/
theorem mem_subtree_of_mem_ancestors {tree : Nat} {node : Node}
    (h : c ∈ (root tree node).subtree) (ha : d ∈ c.ancestors) : d ∈ (root tree node).subtree := by
  rcases mem_subtree_or_of_mem_ancestors c h d ha with hmem | habove
  · exact hmem
  · cases habove

/-- Where no element keeps its text apart, respelling is a likeness. -/
theorem likeness_respell (hreserved : ∀ d ∈ page.subtree, d.node.tagName ∉ reservedOwners) :
    Likeness (· ∈ page.subtree) (respell s) where
  reads h := Node.readsAs_respell (hreserved _ h)
  children {c} _ := children_respell c
  child h hd := mem_subtree_of_child h hd
  isSame {c d} _ _ := by rw [isSame, place_respell, place_respell, isSame]

/-- Where the name of documents is borne by the same nodes above, the same elements stand above. -/
theorem elementAncestors_respell
    (hdocument : ∀ a ∈ c.ancestors, NamedAlike (respell s) documentName a) :
    (c.respell s).elementAncestors = c.elementAncestors.map (respell s) := by
  rw [elementAncestors, ancestors_respell]
  exact takeWhile_map_of_eq fun a ha => congrArg not (hdocument a ha).beq

theorem findAncestor?_respell (hdocument : ∀ a ∈ c.ancestors, NamedAlike (respell s) documentName a)
    {p : Cursor → Bool} (hp : ∀ a ∈ c.elementAncestors, p (a.respell s) = p a) :
    (c.respell s).findAncestor? p = (c.findAncestor? p).map (respell s) := by
  rw [findAncestor?, elementAncestors_respell hdocument]
  exact find?_map_of_eq hp

end Cursor

end Markup

/-! ## Selectors -/

open Markup Cursor

namespace Selector

variable {s : Spelling}

theorem attributeValue?_respell (c : Cursor) (name : String) :
    attributeValue? (c.respell s).node name = attributeValue? c.node name := by
  rw [attributeValue?, respell, Node.attributes_respell, attributeValue?]

/-- A selector holds of a node however names are written. -/
theorem holds_respell (selector : Selector) (c : Cursor) :
    selector.holds (c.respell s) = selector.holds c := by
  induction selector generalizing c with
  | any => rfl
  | named name => rw [holds, respell, Node.asciiLower_name_respell, holds]
  | hasClass name => rw [holds, classesOf, attributeValue?_respell, holds, classesOf]
  | hasId name => rw [holds, hasIdentifier, attributeValue?_respell, holds, hasIdentifier]
  | attr name folded test =>
    rw [holds, attributePasses, attributeValue?_respell, holds, attributePasses]
  | both left right ihl ihr => rw [holds, ihl, ihr, holds]
  | either left right ihl ihr => rw [holds, ihl, ihr, holds]
  | except excluded ih => rw [holds, ih, holds]
  | parent outer ih =>
    rw [holds, parent?_respell, holds]
    cases c.parent? with
    | none => rfl
    | some above => exact ih above
  | ancestor outer ih =>
    rw [holds, ancestors_respell, holds]
    exact any_map_of_eq fun a _ => ih a
  | previous sibling ih =>
    rw [holds, precedingElements_respell, List.head?_map, holds]
    cases c.precedingElements.head? with
    | none => rfl
    | some first => exact ih first
  | preceding sibling ih =>
    rw [holds, precedingElements_respell, holds]
    exact any_map_of_eq fun a _ => ih a

theorem accepts_respell (selector : Selector) (c : Cursor) :
    selector.accepts (c.respell s) = selector.accepts c := by
  rw [accepts, holds_respell, respell, Node.isElement_respell, Node.isDocument_respell, accepts]

theorem closest?_respell (selector : Selector) (c : Cursor) :
    selector.closest? (c.respell s) = (selector.closest? c).map (respell s) := by
  rw [closest?, ancestors_respell, ← List.map_cons]
  exact find?_map_of_eq fun a _ => accepts_respell selector a

theorem selectOne?_respell (selector : Selector) {c : Cursor}
    (hdescendants : (c.respell s).descendants = c.descendants.map (respell s)) :
    selector.selectOne? (c.respell s) = (selector.selectOne? c).map (respell s) := by
  rw [selectOne?, hdescendants]
  exact find?_map_of_eq fun a _ => accepts_respell selector a

end Selector

namespace Markup.Cursor

variable {s : Spelling} {tree : Nat} {page : Node} {c : Cursor}

theorem closestText?_respell (selector : String) (h : c ∈ (root tree page).subtree) :
    MovesTo (· ∈ (root tree page).subtree) (respell s) (c.closestText? selector)
      ((c.respell s).closestText? selector) := by
  apply MovesTo.searchText? (Node.isElement_respell c.node)
  · exact fun parsed _ => parsed.closest?_respell c
  · intro parsed _ d hd
    rcases List.mem_cons.mp (List.mem_of_find?_eq_some hd) with rfl | habove
    · exact h
    · exact mem_subtree_of_mem_ancestors h habove

theorem selectOneText?_respell (selector : String)
    (hl : Likeness (· ∈ (root tree page).subtree) (respell s))
    (h : c ∈ (root tree page).subtree) :
    MovesTo (· ∈ (root tree page).subtree) (respell s) (c.selectOneText? selector)
      ((c.respell s).selectOneText? selector) := by
  apply MovesTo.searchText? (Node.isElement_respell c.node)
  · exact fun parsed _ => parsed.selectOne?_respell (hl.descendants h)
  · intro parsed _ d hd
    have hbelow : d ∈ c.descendants := List.mem_of_find?_eq_some hd
    exact mem_subtree_trans h (mem_subtree_of_mem_descendants hbelow)

theorem findText?_respell (selector : String)
    (hl : Likeness (· ∈ (root tree page).subtree) (respell s))
    (h : c ∈ (root tree page).subtree) :
    MovesTo (· ∈ (root tree page).subtree) (respell s) (c.findText? selector)
      ((c.respell s).findText? selector) :=
  .findText? (Node.isElement_respell c.node) (selectOneText?_respell selector hl h)

end Markup.Cursor

end Transcript
