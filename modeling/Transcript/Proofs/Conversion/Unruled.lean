import Transcript.Proofs.Conversion.Placement
import Transcript.Proofs.Markup.Strings

/-!
# Conversion without rules

Without rules a conversion joins the text nodes of the document. The flattened text, which stands in
for a node that could not be converted and for a document that was given up, joins the character
data that counts as text for the name of the element it is asked of. Both are character data of the
tree in document order, chosen by different tests: the text of scripts and the like is read by a
conversion and left out of the flattened text of what stands around it, and marked sections are left
out of a conversion and show in the flattened text. So the two agree where nothing of that kind
stands, and nowhere else.

## Main definitions

- `Cursor.textNodes`, `Cursor.shownNodes`: what a conversion reads, and what flattened text shows
- `Markup.ReadAndShown`: the kinds on which both tests agree

## Main results

- `plainText_of_no_rules`: a conversion without rules joins the text nodes
- `Cursor.textContent_eq_join`: the flattened text joins the shown nodes
- `convertCounted_unruled`: when a conversion without rules gives the flattened text
-/

namespace Transcript

namespace Markup

/-! ## Character data that is read or shown -/

namespace Node

/-- What a piece of character data says; nothing for elements. -/
def literal : Node → String
  | leaf _ text => text
  | _ => ""

/-- Whether a node is character data of one of these kinds. -/
def isOfKind (kinds : LeafKind → Bool) : Node → Bool
  | leaf kind _ => kinds kind
  | _ => false

/-- The kinds that are text to be read. -/
def readKinds : LeafKind → Bool
  | .plain | .reserved _ => true
  | _ => false

/-- The kinds that the flattened text of a node shows. Character data by itself shows if it is text
to be read. -/
def shownKinds (node : Node) : LeafKind → Bool :=
  if node.isElement then countsAsText node.name else readKinds

theorem isText_eq (node : Node) : node.isText = node.isOfKind readKinds := by
  cases node with
  | leaf kind text => cases kind <;> rfl
  | element name attributes children => rfl
  | document children => rfl

theorem isElement_of_isOfKind {kinds : LeafKind → Bool} {node : Node}
    (h : node.isOfKind kinds = true) : node.isElement = false := by
  cases node with
  | leaf kind text => rfl
  | element name attributes children => simp [isOfKind] at h
  | document children => simp [isOfKind] at h

theorem isOfKind_of_isElement (kinds : LeafKind → Bool) {node : Node} (h : node.isElement = true) :
    node.isOfKind kinds = false := by
  cases node with
  | leaf kind text => simp [isElement] at h
  | element name attributes children => rfl
  | document children => rfl

/-- Character data is converted to what it says if it is text, and to nothing otherwise. -/
theorem textContent_of_not_isElement {node : Node} (h : node.isElement = false) :
    node.textContent = if node.isOfKind readKinds then node.literal else "" := by
  cases node with
  | leaf kind text => cases kind <;> rfl
  | element name attributes children => simp [isElement] at h
  | document children => simp [isElement] at h

end Node

/-- The flattened text of an element of this name treats data of this kind as a conversion does:
both take it for text, or none of them does. -/
def ReadAndShown (name : String) : LeafKind → Prop
  -- Only elements that keep their text apart leave out ordinary text, and they show only their own.
  | .plain => name ∉ reservedOwners
  | .reserved owner => name ∈ reservedOwners ∧ owner = name
  | .cdata => name ∈ reservedOwners
  | .comment | .doctype | .instruction | .declaration => True

theorem readAndShown_iff (name : String) (kind : LeafKind) :
    ReadAndShown name kind ↔ Node.readKinds kind = Node.countsAsText name kind := by
  by_cases howner : name ∈ reservedOwners
  · cases kind <;> simp [ReadAndShown, Node.readKinds, Node.countsAsText, howner]
  · cases kind <;> simp [ReadAndShown, Node.readKinds, Node.countsAsText, howner]

namespace Cursor

/-- The text nodes of a tree, in document order. -/
def textNodes (c : Cursor) : List Cursor :=
  c.subtree.filter fun d => d.node.isText

/-- The character data that the flattened text of a node shows, in document order. -/
def shownNodes (c : Cursor) : List Cursor :=
  c.subtree.filter fun d => d.node.isOfKind c.node.shownKinds

variable {c : Cursor}

/-- The strings of a node are those of the character data in its subtree. -/
theorem strings_eq (keep : LeafKind → Bool) (c : Cursor) :
    c.node.strings keep =
      (c.subtree.filter fun d => d.node.isOfKind keep).map fun d => d.node.literal := by
  induction c using children_induction with
  | step c ih =>
    rw [subtree_eq, List.filter_cons]
    cases helement : c.node.isElement with
    | true =>
      rw [Node.isOfKind_of_isElement keep helement, if_neg Bool.false_ne_true,
        strings_of_isElement helement, List.filter_flatMap, List.map_flatMap]
      exact List.flatMap_congr ih
    | false =>
      rw [children_of_not_isElement helement]
      cases hnode : c.node with
      | leaf kind text =>
        cases hkeep : keep kind with
        | true => simp [Node.strings, Node.isOfKind, Node.literal, hnode, hkeep]
        | false => simp [Node.strings, Node.isOfKind, hkeep]
      | element name attributes children => simp [hnode, Node.isElement] at helement
      | document children => simp [hnode, Node.isElement] at helement

/-- The flattened text joins the shown nodes. -/
theorem textContent_eq_join (c : Cursor) :
    c.node.textContent = String.join (c.shownNodes.map fun d => d.node.literal) := by
  rw [shownNodes, ← strings_eq, Node.shownKinds]
  cases hnode : c.node with
  | leaf kind text => cases kind <;> simp [Node.textContent, Node.isElement, Node.strings,
      Node.readKinds]
  | element name attributes children => rfl
  | document children => rfl

/-- Two tests choose the same members of a list exactly if they agree on all members. -/
theorem filter_eq_filter_iff {α : Type} {p q : α → Bool} {l : List α} :
    l.filter p = l.filter q ↔ ∀ a ∈ l, p a = q a := by
  constructor
  · intro h a ha
    have hmem : a ∈ l.filter p ↔ a ∈ l.filter q := by rw [h]
    simpa [ha, ← Bool.eq_iff_iff] using hmem
  · exact List.filter_congr

/-- What is read of a tree is what is shown of it, node by node, exactly if both tests agree on all
its character data. -/
theorem textNodes_eq_shownNodes_iff (helement : c.node.isElement = true) :
    c.textNodes = c.shownNodes ↔
      ∀ d ∈ c.subtree, ∀ kind text, d.node = .leaf kind text → ReadAndShown c.node.name kind := by
  have hshown : c.node.shownKinds = Node.countsAsText c.node.name := if_pos helement
  rw [textNodes, shownNodes, filter_eq_filter_iff, hshown]
  constructor
  · intro h d hd kind text hleaf
    have hagree := h d hd
    rw [Node.isText_eq, hleaf] at hagree
    exact (readAndShown_iff c.node.name kind).mpr hagree
  · intro h d hd
    rw [Node.isText_eq]
    cases hnode : d.node with
    | leaf kind text => exact (readAndShown_iff c.node.name kind).mp (h d hd kind text hnode)
    | element name attributes children => rfl
    | document children => rfl

/-- Character data by itself is read if it is shown. -/
theorem textNodes_eq_shownNodes_of_leaf (hleaf : c.node.isElement = false) :
    c.textNodes = c.shownNodes := by
  have hshown : c.node.shownKinds = Node.readKinds := if_neg (by simp [hleaf])
  rw [textNodes, shownNodes, hshown]
  simp only [Node.isText_eq]

end Cursor

end Markup

open Markup

variable {setting : Setting} {c : Cursor}

/-! ## Conversion -/

theorem ruleOf?_of_no_rules (hrules : setting.rules.rules = []) (c : Cursor) :
    setting.ruleOf? c = none := by
  simp [Setting.ruleOf?, RuleTable.find, hrules, RuleTable.findIn]

/-- Without rules the pieces of a document are its character data. -/
theorem pieces_of_no_rules (hrules : setting.rules.rules = []) (c : Cursor) :
    pieces setting c = c.subtree.filter fun d => !d.node.isElement := by
  have hpasses : ∀ d, setting.passesThrough d = d.node.isElement := fun d => by
    rw [Setting.passesThrough, ruleOf?_of_no_rules hrules, Option.isNone_none, Bool.and_true]
  induction c using Cursor.children_induction with
  | step c ih =>
    rw [pieces_eq, hpasses, Cursor.subtree_eq, List.filter_cons]
    cases helement : c.node.isElement with
    | true =>
      rw [if_pos rfl, Bool.not_true, if_neg Bool.false_ne_true, List.filter_flatMap]
      exact List.flatMap_congr ih
    | false => simp [Cursor.children_of_not_isElement helement]

/-- What comes to nothing need not be joined. -/
theorem join_map_ite {α : Type} (p : α → Bool) (f : α → String) (xs : List α) :
    String.join (xs.map fun x => if p x then f x else "") = String.join ((xs.filter p).map f) := by
  induction xs with
  | nil => rfl
  | cons x rest ih =>
    rw [List.map_cons, String.join_cons, ih, List.filter_cons]
    cases p x with
    | true => simp [String.join_cons]
    | false => simp

/-- Without rules a conversion joins the text nodes. -/
theorem plainText_of_no_rules (hrules : setting.rules.rules = []) (base : Nat) (c : Cursor) :
    plainText setting base c = String.join (c.textNodes.map fun d => d.node.literal) := by
  have hleaf : ∀ d ∈ c.subtree.filter (fun d => !d.node.isElement),
      plainText setting base d =
        if d.node.isOfKind Node.readKinds then d.node.literal else "" := by
    intro d hd
    have helement : d.node.isElement = false := by simpa using (List.mem_filter.mp hd).2
    rw [(plain_of_leaf setting base helement).1, Node.textContent_of_not_isElement helement]
  have htext : c.subtree.filter (fun d => d.node.isOfKind Node.readKinds && !d.node.isElement) =
      c.textNodes := by
    refine List.filter_congr fun d _ => ?_
    rw [Node.isText_eq]
    cases hkind : d.node.isOfKind Node.readKinds with
    | true => simp [Node.isElement_of_isOfKind hkind]
    | false => rfl
  rw [plainText_eq_join_pieces, pieces_of_no_rules hrules, List.map_congr_left hleaf, join_map_ite,
    List.filter_filter, htext]

/-- No rule means nothing that could fail or look elsewhere. -/
theorem tame_of_no_rules (hrules : setting.rules.rules = []) (base : Nat) (c : Cursor) :
    Tame setting base c where
  answers := by simp [hrules]
  keeps := by simp [hrules]

/-- A conversion without rules that is not given up joins the text nodes of the document, and the
flattened text joins what it shows. Both are made of the same nodes exactly if the document is
character data itself, or is an element whose flattened text takes all kinds of character data below
it as a conversion does; then the conversion gives the flattened text. -/
theorem convertCounted_unruled {result : Conversion} (hrules : setting.rules.rules = [])
    (hclean : ∀ text, setting.adapter.cleanText text = .ok text)
    (hresult : convertCounted setting (some c) = .ok result) (hdone : result.abortReason = none) :
    result.markdown = String.join (c.textNodes.map fun d => d.node.literal) ∧
      c.node.textContent = String.join (c.shownNodes.map fun d => d.node.literal) ∧
      (c.textNodes = c.shownNodes ↔ (c.node.isElement = true → ∀ d ∈ c.subtree, ∀ kind text,
        d.node = .leaf kind text → ReadAndShown c.node.name kind)) ∧
      (c.textNodes = c.shownNodes → result.markdown = c.node.textContent) := by
  have htame : ∀ d ∈ c.subtree, Tame setting c.above.length d :=
    fun d _ => tame_of_no_rules hrules _ d
  have hplain := (convertCounted_eq_plain htame hresult hdone).1
  rw [hclean, plainDocument, plainText_of_no_rules hrules] at hplain
  have hmarkdown := (Except.ok.inj hplain).symm
  refine ⟨hmarkdown, Cursor.textContent_eq_join c, ?_, fun hsame => ?_⟩
  · cases helement : c.node.isElement with
    | true => simpa using Cursor.textNodes_eq_shownNodes_iff helement
    | false => simpa using Cursor.textNodes_eq_shownNodes_of_leaf helement
  · rw [hmarkdown, hsame, ← Cursor.textContent_eq_join]

/-- A paragraph with a script, a marked section and a comment in it. -/
def scriptInParagraph : Cursor :=
  Cursor.root 0 (.document [.element "p" [] [.leaf .plain "a",
    .element "script" [] [.leaf (.reserved "script") "b"], .leaf .cdata "c", .leaf .comment "d"]])

/-- A conversion without any rule. -/
def unruledSetting : Setting where
  adapter := .generic
  rules := {}

/-- The conversion reads the script, and the flattened text shows the marked section instead. -/
theorem convertCounted_unruled_script :
    unruledSetting.rules.rules = [] ∧
      (∀ text, unruledSetting.adapter.cleanText text = .ok text) ∧
      ∃ result, convertCounted unruledSetting (some scriptInParagraph) = .ok result ∧
        result.abortReason = none ∧ result.markdown = "ab" ∧
        scriptInParagraph.node.textContent = "ac" ∧
        scriptInParagraph.textNodes ≠ scriptInParagraph.shownNodes := by
  have htame : ∀ d ∈ scriptInParagraph.subtree,
      Tame unruledSetting scriptInParagraph.above.length d := fun d _ => tame_of_no_rules rfl _ d
  have hviolation : violation? unruledSetting scriptInParagraph = none :=
    violation?_eq_none_of_still rfl (fun _ => rfl) (by decide) (by decide)
  obtain ⟨result, hresult, hdone, -⟩ :=
    convertCounted_of_no_violation htame (by decide) hviolation rfl
  obtain ⟨hmarkdown, hcontent, hsame, -⟩ :=
    convertCounted_unruled rfl (fun _ => rfl) hresult hdone
  refine ⟨rfl, fun _ => rfl, result, hresult, hdone, ?_, ?_, fun hnodes => ?_⟩
  · rw [hmarkdown]
    decide
  · rw [hcontent]
    decide
  -- The script is read, though the flattened text of the document does not take it for text.
  · have hscript : (⟨0, .leaf (.reserved "script") "b", _⟩ : Cursor) ∈ scriptInParagraph.subtree :=
      List.mem_of_getElem? (i := 4) rfl
    have hagree := hsame.mp hnodes rfl _ hscript _ _ rfl
    exact absurd hagree.1 (by decide)

end Transcript
