import Transcript.Proofs.Conversion.Conduct
import Transcript.Proofs.Markup.Ancestry
import Transcript.Proofs.Render.ContentModel
import Transcript.Proofs.Text.Trimming
import Transcript.Render.Block

/-!
# The outline of nested lists

A list is rendered from the inside: the text of a nested list is part of the text of its item, and
is joined with it. The blanks around the pieces are cut on the way. None of this reaches the lines
of the nested list, since each of them ends visibly and the first one stands behind the text of the
item. So nested lists come out as an outline, with a line for each item, indented by the number of
items above it.

## Main definitions

- `itemLine`, `outlineLines`, `outline`: the outline of a list
- `IsOutline`: lists whose items hold a text on one line and nested lists behind it

## Main results

- `yields_listText`: what a list is rendered to, given the values of what stands in its items
- `exists_outcome_list`: a list is rendered if its numbers can be written
- `IsOutline.value_eq`: the value of a list is its outline if its value and those of nested lists
  are made by the rule for lists
-/

namespace Transcript.Render

open Markup

/-! ## Lists and their items -/

/-- The items of a list. -/
def listItems (c : Cursor) : List Cursor :=
  c.children.filter fun d => d.node.isElement && d.node.tagName == "li"

/-- The lists that stand directly in an item. -/
def nestedLists (item : Cursor) : List Cursor :=
  item.children.filter fun d => isList d.node

variable {value : Cursor → String} {c d item : Cursor}

theorem mem_listItems (h : item ∈ listItems c) :
    item ∈ c.children ∧ item.node.tagName = "li" := by
  simp only [listItems, List.mem_filter, Bool.and_eq_true, beq_iff_eq] at h
  exact ⟨h.1, h.2.2⟩

theorem isList_iff (node : Node) :
    isList node = true ↔ node.tagName = "ul" ∨ node.tagName = "ol" := by
  simp [isList]

/-- An element that is known by another name does not bear the name of documents. -/
theorem name_ne_documentName {name : String} (h : d.node.tagName = name)
    (hne : name ≠ documentName) : d.node.name ≠ documentName := by
  intro hname
  refine hne ?_
  rw [← h, Node.tagName, hname]
  rfl

/-- Seen from a child there is one item more above if the parent is an item. -/
theorem listLevel_of_mem_children (h : d ∈ c.children) (hname : c.node.name ≠ documentName) :
    listLevel d = listLevel c + if c.node.tagName = "li" then 1 else 0 := by
  obtain ⟨i, node, -, rfl⟩ := Cursor.mem_children_iff.mp h
  rw [listLevel, Cursor.elementAncestors_step, if_neg hname, List.countP_cons]
  simp only [beq_iff_eq]
  rfl

theorem name_ne_documentName_of_isList (h : isList c.node = true) :
    c.node.name ≠ documentName := by
  rcases (isList_iff _).mp h with htag | htag
  · exact name_ne_documentName htag (by decide)
  · exact name_ne_documentName htag (by decide)

theorem listLevel_item (hc : isList c.node = true) (h : item ∈ listItems c) :
    listLevel item = listLevel c := by
  have hitem : c.node.tagName ≠ "li" := by
    rcases (isList_iff _).mp hc with htag | htag
    · rw [htag]
      decide
    · rw [htag]
      decide
  rw [listLevel_of_mem_children (mem_listItems h).1 (name_ne_documentName_of_isList hc),
    if_neg hitem, Nat.add_zero]

theorem listLevel_nested (hc : isList c.node = true) (hitem : item ∈ listItems c)
    (h : d ∈ item.children) : listLevel d = listLevel c + 1 := by
  have htag := (mem_listItems hitem).2
  rw [listLevel_of_mem_children h (name_ne_documentName htag (by decide)), if_pos htag,
    listLevel_item hc hitem]

/-! ## What a list is rendered to -/

/-- The marker of an item whose number can be written. -/
def bullet (start : Option Int) (offset : Nat) : String :=
  match start with
  | none => "-"
  | some start => Number.integerText (start + offset) ++ "."

theorem eq_bullet_of_itemMarker {start : Option Int} {offset : Nat} {marker : String}
    (h : itemMarker start offset = .ok marker) : marker = bullet start offset := by
  cases start with
  | none => exact (Except.ok.inj h).symm
  | some start =>
    simp only [itemMarker, itemNumber] at h
    split at h
    · exact (Except.ok.inj h).symm
    · cases h

theorem itemMarker_of_lt {start : Int} {offset : Nat}
    (h : (start + offset).natAbs < Nat.pow 10 Text.maxIntegerDigits) :
    itemMarker (some start) offset = .ok (bullet (some start) offset) := by
  rw [itemMarker, itemNumber, if_pos h]
  rfl

/-- Two spaces for each level. -/
def indentation (level : Nat) : String :=
  String.ofList (List.replicate (2 * level) ' ')

/-- The text of an item so far, and one child more. -/
def addChild (value : Cursor → String) (text : String) (child : Cursor) : String :=
  if isList child.node then Text.trimEnd text ++ "\n" ++ value child else text ++ value child

/-- The text of an item, given the values of its children. -/
def itemText (value : Cursor → String) (item : Cursor) : String :=
  Text.trim (item.children.foldl (addChild value) "")

/-- The text of a list, given the values of the children of its items. -/
def listText (value : Cursor → String) (c : Cursor) : String :=
  String.join ((listItems c).zipIdx.map fun (item, offset) =>
      indentation (listLevel c) ++ bullet (listStart c.node) offset ++ " " ++
        itemText value item ++ "\n") ++
    if listLevel c = 0 then "\n" else ""

/-- A node has its value: character data has its text, and for anything else the answer is the
value. -/
def Answered (ask : Option Cursor → String) (value : Cursor → String) (d : Cursor) : Prop :=
  (d.node.isElement = false → value d = d.node.textContent) ∧
    (d.node.isElement = true → ask (some d) = value d)

section

variable {ask : Option Cursor → String}

theorem outcome_itemContentFrom {cs : List Cursor} (h : ∀ d ∈ cs, Answered ask value d)
    (text : String) :
    (itemContentFrom text cs).outcome ask = .ok (cs.foldl (addChild value) text) := by
  induction cs generalizing text with
  | nil => rfl
  | cons child rest ih =>
    obtain ⟨⟨hleaf, helement⟩, hrest⟩ := List.forall_mem_cons.mp h
    have hasked : child.node.isElement = true →
        (Rendering.outcome ask do
          let inner ← Rendering.converted (some child)
          if isList child.node then itemContentFrom (Text.trimEnd text ++ "\n" ++ inner) rest
          else itemContentFrom (text ++ inner) rest) =
        .ok ((child :: rest).foldl (addChild value) text) := by
      intro hchild
      rw [Rendering.outcome_bind, List.foldl_cons, addChild, ← helement hchild]
      show Rendering.outcome ask (if isList child.node then _ else _) = _
      split
      · exact ih hrest _
      · exact ih hrest _
    unfold itemContentFrom
    cases hnode : child.node with
    | leaf kind content =>
      have hvalue := hleaf (by rw [hnode]; rfl)
      have hlist : isList child.node = false := by
        rw [hnode]
        rfl
      rw [List.foldl_cons, addChild, hlist, hvalue, hnode]
      exact ih hrest _
    | element name attributes children =>
      rw [hnode] at hasked
      exact hasked rfl
    | document children =>
      rw [hnode] at hasked
      exact hasked rfl

theorem outcome_itemContent (h : ∀ d ∈ item.children, Answered ask value d) :
    (itemContent item).outcome ask = .ok (itemText value item) := by
  rw [itemContent, Rendering.outcome_bind, outcome_itemContentFrom h]
  rfl

theorem yields_itemTexts {items : List Cursor} {indent : String} {start : Option Int}
    (h : ∀ item ∈ items, ∀ d ∈ item.children, Answered ask value d) (offset : Nat) :
    (itemLines indent start offset items).Yields ask fun text => text =
      String.join ((items.zipIdx offset).map fun (item, offset) =>
        indent ++ bullet start offset ++ " " ++ itemText value item ++ "\n") := by
  induction items generalizing offset with
  | nil => exact Rendering.yields_pure rfl
  | cons item rest ih =>
    obtain ⟨hitem, hrest⟩ := List.forall_mem_cons.mp h
    refine Rendering.yields_bind (Rendering.yields_ofExcept fun marker hmarker =>
      eq_bullet_of_itemMarker hmarker) ?_
    rintro marker rfl
    refine Rendering.yields_bind (P := fun content => content = itemText value item) ?_ ?_
    · intro content hcontent
      rw [outcome_itemContent hitem] at hcontent
      exact (Except.ok.inj hcontent).symm
    · rintro content rfl
      refine Rendering.yields_bind (ih hrest (offset + 1)) ?_
      rintro others rfl
      refine Rendering.yields_pure ?_
      rw [List.zipIdx_cons, List.map_cons, String.join_cons]

theorem exists_outcome_itemLines {items : List Cursor} {indent : String} {start : Option Int}
    (h : ∀ item ∈ items, ∀ d ∈ item.children, Answered ask value d) (offset : Nat)
    (hmarkers : ∀ i < items.length, ∃ marker, itemMarker start (offset + i) = .ok marker) :
    ∃ text, (itemLines indent start offset items).outcome ask = .ok text := by
  induction items generalizing offset with
  | nil => exact ⟨"", rfl⟩
  | cons item rest ih =>
    obtain ⟨hitem, hrest⟩ := List.forall_mem_cons.mp h
    obtain ⟨marker, hmarker⟩ := hmarkers 0 (Nat.succ_pos _)
    obtain ⟨others, hothers⟩ := ih hrest (offset + 1) fun i hi => by
      have hnext := hmarkers (i + 1) (Nat.succ_lt_succ hi)
      rwa [Nat.add_comm i 1, ← Nat.add_assoc] at hnext
    refine ⟨indent ++ marker ++ " " ++ itemText value item ++ "\n" ++ others, ?_⟩
    rw [itemLines, Rendering.outcome_bind, ← Nat.add_zero offset, hmarker]
    show Rendering.outcome ask (itemContent item >>= _) = _
    rw [Rendering.outcome_bind, outcome_itemContent hitem]
    show Rendering.outcome ask (itemLines _ _ _ _ >>= _) = _
    rw [Rendering.outcome_bind, Nat.add_zero, hothers]
    rfl

/-- The text of a list is made from the lines of its items. -/
theorem list_eq {scene : Scene} (content : String) (h : scene.node.node.isElement = true) :
    list scene content = do
      let lines ← itemLines (indentation (listLevel scene.node)) (listStart scene.node.node) 0
        (listItems scene.node)
      return if listLevel scene.node = 0 then lines ++ "\n" else lines := by
  rw [list, h]
  rfl

/-- What a list is rendered to if it is rendered at all. -/
theorem yields_listText (scene : Scene) (content : String)
    (helement : scene.node.node.isElement = true)
    (h : ∀ item ∈ listItems scene.node, ∀ d ∈ item.children, Answered ask value d) :
    (list scene content).Yields ask fun text => text = listText value scene.node := by
  rw [list_eq content helement]
  refine Rendering.yields_bind (yields_itemTexts h 0) ?_
  rintro lines rfl
  refine Rendering.yields_pure ?_
  unfold listText
  split
  · rfl
  · rw [String.append_empty]

/-- A list is rendered if all of its markers can be written. -/
theorem exists_outcome_list {scene : Scene} (content : String)
    (helement : scene.node.node.isElement = true)
    (h : ∀ item ∈ listItems scene.node, ∀ d ∈ item.children, Answered ask value d)
    (hmarkers : ∀ i < (listItems scene.node).length,
      ∃ marker, itemMarker (listStart scene.node.node) i = .ok marker) :
    ∃ text, (list scene content).outcome ask = .ok text := by
  have hzero : ∀ i < (listItems scene.node).length,
      ∃ marker, itemMarker (listStart scene.node.node) (0 + i) = .ok marker := by
    simpa using hmarkers
  obtain ⟨lines, hlines⟩ := exists_outcome_itemLines h 0 hzero
  refine ⟨if listLevel scene.node = 0 then lines ++ "\n" else lines, ?_⟩
  rw [list_eq content helement, Rendering.outcome_bind, hlines]
  rfl

end

/-! ## The outline -/

/-- The text of an item in front of the lists in it. -/
def leadText (value : Cursor → String) (item : Cursor) : String :=
  String.join ((item.children.takeWhile fun d => !isList d.node).map value)

/-- The line of an item: two spaces for each item above, the marker, and its text. -/
def itemLine (value : Cursor → String) (start : Option Int) (offset : Nat) (item : Cursor) :
    String :=
  indentation (listLevel item) ++ bullet start offset ++ " " ++ Text.trim (leadText value item)

/-- The lines of the items of a list, each followed by those of the lists in the item. -/
def outlineLines (value : Cursor → String) (c : Cursor) : List String :=
  (listItems c).attach.zipIdx.flatMap fun (item, offset) =>
    itemLine value (listStart c.node) offset item.val ::
      (nestedLists item.val).attach.flatMap fun d => outlineLines value d.val
termination_by sizeOf c.node
decreasing_by
  have hitem := Cursor.sizeOf_lt_of_mem_children (mem_listItems item.property).1
  have hnested := Cursor.sizeOf_lt_of_mem_children (List.mem_of_mem_filter d.property)
  omega

theorem outlineLines_eq (value : Cursor → String) (c : Cursor) :
    outlineLines value c =
      (listItems c).zipIdx.flatMap fun (item, offset) =>
        itemLine value (listStart c.node) offset item ::
          (nestedLists item).flatMap (outlineLines value) := by
  have hzip : (listItems c).zipIdx = (listItems c).attach.zipIdx.map (Prod.map (·.val) id) := by
    rw [← List.zipIdx_map, List.attach_map_subtype_val]
  rw [outlineLines, hzip, List.flatMap_map]
  congr 1
  funext pair
  obtain ⟨⟨item, hitem⟩, offset⟩ := pair
  have hnested : (nestedLists item).attach.flatMap (fun d => outlineLines value d.val) =
      (nestedLists item).flatMap (outlineLines value) := by
    rw [← List.flatMap_map, List.attach_map_subtype_val]
  simp only [Prod.map, hnested]
  rfl

/-- Lines, each with a line feed behind it. -/
def unlines (lines : List String) : String :=
  String.join (lines.map (· ++ "\n"))

/-- The outline of a list. Outside of items an empty line stands behind it. -/
def outline (value : Cursor → String) (c : Cursor) : String :=
  unlines (outlineLines value c) ++ if listLevel c = 0 then "\n" else ""

/-- A list that satisfies `p`, and whose items hold a text on one line and behind it nothing but
lists of the same form, blank text and comments. -/
inductive IsOutline (p : Cursor → Prop) (value : Cursor → String) : Cursor → Prop
  /-- Every item has the form. -/
  | list {c : Cursor} (hlist : p c)
    (hlead : ∀ item ∈ listItems c, Text.trim (leadText value item) ≠ "" ∧
      '\n' ∉ (Text.trim (leadText value item)).toList)
    (hpadding : ∀ item ∈ listItems c, ∀ d ∈ item.children.dropWhile fun d => !isList d.node,
      isList d.node = false → d.isPadding = true)
    (hnested : ∀ item ∈ listItems c, ∀ d ∈ nestedLists item, IsOutline p value d) :
    IsOutline p value c

/-! ## Lines -/

/-- Lines, each with a line feed in front of it. -/
def below (lines : List String) : String :=
  String.join (lines.map ("\n" ++ ·))

theorem below_append (ls ms : List String) : below (ls ++ ms) = below ls ++ below ms := by
  rw [below, List.map_append, String.join_append]
  rfl

/-- A line feed in front of each line, or behind each line. -/
theorem lineFeed_append_unlines (lines : List String) :
    "\n" ++ unlines lines = below lines ++ "\n" := by
  induction lines with
  | nil => rfl
  | cons line rest ih =>
    have hfirst : unlines (line :: rest) = line ++ ("\n" ++ unlines rest) := by
      simp [unlines, String.append_assoc]
    rw [hfirst, ih]
    simp [below, String.append_assoc]

theorem unlines_cons (line : String) (rest : List String) :
    unlines (line :: rest) = line ++ below rest ++ "\n" := by
  have hfirst : unlines (line :: rest) = line ++ ("\n" ++ unlines rest) := by
    simp [unlines, String.append_assoc]
  rw [hfirst, lineFeed_append_unlines, String.append_assoc]

theorem unlines_flatMap {α : Type} (f : α → List String) (xs : List α) :
    unlines (xs.flatMap f) = String.join (xs.map fun x => unlines (f x)) := by
  induction xs with
  | nil => rfl
  | cons x rest ih =>
    rw [List.flatMap_cons, List.map_cons, String.join_cons, ← ih, unlines, List.map_append,
      String.join_append]
    rfl

/-- A text that ends visibly still does with such lines below it. -/
theorem endsVisibly_below {start : String} (hstart : Text.EndsVisibly start) {lines : List String}
    (h : ∀ line ∈ lines, Text.EndsVisibly line) : Text.EndsVisibly (start ++ below lines) := by
  induction lines generalizing start with
  | nil => simpa [below] using hstart
  | cons line rest ih =>
    obtain ⟨hline, hrest⟩ := List.forall_mem_cons.mp h
    have hnext := ih (hline.append (start ++ "\n")) hrest
    simpa [below, String.append_assoc] using hnext

theorem endsVisibly_itemLine {start : Option Int} {offset : Nat}
    (h : Text.trim (leadText value item) ≠ "") :
    Text.EndsVisibly (itemLine value start offset item) :=
  (Text.endsVisibly_trim h).append _

theorem notMem_indentation (level : Nat) : '\n' ∉ (indentation level).toList := by
  simp [indentation]

/-- A marker has no line feed. -/
theorem notMem_bullet (start : Option Int) (offset : Nat) :
    '\n' ∉ (bullet start offset).toList := by
  have hdigits : ∀ n, '\n' ∉ Number.digitsOf n := by
    intro n hmem
    have hdigit : ('\n').isDigit = true :=
      Nat.isDigit_of_mem_toDigits (by decide) (by decide) hmem
    cases hdigit
  cases start with
  | none =>
    show '\n' ∉ "-".toList
    decide
  | some start =>
    rw [bullet, String.toList_append, Number.integerText]
    split
    · simp [hdigits]
    · simp [hdigits]

theorem notMem_itemLine {start : Option Int} {offset : Nat}
    (h : '\n' ∉ (Text.trim (leadText value item)).toList) :
    '\n' ∉ (itemLine value start offset item).toList := by
  simp [itemLine, notMem_indentation, notMem_bullet, h]

namespace IsOutline

variable {p : Cursor → Prop}

/-- Every line of an outline ends visibly, and is one line. -/
theorem lines (h : IsOutline p value c) :
    ∀ line ∈ outlineLines value c, Text.EndsVisibly line ∧ '\n' ∉ line.toList := by
  induction h with
  | @list c hlist hlead hpadding hnested ih =>
    intro line hline
    rw [outlineLines_eq] at hline
    obtain ⟨⟨item, offset⟩, hitem, hline⟩ := List.mem_flatMap.mp hline
    have hmem : item ∈ listItems c := List.fst_mem_of_mem_zipIdx hitem
    rcases List.mem_cons.mp hline with rfl | hline
    · exact ⟨endsVisibly_itemLine (hlead item hmem).1, notMem_itemLine (hlead item hmem).2⟩
    · obtain ⟨d, hd, hline⟩ := List.mem_flatMap.mp hline
      exact ih item hmem d hd line hline

end IsOutline

/-! ## The text of an item -/

theorem foldl_addChild_of_no_list {cs : List Cursor} (h : ∀ d ∈ cs, isList d.node = false)
    (text : String) :
    cs.foldl (addChild value) text = text ++ String.join (cs.map value) := by
  induction cs generalizing text with
  | nil => simp
  | cons d rest ih =>
    obtain ⟨hd, hrest⟩ := List.forall_mem_cons.mp h
    rw [List.foldl_cons, ih hrest, addChild, if_neg (by simp [hd]), List.map_cons, String.join_cons,
      String.append_assoc]

/-- Behind a text that ends visibly when its end is cut, lists put their lines below it, and blank
text and comments make no difference. -/
theorem trimEnd_foldl_addChild (value : Cursor → String) {cs : List Cursor}
    {lines : Cursor → List String}
    (hlists : ∀ d ∈ cs, isList d.node = true →
      value d = unlines (lines d) ∧ ∀ line ∈ lines d, Text.EndsVisibly line)
    (hothers : ∀ d ∈ cs, isList d.node = false → Text.isAllBlank (value d) = true)
    {text start : String} (htext : Text.trimEnd text = start) (hstart : Text.EndsVisibly start) :
    Text.trimEnd (cs.foldl (addChild value) text) =
      start ++ below ((cs.filter fun d => isList d.node).flatMap lines) := by
  induction cs generalizing text start with
  | nil => simpa [below] using htext
  | cons d rest ih =>
    obtain ⟨hlist, hlistsRest⟩ := List.forall_mem_cons.mp hlists
    obtain ⟨hother, hothersRest⟩ := List.forall_mem_cons.mp hothers
    rw [List.foldl_cons, addChild, List.filter_cons]
    cases hd : isList d.node with
    | true =>
      obtain ⟨hvalue, hlines⟩ := hlist hd
      have hend := endsVisibly_below hstart hlines
      -- The list puts its lines below, and the line feed behind the last one is cut again.
      have hcut : Text.trimEnd (Text.trimEnd text ++ "\n" ++ value d) =
          start ++ below (lines d) := by
        rw [htext, hvalue, String.append_assoc, lineFeed_append_unlines, ← String.append_assoc,
          Text.trimEnd_append_of_isAllBlank _ (by decide), hend.trimEnd_eq]
      rw [if_pos rfl, if_pos rfl, ih hlistsRest hothersRest hcut hend, List.flatMap_cons,
        below_append, String.append_assoc]
    | false =>
      have hcut : Text.trimEnd (text ++ value d) = start := by
        rw [Text.trimEnd_append_of_isAllBlank _ (hother hd), htext]
      rw [if_neg (by simp), if_neg (by simp)]
      exact ih hlistsRest hothersRest hcut hstart

/-- The text of an item is its own text, and below it the lines of the lists in it. -/
theorem itemText_eq {lines : Cursor → List String} (hlead : Text.trim (leadText value item) ≠ "")
    (hlists : ∀ d ∈ nestedLists item,
      value d = unlines (lines d) ∧ ∀ line ∈ lines d, Text.EndsVisibly line)
    (hothers : ∀ d ∈ item.children.dropWhile fun d => !isList d.node,
      isList d.node = false → Text.isAllBlank (value d) = true) :
    itemText value item =
      Text.trim (leadText value item) ++ below ((nestedLists item).flatMap lines) := by
  have hfront : ∀ d ∈ item.children.takeWhile fun d => !isList d.node, isList d.node = false :=
    fun d hd => by simpa using List.mem_takeWhile_imp hd
  have hsplit := List.takeWhile_append_dropWhile (p := fun d => !isList d.node)
    (l := item.children)
  -- All of the lists stand behind the text.
  have hbehind : (item.children.dropWhile fun d => !isList d.node).filter (fun d => isList d.node) =
      nestedLists item := by
    have hnone : (item.children.takeWhile fun d => !isList d.node).filter (fun d => isList d.node) =
        [] := by
      rw [List.filter_eq_nil_iff]
      intro d hd hlist
      rw [hfront d hd] at hlist
      cases hlist
    rw [nestedLists, ← hsplit, List.filter_append, hnone, hsplit]
    rfl
  have hmem : ∀ d ∈ item.children.dropWhile fun d => !isList d.node, isList d.node = true →
      d ∈ nestedLists item := by
    intro d hd hlist
    rw [← hbehind]
    exact List.mem_filter.mpr ⟨hd, hlist⟩
  have hend := trimEnd_foldl_addChild value (fun d hd hlist => hlists d (hmem d hd hlist)) hothers
    (rfl : Text.trimEnd (leadText value item) = _) (Text.endsVisibly_trimEnd hlead)
  rw [hbehind] at hend
  have hfold : item.children.foldl (addChild value) "" =
      (item.children.dropWhile fun d => !isList d.node).foldl (addChild value)
        (leadText value item) := by
    rw [← hsplit, List.foldl_append, foldl_addChild_of_no_list hfront, hsplit, String.empty_append]
    rfl
  rw [itemText, hfold]
  exact Text.trim_eq_of_trimEnd hlead hend

/-! ## The value of a list -/

/-- In an outline, the value of a list is its outline if the rule for lists makes the values of the
lists, and character data stands for itself. -/
theorem IsOutline.value_eq {p : Cursor → Prop} (houtline : IsOutline p value c)
    (hp : ∀ d ∈ c.subtree, p d → isList d.node = true ∧ value d = listText value d)
    (hleaf : ∀ d ∈ c.subtree, d.node.isElement = false → value d = d.node.textContent) :
    value c = outline value c := by
  induction houtline with
  | @list c hlist hlead hpadding hnested ih =>
    obtain ⟨hc, hvalue⟩ := hp c (Cursor.self_mem_subtree c) hlist
    have hbelow : ∀ item ∈ listItems c, ∀ d ∈ item.children, d ∈ c.subtree := by
      intro item hitem d hd
      exact Cursor.mem_subtree_of_child
        (Cursor.mem_subtree_of_mem_children (mem_listItems hitem).1) hd
    -- Nested lists stand in items, so no empty line stands behind them.
    have hlists : ∀ item ∈ listItems c, ∀ d ∈ nestedLists item,
        value d = unlines (outlineLines value d) ∧
          ∀ line ∈ outlineLines value d, Text.EndsVisibly line := by
      intro item hitem d hd
      have hchild : d ∈ item.children := List.mem_of_mem_filter hd
      have hsub := hbelow item hitem d hchild
      have hinner := ih item hitem d hd
        (fun e he => hp e (Cursor.mem_subtree_trans hsub he))
        fun e he => hleaf e (Cursor.mem_subtree_trans hsub he)
      have hlevel : listLevel d ≠ 0 := by
        rw [listLevel_nested hc hitem hchild]
        exact Nat.succ_ne_zero _
      rw [outline, if_neg hlevel, String.append_empty] at hinner
      exact ⟨hinner, fun line hline => ((hnested item hitem d hd).lines line hline).1⟩
    have hothers : ∀ item ∈ listItems c,
        ∀ d ∈ item.children.dropWhile fun d => !isList d.node,
          isList d.node = false → Text.isAllBlank (value d) = true := by
      intro item hitem d hd hother
      have hpad := hpadding item hitem d hd hother
      simp only [Cursor.isPadding, Bool.and_eq_true, Bool.not_eq_true'] at hpad
      have hchild : d ∈ item.children := (List.dropWhile_suffix _).subset hd
      rw [hleaf d (hbelow item hitem d hchild) hpad.1]
      exact hpad.2
    have hitems : ∀ pair ∈ (listItems c).zipIdx,
        indentation (listLevel c) ++ bullet (listStart c.node) pair.2 ++ " " ++
            itemText value pair.1 ++ "\n" =
          unlines (itemLine value (listStart c.node) pair.2 pair.1 ::
            (nestedLists pair.1).flatMap (outlineLines value)) := by
      intro pair hpair
      have hitem : pair.1 ∈ listItems c := List.fst_mem_of_mem_zipIdx hpair
      rw [itemText_eq (hlead _ hitem).1 (hlists _ hitem) (hothers _ hitem), unlines_cons, itemLine,
        listLevel_item hc hitem]
      simp only [String.append_assoc]
    rw [hvalue, listText, outline, outlineLines_eq, unlines_flatMap]
    congr 2
    exact List.map_congr_left hitems

/-! ## Items without elements in their text -/

/-- An item whose text has no elements in it. -/
def IsPlainItem (item : Cursor) : Prop :=
  ∀ d ∈ item.children.takeWhile fun d => !isList d.node, d.node.isElement = false

instance (item : Cursor) : Decidable (IsPlainItem item) :=
  inferInstanceAs (Decidable (∀ d ∈ _, _))

theorem leadText_of_isPlainItem
    (hvalue : ∀ d, d.node.isElement = false → value d = d.node.textContent)
    (h : IsPlainItem item) : leadText value item = leadText (·.node.textContent) item := by
  unfold leadText
  rw [List.map_congr_left fun d hd => hvalue d (h d hd)]

theorem itemLine_of_isPlainItem
    (hvalue : ∀ d, d.node.isElement = false → value d = d.node.textContent)
    (h : IsPlainItem item) (start : Option Int) (offset : Nat) :
    itemLine value start offset item = itemLine (·.node.textContent) start offset item := by
  rw [itemLine, leadText_of_isPlainItem hvalue h]
  rfl

/-- The lines of such items can be read off the tree. -/
theorem itemLines_of_isPlainItem
    (hvalue : ∀ d, d.node.isElement = false → value d = d.node.textContent)
    (h : ∀ item ∈ listItems c, IsPlainItem item) :
    ((listItems c).zipIdx.map fun (item, offset) =>
        itemLine value (listStart c.node) offset item) =
      (listItems c).zipIdx.map fun (item, offset) =>
        itemLine (·.node.textContent) (listStart c.node) offset item :=
  List.map_congr_left fun _ hpair =>
    itemLine_of_isPlainItem hvalue (h _ (List.fst_mem_of_mem_zipIdx hpair)) _ _

/-- For such items, whether their text is one line can be read off the tree as well. -/
theorem IsOutline.of_isPlainItem {p : Cursor → Prop}
    (hvalue : ∀ d, d.node.isElement = false → value d = d.node.textContent) (hlist : p c)
    (hplain : ∀ item ∈ listItems c, IsPlainItem item)
    (hlead : ∀ item ∈ listItems c, Text.trim (leadText (·.node.textContent) item) ≠ "" ∧
      '\n' ∉ (Text.trim (leadText (·.node.textContent) item)).toList)
    (hpadding : ∀ item ∈ listItems c, ∀ d ∈ item.children.dropWhile fun d => !isList d.node,
      isList d.node = false → d.isPadding = true)
    (hnested : ∀ d ∈ (listItems c).flatMap nestedLists, IsOutline p value d) :
    IsOutline p value c := by
  refine .list hlist (fun item hitem => ?_) hpadding fun item hitem d hd => ?_
  · rw [leadText_of_isPlainItem hvalue (hplain item hitem)]
    exact hlead item hitem
  · exact hnested d (List.mem_flatMap.mpr ⟨item, hitem, hd⟩)

end Transcript.Render
