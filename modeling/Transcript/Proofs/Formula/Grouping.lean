import Transcript.Proofs.Formula.Nesting
import Transcript.Proofs.Markup.Subtree
import Transcript.Proofs.Text.Balance
import Transcript.Proofs.Text.Lines
import Transcript.Proofs.Text.Visible

/-!
# Braces in converted formulas

LaTeX writes groups in braces, so a formula whose braces are not balanced breaks the document that it
stands in. A converted formula takes over the texts of some elements, and all other braces in it come
in pairs around parts that have been converted before. So it is balanced as long as these texts are,
whatever is left out on the way.

## Main definitions

- `BracesBalanced`: a text whose braces are balanced
- `textNames`: the elements whose texts are taken over
- `Shape.KeepsBraces`: balanced parts are put into place as something balanced

## Main results

- `bracesBalanced_assemble`: one step of the conversion
- `bracesBalanced_of_convertNode`: the conversion of an element, whatever it reaches
- `latexOfMathMl_balanced`: the conversion of a formula
-/

namespace Transcript.Formula

open Markup

/-! ## Texts with balanced braces -/

/-- No beginning of the text closes more braces than it opens, and the whole of it closes as many as
it opens. -/
def BracesBalanced (s : String) : Prop :=
  Chars.BalancedFrom '\x7b' '\x7d' 0 s.toList

instance (s : String) : Decidable (BracesBalanced s) :=
  inferInstanceAs (Decidable (Chars.BalancedFrom '\x7b' '\x7d' 0 s.toList))

variable {s t : String}

theorem BracesBalanced.append (hs : BracesBalanced s) (ht : BracesBalanced t) :
    BracesBalanced (s ++ t) := by
  rw [BracesBalanced, String.toList_append]
  exact Chars.BalancedFrom.append hs ht

theorem BracesBalanced.braced (hs : BracesBalanced s) : BracesBalanced (braced s) := by
  have hclosing : Chars.BalancedFrom '\x7b' '\x7d' 1 ['\x7d'] := by decide
  have hchars : (Formula.braced s).toList = '\x7b' :: (s.toList ++ ['\x7d']) := by
    simp [Formula.braced]
  rw [BracesBalanced, hchars, Chars.balancedFrom_opening (by decide)]
  exact Chars.BalancedFrom.append hs hclosing

theorem bracesBalanced_trim : BracesBalanced (Text.trim s) ↔ BracesBalanced s := by
  -- Braces are visible, and only blanks are cut off.
  have hvisible : ∀ s, Chars.BalancedFrom '\x7b' '\x7d' 0 (Chars.visible s) ↔
      Chars.BalancedFrom '\x7b' '\x7d' 0 s :=
    fun s => Chars.balancedFrom_filter (by decide) (by decide)
  rw [BracesBalanced, Text.trim, Text.toList_onChars, ← hvisible, Chars.visible_trim, hvisible]
  rfl

theorem bracesBalanced_join {separator : String} (hseparator : BracesBalanced separator)
    {parts : List String} (h : ∀ part ∈ parts, BracesBalanced part) :
    BracesBalanced (Text.join separator parts) := by
  rw [BracesBalanced, Text.toList_join]
  induction parts with
  | nil => exact Chars.balancedFrom_nil.mpr rfl
  | cons first others ih =>
    obtain ⟨hfirst, hothers⟩ := List.forall_mem_cons.mp h
    cases others with
    | nil => simpa [BracesBalanced] using hfirst
    | cons second others =>
      rw [List.map_cons, List.map_cons, List.intercalate_cons_cons]
      exact (Chars.BalancedFrom.append hfirst hseparator).append (ih hothers)

/-- A part that is not there counts as an empty one. -/
theorem bracesBalanced_nth {parts : List String} (h : ∀ part ∈ parts, BracesBalanced part)
    (i : Nat) : BracesBalanced (nth parts i) := by
  rw [nth, List.getD_eq_getElem?_getD]
  cases hpart : parts[i]? with
  | none => exact Chars.balancedFrom_nil.mpr rfl
  | some part => exact h part (List.mem_of_getElem? hpart)

/-! ## One step -/

/-- The names of elements whose texts are taken over: tokens and words. -/
def textNames : List String :=
  ["mi", "mn", "mo", "ms", "mtext"]

/-- Whether an element shows its own text. -/
def Shape.showsText : Shape → Bool
  | .token | .words => true
  | _ => false

/-- Balanced parts are put into place as something balanced. -/
def Shape.KeepsBraces : Shape → Prop
  | .token | .ignored | .words => True
  | .scripts _ place =>
    ∀ parts, (∀ part ∈ parts, BracesBalanced part) → BracesBalanced (place parts)
  | .group place => ∀ s, BracesBalanced s → BracesBalanced (place s)

theorem mem_textNames_of_shapeOf {name : String} (h : (shapeOf name).showsText = true) :
    name ∈ textNames := by
  fun_cases shapeOf name <;> simp_all [shapeOf, Shape.showsText, textNames]

/-- Whatever an element is called, the braces that it adds come in pairs around its parts. -/
theorem keepsBraces_shapeOf (name : String) : (shapeOf name).KeepsBraces := by
  -- What stands between the parts has no braces at all.
  have hplain : ∀ s ∈ ["_", "^", "\\frac", "\\sqrt", "\\sqrt[", "]"], BracesBalanced s := by decide
  fun_cases shapeOf name
  -- One script, below or above
  case case11 | case12 =>
    intro parts hparts
    have hfirst := (bracesBalanced_nth hparts 0).braced
    have hsecond := (bracesBalanced_nth hparts 1).braced
    exact (hfirst.append (hplain _ (by decide))).append hsecond
  -- Fractions
  case case13 =>
    intro parts hparts
    have hfirst := (bracesBalanced_nth hparts 0).braced
    have hsecond := (bracesBalanced_nth hparts 1).braced
    exact ((hplain _ (by decide)).append hfirst).append hsecond
  -- The index of a root stands in brackets, which count for nothing.
  case case14 =>
    intro parts hparts
    have hfirst := (bracesBalanced_nth hparts 0).braced
    have hindex := bracesBalanced_nth hparts 1
    exact (((hplain _ (by decide)).append hindex).append (hplain _ (by decide))).append hfirst
  -- Two scripts
  case case15 =>
    intro parts hparts
    have hfirst := (bracesBalanced_nth hparts 0).braced
    have hsecond := (bracesBalanced_nth hparts 1).braced
    have hthird := (bracesBalanced_nth hparts 2).braced
    have hindexed := (hfirst.append (hplain "_" (by decide))).append hsecond
    exact (hindexed.append (hplain "^" (by decide))).append hthird
  -- Square roots, and elements that only hold others
  case case16 => exact fun s hs => (hplain _ (by decide)).append hs.braced
  case case17 => exact fun s hs => hs
  all_goals trivial

/-- One step of the conversion: from balanced parts, an element is assembled as something balanced,
provided that its own text is if it shows that. -/
theorem bracesBalanced_assemble {node : Node} {parts : List String}
    (htext : node.tagName ∈ textNames → BracesBalanced node.flatText)
    (hparts : ∀ part ∈ parts, BracesBalanced part) : BracesBalanced (assemble node parts) := by
  have hkeeps := keepsBraces_shapeOf node.tagName
  have hshows : (shapeOf node.tagName).showsText = true → BracesBalanced node.flatText :=
    fun h => htext (mem_textNames_of_shapeOf h)
  have hempty : BracesBalanced "" := by decide
  have hblank : BracesBalanced " " := by decide
  have hmark : BracesBalanced "\\text" := by decide
  unfold assemble
  cases hshape : shapeOf node.tagName with
  | token => exact hshows (by rw [hshape]; rfl)
  | ignored => exact hempty
  | words => exact hmark.append (hshows (by rw [hshape]; rfl)).braced
  | scripts arity place =>
    rw [hshape] at hkeeps
    dsimp only
    split
    · exact hempty
    · exact hkeeps parts hparts
  | group place =>
    rw [hshape] at hkeeps
    exact hkeeps _ (bracesBalanced_join hblank hparts)

/-! ## A whole conversion -/

/-- The conversion of an element is balanced if the texts are that it takes over on its way. -/
theorem bracesBalanced_of_convertNode {limit : Int} {depth : Nat} {node : Node} {latex : String}
    (htexts : ∀ levels deep, ReachedAt node levels deep → deep.tagName ∈ textNames →
      BracesBalanced deep.flatText)
    (h : convertNode limit depth node = .ok latex) : BracesBalanced latex := by
  induction node using reached_induction generalizing depth latex with
  | step node ih =>
    rw [convertNode_eq] at h
    split at h
    · cases h
    · cases hparts : (loggedEach limit (depth + 1) (reachedFrom node)).1 with
      | error f => simp [hparts, Except.map] at h
      | ok parts =>
        obtain rfl : assemble node parts = latex := by simpa [hparts, Except.map] using h
        refine bracesBalanced_assemble (htexts 0 node .start) fun part hpart => ?_
        obtain ⟨child, hchild, hconverted⟩ := exists_convertNode_of_loggedEach hparts hpart
        refine ih child hchild (fun levels deep hdeep => ?_) hconverted
        exact htexts (levels + 1) deep (reachedAt_succ_iff.mpr ⟨child, hchild, hdeep⟩)

/-- What a conversion reaches lies in the tree that is converted. -/
theorem exists_mem_subtree_of_reachedAt {c : Cursor} {levels : Nat} {deep : Node}
    (h : ReachedAt c.node levels deep) : ∃ d ∈ c.subtree, d.node = deep := by
  induction h with
  | start => exact ⟨c, Cursor.self_mem_subtree c, rfl⟩
  | next hnode hchild ih =>
    obtain ⟨d, hd, rfl⟩ := ih
    have hmem := (List.mem_filter.mp (mem_elementChildren_of_reachedFrom hchild)).1
    obtain ⟨i, hi⟩ := List.mem_iff_getElem?.mp hmem
    have hbelow := Cursor.mem_children_iff.mpr ⟨i, _, hi, rfl⟩
    exact ⟨_, Cursor.mem_subtree_of_child hd hbelow, rfl⟩

/-- If the braces are balanced in the text of every token and of all words in a tree, they are
balanced in what the tree is converted to, whatever the limit on nesting. -/
theorem latexOfMathMl_balanced {limit : Int} {c : Cursor} {latex : String}
    (htexts : ∀ d ∈ c.subtree, d.node.tagName ∈ textNames → BracesBalanced d.node.flatText)
    (h : latexOfMathMl limit c.node = .ok latex) : BracesBalanced latex := by
  cases hconverted : convertNode limit 0 c.node with
  | error f => simp [latexOfMathMl, hconverted, Except.map] at h
  | ok converted =>
    obtain rfl : Text.trim converted = latex := by
      simpa [latexOfMathMl, hconverted, Except.map] using h
    refine bracesBalanced_trim.mpr (bracesBalanced_of_convertNode (fun levels deep hdeep => ?_)
      hconverted)
    obtain ⟨d, hd, rfl⟩ := exists_mem_subtree_of_reachedAt hdeep
    exact htexts d hd

/-- A base with an incomplete fraction below it and a root of words, in braces already, above it. -/
def scriptedFormula : Cursor :=
  Cursor.root 0 (.element "math" [] [
    .element "msubsup" [] [
      .element "MI" [] [.leaf .plain "x"],
      .element "mfrac" [] [.element "mn" [] [.leaf .plain "1"]],
      .element "msqrt" [] [.element "mtext" [] [.leaf .plain "\x7ba\x7d \x7b\x7d"]]]])

/-- What is left out leaves an empty group, and the braces of the words stand within others. -/
theorem latexOfMathMl_balanced_scripted :
    (∀ d ∈ scriptedFormula.subtree,
      d.node.tagName ∈ textNames → BracesBalanced d.node.flatText) ∧
      latexOfMathMl defaultMaxNesting scriptedFormula.node =
        .ok "\x7bx\x7d_\x7b\x7d^\x7b\\sqrt\x7b\\text\x7b\x7ba\x7d \x7b\x7d\x7d\x7d\x7d" ∧
      BracesBalanced "\x7bx\x7d_\x7b\x7d^\x7b\\sqrt\x7b\\text\x7b\x7ba\x7d \x7b\x7d\x7d\x7d\x7d" := by
  have htexts : ∀ d ∈ scriptedFormula.subtree,
      d.node.tagName ∈ textNames → BracesBalanced d.node.flatText := by decide
  have hlatex : latexOfMathMl defaultMaxNesting scriptedFormula.node =
      .ok "\x7bx\x7d_\x7b\x7d^\x7b\\sqrt\x7b\\text\x7b\x7ba\x7d \x7b\x7d\x7d\x7d\x7d" := by rfl
  exact ⟨htexts, hlatex, latexOfMathMl_balanced htexts hlatex⟩

end Transcript.Formula
