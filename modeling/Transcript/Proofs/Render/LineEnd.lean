import Mathlib.Data.List.Induction
import Transcript.Proofs.Render.Standard

/-!
# Ends of lines

The rules for headings, lists, quotations, tables, blocks of code, paragraphs, horizontal rules and
line breaks come to nothing or to whole lines: what stands behind such a text begins a line. The
rules for formulas and for inline formatting promise nothing of the kind.

## Main definitions

- `EndsLine`: a text behind which a line begins
- `lineRuleNames`: the rules that come to whole lines

## Main results

- `endsLine_join_iff`: a joined text ends as the last of its pieces that is not empty
- `endsLine_of_mem_standardRules`: what these rules come to
-/

namespace Transcript.Render

open Markup

/-! ## Texts of whole lines -/

/-- A text that is empty or ends with a line feed. -/
def EndsLine (text : String) : Prop :=
  ∀ c ∈ text.toList.getLast?, c = '\n'

instance (text : String) : Decidable (EndsLine text) :=
  decidable_of_iff (text.toList.getLast?.all (· == '\n') = true)
    (by unfold EndsLine; cases text.toList.getLast? <;> simp)

variable {s t : String}

theorem endsLine_empty : EndsLine "" := nofun

theorem endsLine_append_iff (s : String) (h : t ≠ "") : EndsLine (s ++ t) ↔ EndsLine t := by
  have hne : t.toList ≠ [] := fun hnil => h (String.toList_eq_nil_iff.mp hnil)
  rw [EndsLine, EndsLine, String.toList_append, List.getLast?_append_of_ne_nil _ hne]

theorem EndsLine.append (hs : EndsLine s) (ht : EndsLine t) : EndsLine (s ++ t) := by
  by_cases h : t = ""
  · rwa [h, String.append_empty]
  · exact (endsLine_append_iff s h).mpr ht

theorem endsLine_append_lineFeed (s : String) : EndsLine (s ++ "\n") :=
  (endsLine_append_iff s (by decide)).mpr (by decide)

theorem endsLine_append_emptyLine (s : String) : EndsLine (s ++ "\n\n") :=
  (endsLine_append_iff s (by decide)).mpr (by decide)

/-- Empty pieces do not show. -/
theorem endsLine_join_iff (pieces : List String) :
    EndsLine (String.join pieces) ↔ ∀ piece ∈ (pieces.filter (· ≠ "")).getLast?, EndsLine piece := by
  -- The last piece decides, unless it is empty.
  induction pieces using List.reverseRecOn with
  | nil => simp [endsLine_empty]
  | append_singleton pieces piece ih =>
    have hlast : String.join [piece] = piece := by simp
    rw [String.join_append, hlast, List.filter_append]
    by_cases h : piece = ""
    · simp [h, ih]
    · rw [endsLine_append_iff _ h]
      simp [h]

/-! ## Replacements -/

variable {ask : Option Cursor → String}

/-- Whatever the first program comes to, the second one decides. -/
theorem yields_bind_of_forall {α β : Type} {Q : β → Prop} {program : Rendering α}
    {f : α → Rendering β} (h : ∀ value, (f value).Yields ask Q) : (program >>= f).Yields ask Q :=
  Rendering.yields_bind (P := fun _ => True) (fun _ _ => trivial) fun value _ => h value

theorem endsLine_unless_empty (text : String) {other : String} (h : EndsLine other) :
    EndsLine (if text == "" then "" else other) := by
  split
  · exact endsLine_empty
  · exact h

theorem endsLine_heading (scene : Scene) (content : String) :
    (heading scene content).Yields ask EndsLine := by
  unfold heading
  extract_lets text
  split
  · exact Rendering.yields_pure endsLine_empty
  · exact yields_bind_of_forall fun level =>
      Rendering.yields_pure (endsLine_append_emptyLine _)

/-- Every item ends a line. -/
theorem endsLine_itemLines (indent : String) (start : Option Int) (offset : Nat)
    (items : List Cursor) : (itemLines indent start offset items).Yields ask EndsLine := by
  induction items generalizing offset with
  | nil => exact Rendering.yields_pure endsLine_empty
  | cons item rest ih =>
    refine yields_bind_of_forall fun marker => yields_bind_of_forall fun content => ?_
    refine Rendering.yields_bind (ih (offset + 1)) fun others hothers => ?_
    exact Rendering.yields_pure ((endsLine_append_lineFeed _).append hothers)

theorem endsLine_list (scene : Scene) (content : String) :
    (Render.list scene content).Yields ask EndsLine := by
  unfold Render.list
  split
  · intro text htext
    cases htext
  · refine Rendering.yields_bind (endsLine_itemLines _ _ 0 _) fun lines hlines => ?_
    apply Rendering.yields_pure
    split
    · exact endsLine_append_lineFeed lines
    · exact hlines

theorem endsLine_table (scene : Scene) (content : String) :
    (table scene content).Yields ask EndsLine := by
  have htext : ∀ header alignments body,
      (pure (tableText header alignments body) : Rendering String).Yields ask EndsLine :=
    fun _ _ _ => Rendering.yields_pure (endsLine_append_emptyLine _)
  unfold table
  split
  · intro text htext
    cases htext
  · cases filledRows scene.node with
    | nil => exact Rendering.yields_pure endsLine_empty
    | cons first rest =>
      dsimp only
      cases headerRow? scene.node (first :: rest) with
      | none => exact yields_bind_of_forall fun body => htext _ _ body
      | some header =>
        exact yields_bind_of_forall fun values => yields_bind_of_forall fun body =>
          htext values _ body

theorem endsLine_codeBlock (scene : Scene) (content : String) :
    (codeBlock scene content).Yields ask EndsLine := by
  unfold codeBlock
  split
  · exact Rendering.yields_pure (endsLine_append_emptyLine _)
  · exact yields_bind_of_forall fun language =>
      Rendering.yields_pure (endsLine_append_emptyLine _)

/-- The names of the rules that come to whole lines. -/
def lineRuleNames : List String :=
  ["code-block", "table", "heading", "blockquote", "list", "paragraph", "horizontal-rule",
    "line-break"]

/-- What the rules for lines come to ends a line. -/
theorem endsLine_of_mem_standardRules {rule : Rule} (h : rule ∈ standardRules)
    (hname : rule.name ∈ lineRuleNames) (scene : Scene) (content : String) :
    (rule.replacement scene content).Yields ask EndsLine := by
  rcases mem_standardRules_iff.mp h with h | h
  · cases h with
    | codeBlock => exact endsLine_codeBlock scene content
    | _ => exact absurd hname (by decide)
  · cases h with
    | table => exact endsLine_table scene content
    | heading => exact endsLine_heading scene content
    | blockquote =>
      exact Rendering.yields_pure (endsLine_unless_empty _ (endsLine_append_emptyLine _))
    | list => exact endsLine_list scene content
    | paragraph =>
      exact Rendering.yields_pure (endsLine_unless_empty _ (endsLine_append_emptyLine _))
    | horizontalRule => exact Rendering.yields_pure (by decide)
    | lineBreak => exact Rendering.yields_pure (by decide)
    | _ => exact absurd hname (by decide)

end Transcript.Render
