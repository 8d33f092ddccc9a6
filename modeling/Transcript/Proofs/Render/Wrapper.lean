import Transcript.Proofs.Render.Fence

/-!
# Code and its wrappers

Code is inline if no wrapper stands above it. The test for inline code looks upwards for wrappers,
and the test for blocks of code looks downwards for code. They agree where they meet: a wrapper above
some code is a block, since it has this code below it. Only the search upwards ends at a node that
bears the name of documents, so code below such a node is inline even in a block.

## Main results

- `isCodeBlock_of_mem_descendants`: a wrapper above code is a block
- `isInlineCode_iff_not_isCodeBlock`: code is either inline or in a block
- `inline_in_block_around_document`: code that is both
-/

namespace Transcript.Render

open Markup

variable {c d : Cursor}

/-! ## Wrappers -/

theorem insideCodeWrapper_iff :
    insideCodeWrapper c = true ↔ ∃ d ∈ c.elementAncestors, isCodeWrapper d.node = true := by
  simp [insideCodeWrapper, Cursor.findAncestor?]

theorem isCodeWrapper_of_isCodeBlock (h : isCodeBlock d = true) : isCodeWrapper d.node = true := by
  unfold isCodeBlock at h
  rw [isCodeWrapper, Bool.or_eq_true]
  split at h
  · rename_i hpre
    exact .inl hpre
  · exact .inr (Bool.and_eq_true_iff.mp h).1

/-- A wrapper with code below it is a block of code. -/
theorem isCodeBlock_of_mem_descendants (hwrapper : isCodeWrapper d.node = true)
    (hc : c ∈ d.descendants) (hname : c.node.name = "code") : isCodeBlock d = true := by
  have helement : c.node.isElement = true := Cursor.isElement_of_name hname (by decide)
  unfold isCodeBlock
  split
  · exact isSome_find?_iff.mpr ⟨c, hc, helement, by simp [hname]⟩
  · rename_i hpre
    rw [isCodeWrapper, Bool.or_eq_true] at hwrapper
    have hfound : (d.find? ["code", "pre"]).isSome = true :=
      isSome_find?_iff.mpr ⟨c, hc, helement, by simp [hname]⟩
    rw [hwrapper.resolve_left hpre, hfound]
    rfl

/-! ## Inline or in a block -/

/-- All code of a tree is either inline or in a block of code, where blocks beyond the document do
not count. -/
theorem isInlineCode_iff_not_isCodeBlock {tree : Nat} {node : Node}
    (hc : c ∈ (Cursor.root tree node).subtree) (hname : c.node.name = "code") :
    isInlineCode c = true ↔
      ¬∃ d ∈ c.ancestors, isCodeBlock d = true ∧ ¬c.BeyondDocument d := by
  have htag : c.node.tagName = "code" := by
    rw [Node.tagName, hname]
    decide
  have hinside : insideCodeWrapper c = true ↔
      ∃ d ∈ c.ancestors, isCodeBlock d = true ∧ ¬c.BeyondDocument d := by
    rw [insideCodeWrapper_iff]
    constructor
    · rintro ⟨d, hd, hwrapper⟩
      obtain ⟨habove, hnear⟩ := Cursor.mem_elementAncestors_iff.mp hd
      have hbelow := Cursor.mem_descendants_of_mem_ancestors hc habove
      exact ⟨d, habove, isCodeBlock_of_mem_descendants hwrapper hbelow hname, hnear⟩
    · rintro ⟨d, habove, hblock, hnear⟩
      exact ⟨d, Cursor.mem_elementAncestors_iff.mpr ⟨habove, hnear⟩,
        isCodeWrapper_of_isCodeBlock hblock⟩
  rw [← hinside]
  simp [isInlineCode, htag]

/-- An element with code in it. -/
def codeSpan : Node :=
  .element "code" [] [.leaf .plain "x"]

/-- Preformatted text around a node. -/
def preAround (content : Node) : Node :=
  .element "pre" [] [content]

/-- Code in a paragraph of preformatted text. -/
def wrappedCode : Cursor :=
  ⟨0, codeSpan, [⟨.element "p" [] [codeSpan], 0⟩, ⟨preAround (.element "p" [] [codeSpan]), 0⟩]⟩

/-- It is not inline, so it is in a block. -/
theorem isInlineCode_iff_not_isCodeBlock_wrapped :
    wrappedCode ∈ (Cursor.root 0 (preAround (.element "p" [] [codeSpan]))).subtree ∧
      wrappedCode.node.name = "code" ∧ isInlineCode wrappedCode = false ∧
      ∃ d ∈ wrappedCode.ancestors, isCodeBlock d = true ∧ ¬wrappedCode.BeyondDocument d := by
  have hc : wrappedCode ∈ (Cursor.root 0 (preAround (.element "p" [] [codeSpan]))).subtree :=
    List.mem_cons_of_mem _ (List.mem_cons_of_mem _ List.mem_cons_self)
  have hinline : isInlineCode wrappedCode = false := by decide
  refine ⟨hc, rfl, hinline, ?_⟩
  by_contra hblock
  have hboth := (isInlineCode_iff_not_isCodeBlock hc rfl).mpr hblock
  rw [hinline] at hboth
  cases hboth

/-- Code in an element that bears the name of documents, in preformatted text. -/
def sealedCode : Cursor :=
  ⟨0, codeSpan, [⟨.element documentName [] [codeSpan], 0⟩,
    ⟨preAround (.element documentName [] [codeSpan]), 0⟩]⟩

/-- It is inline, and it is in a block as well. -/
theorem inline_in_block_around_document :
    sealedCode ∈ (Cursor.root 0 (preAround (.element documentName [] [codeSpan]))).subtree ∧
      sealedCode.node.name = "code" ∧ isInlineCode sealedCode = true ∧
      ∃ d ∈ sealedCode.ancestors, isCodeBlock d = true := by
  refine ⟨?_, rfl, by decide, ?_⟩
  · exact List.mem_cons_of_mem _ (List.mem_cons_of_mem _ List.mem_cons_self)
  · refine ⟨Cursor.root 0 (preAround (.element documentName [] [codeSpan])), ?_, by decide⟩
    exact List.mem_cons_of_mem _ List.mem_cons_self

end Transcript.Render
