import Transcript.Proofs.Formula.Decoding
import Transcript.Proofs.Markup.Subtree
import Transcript.Proofs.Platform.Script
import Transcript.Proofs.Text.Trimming

/-!
# Formulas recovered from placeholders

Where a formula could not be rendered, a page has a placeholder whose text is the escaped source of
the formula, often behind a label that names the error. The source is recovered by cutting blanks,
reading entities, dropping the label and cutting blanks again. None of these steps gets into the way
of another: entities neither begin nor end with a blank, the label has no ampersand, and it is dropped
up to the first colon behind its first one, so colons in the source are kept.

## Main definitions

- `Adapter.HasErrorLabel`: a text that begins as if it had a label
- `Adapter.PlaceholderText`: what a placeholder for a source says

## Main results

- `Formula.trim_encodeAll`: cutting blanks off an escaped text
- `Adapter.dropErrorLabel_append`, `Adapter.dropErrorLabel_eq_self`: dropping a label
- `Adapter.placeholderSource_eq`: the source of a placeholder
- `Adapter.extractLatex_placeholder`: what built-in adapters recover from a placeholder
-/

namespace Transcript

/-! ## Escaped texts and blanks -/

namespace Formula

open Chars

theorem trimStart_encodeAll (s : List Char) : trimStart (encodeAll s) = encodeAll (trimStart s) := by
  have hblank : ∀ c ∈ reserved, isBlank c = false := forall_reserved.mpr (by decide)
  have hspan := span_encodeAll hblank s
  rw [List.span_eq_takeWhile_dropWhile, List.span_eq_takeWhile_dropWhile] at hspan
  exact (Prod.mk.inj hspan).2

/-- A character that is no blank is escaped as something that ends in none. -/
theorem endsVisibly_encodeChar {c : Char} (h : isBlank c = false) : EndsVisibly (encodeChar c) := by
  by_cases hreserved : c ∈ reserved
  · rcases mem_reserved.mp hreserved with rfl | rfl | rfl | rfl | rfl
    · exact ⟨"&amp".toList, ';', rfl, rfl⟩
    · exact ⟨"&lt".toList, ';', rfl, rfl⟩
    · exact ⟨"&gt".toList, ';', rfl, rfl⟩
    · exact ⟨"&quot".toList, ';', rfl, rfl⟩
    · exact ⟨"&#39".toList, ';', rfl, rfl⟩
  · exact ⟨[], c, encodeChar_of_not_reserved hreserved, h⟩

theorem trimEnd_encodeAll (s : List Char) : trimEnd (encodeAll s) = encodeAll (trimEnd s) := by
  -- Induction from the end, where the blanks are cut.
  induction s using List.reverseRecOn with
  | nil => rfl
  | append_singleton s c ih =>
    have hlast : encodeAll (s ++ [c]) = encodeAll s ++ encodeChar c := by simp [encodeAll]
    rw [hlast]
    cases hc : isBlank c with
    | true =>
      have hplain : c ∉ reserved := by
        have hblank : ∀ c ∈ reserved, isBlank c = false := forall_reserved.mpr (by decide)
        intro hreserved
        rw [hblank c hreserved] at hc
        cases hc
      rw [encodeChar_of_not_reserved hplain, trimEnd_append_of_blank _ (by simpa using hc),
        trimEnd_append_of_blank _ (by simpa using hc), ih]
    | false =>
      have hvisible : EndsVisibly (s ++ [c]) := ⟨s, c, rfl, hc⟩
      rw [((endsVisibly_encodeChar hc).append _).trimEnd_eq, hvisible.trimEnd_eq, hlast]

/-- Blanks are cut off an escaped text as off the text itself. -/
theorem trim_encodeAll (s : List Char) : trim (encodeAll s) = encodeAll (trim s) := by
  rw [trim, trimStart_encodeAll, trimEnd_encodeAll, trim]

end Formula

namespace Adapter

open Markup Formula

/-! ## Labels -/

/-- A text that begins as if it had a label: the word for errors, in any case, with its colon, and
another colon on the same line. -/
def HasErrorLabel (s : List Char) : Prop :=
  ∃ mark label rest, s = mark ++ (label ++ ':' :: rest) ∧
    mark.map foldLetter = "parseerror:".toList ∧ '\n' ∉ label

theorem takeFolded?_append {mark taken : List Char} (h : taken.map foldLetter = mark)
    (rest : List Char) : takeFolded? mark (taken ++ rest) = some (taken, rest) := by
  subst h
  induction taken with
  | nil => rfl
  | cons c taken ih => simp [takeFolded?, ih]

theorem eq_append_of_takeFolded? {mark s taken rest : List Char}
    (h : takeFolded? mark s = some (taken, rest)) :
    s = taken ++ rest ∧ taken.map foldLetter = mark := by
  induction mark generalizing s taken with
  | nil =>
    obtain ⟨rfl, rfl⟩ : [] = taken ∧ s = rest := by simpa [takeFolded?] using h
    exact ⟨rfl, rfl⟩
  | cons m mark ih =>
    cases s with
    | nil => simp [takeFolded?] at h
    | cons c s =>
      rw [takeFolded?] at h
      split at h
      · rename_i hfold
        obtain ⟨⟨others, left⟩, hothers, hsplit⟩ := Option.map_eq_some_iff.mp h
        obtain ⟨rfl, rfl⟩ := Prod.mk.inj hsplit
        obtain ⟨rfl, htaken⟩ := ih hothers
        exact ⟨rfl, by simp [hfold, htaken]⟩
      · cases h

/-- A label without another colon in it is dropped as a whole, with the blanks behind it. -/
theorem dropErrorLabel_append {mark label : List Char}
    (hmark : mark.map foldLetter = "parseerror:".toList) (hcolon : ':' ∉ label)
    (hline : '\n' ∉ label) (rest : List Char) :
    dropErrorLabel (mark ++ (label ++ ':' :: rest)) = Chars.trimStart rest := by
  have hlabel : ∀ c ∈ label, (c != ':' && c != '\n') = true := by
    intro c hc
    have hnotcolon : c ≠ ':' := fun heq => hcolon (heq ▸ hc)
    have hnotline : c ≠ '\n' := fun heq => hline (heq ▸ hc)
    simp [hnotcolon, hnotline]
  rw [dropErrorLabel, takeFolded?_append hmark]
  dsimp only
  -- Nothing in the label stops the search for a colon before its own one.
  rw [List.dropWhile_append_of_pos hlabel]
  rfl

/-- A text without a label is left as it is. -/
theorem dropErrorLabel_eq_self {s : List Char} (h : ¬HasErrorLabel s) : dropErrorLabel s = s := by
  unfold dropErrorLabel
  split
  · rfl
  · rename_i taken rest htaken
    obtain ⟨rfl, hmark⟩ := eq_append_of_takeFolded? htaken
    split
    · -- A colon on the line would make it a label.
      rename_i behind hbehind
      have hsplit : rest.takeWhile (fun c => c != ':' && c != '\n') ++ ':' :: behind = rest := by
        rw [← hbehind, List.takeWhile_append_dropWhile]
      have hline : '\n' ∉ rest.takeWhile fun c => c != ':' && c != '\n' := by
        intro hmem
        simpa using List.mem_takeWhile_imp hmem
      exact absurd ⟨taken, _, behind, by rw [hsplit], hmark, hline⟩ h
    · rfl

/-! ## The source of a placeholder -/

/-- What a placeholder for a source says: the escaped source behind a label on one line, or alone. In
the second case the source must not begin as if it had a label. -/
inductive PlaceholderText (source : String) : String → Prop where
  | labelled (label : String) (hcolon : ':' ∉ label.toList) (hamp : '&' ∉ label.toList)
      (hline : '\n' ∉ label.toList) :
      PlaceholderText source ("ParseError:" ++ label ++ ":" ++ encode source)
  | bare (hlabel : ¬HasErrorLabel (Text.trim source).toList) :
      PlaceholderText source (encode source)

/-- Of a labelled source the blanks at the end are cut and the entities are read, and the label stays
as it was. -/
theorem decode_trim_labelled {label s : List Char} (hamp : '&' ∉ label) (hsome : Chars.trim s ≠ []) :
    decodeFrom none (Chars.trim ("ParseError:".toList ++ (label ++ ':' :: encodeAll s))) =
      "ParseError:".toList ++ (label ++ ':' :: Chars.trimEnd s) := by
  have hend : Chars.trimEnd (encodeAll s) ≠ [] := by
    rw [trimEnd_encodeAll]
    exact encodeAll_ne_nil (Chars.trimEnd_ne_nil_of_trim hsome)
  have hplain : '&' ∉ "ParseError:".toList ++ (label ++ [':']) := by
    simp [hamp]
  -- The colon of the label moves to what stands in front of the source.
  have hshift : ∀ t, "ParseError:".toList ++ (label ++ ':' :: t) =
      ("ParseError:".toList ++ (label ++ [':'])) ++ t := by simp
  calc
    decodeFrom none (Chars.trim ("ParseError:".toList ++ (label ++ ':' :: encodeAll s))) =
        decodeFrom none ("ParseError:".toList ++ (label ++ ':' :: Chars.trimEnd (encodeAll s))) := by
      rw [Chars.trim_eq, hshift, Chars.trimEnd_append _ hend, ← hshift]
      rfl
    _ = "ParseError:".toList ++ (label ++ ':' :: Chars.trimEnd s) := by
      rw [trimEnd_encodeAll, hshift, decodeFrom_append hplain, decodeFrom_encodeAll_self, ← hshift]

/-- The source comes back without its outer blanks. -/
theorem placeholderSource_eq {source text : String} (hsome : Text.trim source ≠ "")
    (h : PlaceholderText source text) : placeholderSource text = Text.trim source := by
  have hchars : Chars.trim source.toList ≠ [] := Text.toList_trim_ne_nil hsome
  rw [← String.toList_inj]
  simp only [placeholderSource, Text.trim, decode, Text.toList_onChars]
  cases h with
  | labelled label hcolon hamp hline =>
    have hword : "ParseError:".toList.map foldLetter = "parseerror:".toList := by decide
    have htext : ("ParseError:" ++ label ++ ":" ++ encode source).toList =
        "ParseError:".toList ++ (label.toList ++ ':' :: encodeAll source.toList) := by
      simp
    rw [htext, decode_trim_labelled hamp hchars, dropErrorLabel_append hword hcolon hline,
      ← Chars.trim_eq, Chars.trim_trim]
  | bare hlabel =>
    rw [Text.trim, Text.toList_onChars] at hlabel
    rw [toList_encode, trim_encodeAll, decodeFrom_encodeAll_self, dropErrorLabel_eq_self hlabel,
      Chars.trim_trim]

/-! ## Recovery -/

variable {a : Adapter} {c : Cursor}

/-- Below an element that has no elements as children there are none at all. -/
theorem isElement_of_mem_descendants (hleaves : ∀ node ∈ c.node.children, node.isElement = false)
    {d : Cursor} (hd : d ∈ c.descendants) : d.node.isElement = false := by
  rw [Cursor.descendants_eq] at hd
  obtain ⟨child, hchild, hbelow⟩ := List.mem_flatMap.mp hd
  have hleaf := hleaves _ (Cursor.node_mem_of_mem_children hchild)
  rw [Cursor.subtree_eq, Cursor.children_of_not_isElement hleaf] at hbelow
  obtain rfl : d = child := by simpa using hbelow
  exact hleaf

/-- Where there are no elements inside, nothing is found by a selector. -/
theorem findText?_of_leaves {selector : String} (hselector : (Selector.parse selector).isOk = true)
    (helement : c.node.isElement = true)
    (hleaves : ∀ node ∈ c.node.children, node.isElement = false) :
    c.findText? selector = .ok none := by
  have hnone : ∀ parsed : Selector, parsed.selectOne? c = none := by
    intro parsed
    rw [Selector.selectOne?, List.find?_eq_none]
    intro d hd
    simp [Selector.accepts, isElement_of_mem_descendants hleaves hd]
  cases hparse : Selector.parse selector with
  | error fault => simp [hparse, Except.isOk, Except.toBool] at hselector
  | ok parsed => rw [Cursor.findText?_of_parse helement hparse, hnone]

theorem fromAnnotated_of_leaves (helement : c.node.isElement = true)
    (hleaves : ∀ node ∈ c.node.children, node.isElement = false) :
    a.fromAnnotated c = .ok none := by
  have hselector : (Selector.parse texSource).isOk = true := by decide
  simp [fromAnnotated, findText?_of_leaves hselector helement hleaves]

theorem fromAttribute_of_bare
    (hattributes : ∀ name ∈ a.profile.latexAttributes, c.node.hasAttribute name = false) :
    a.fromAttribute c = .ok none := by
  have hnone : (a.profile.latexAttributes.map c.node.trimmedAttribute).find?
      (fun value => value != "") = none := by
    rw [List.find?_eq_none]
    intro value hvalue
    obtain ⟨name, hname, rfl⟩ := List.mem_map.mp hvalue
    have hmissing : c.node.attribute? name = none := by
      simpa [Node.hasAttribute] using hattributes name hname
    have hblank : Text.trim "" = "" := rfl
    simp [Node.trimmedAttribute, Node.attributeText?, hmissing, hblank]
  simp only [fromAttribute, hnone]

/-- A placeholder offers its source. An environment makes it a display without asking the adapter. -/
theorem fromKatexError_of_class {source : String} {isBlock : Bool}
    (hclass : c.node.hasClass [placeholderClass] = true)
    (hsource : placeholderSource c.node.flatText = source) (hsome : source ≠ "")
    (hblock : a.isBlockMath c = .ok isBlock) :
    a.fromKatexError c = .ok (some ⟨source, Text.contains "\\begin\x7b" source || isBlock,
      .katexError⟩) := by
  simp only [fromKatexError, hclass, if_true, hsource, beq_iff_eq, hsome, if_false]
  split
  · rename_i hbegin
    rw [hbegin, Bool.true_or]
  · rename_i hbegin
    rw [Bool.eq_false_iff.mpr hbegin, Bool.false_or, candidate, hblock]
    rfl

/-- From a placeholder for a formula a built-in adapter recovers the source without its outer blanks,
and reports nothing, provided that the source is acceptable. -/
theorem extractLatex_placeholder (ha : a ∈ builtinAdapters) {source : String}
    (hclass : c.node.hasClass [placeholderClass] = true)
    (hleaves : ∀ node ∈ c.node.children, node.isElement = false)
    (hattributes : ∀ name ∈ a.profile.latexAttributes, c.node.hasAttribute name = false)
    (hvalid : a.validateLatex (Text.trim source) = .ok true)
    (htext : PlaceholderText source c.node.flatText) :
    ∃ isBlock, a.isBlockMath c = .ok isBlock ∧
      a.extractLatex c = ⟨.ok (some ⟨Text.trim source,
        Text.contains "\\begin\x7b" (Text.trim source) || isBlock, .katexError⟩), []⟩ := by
  have hoverrides := overrides_of_mem_builtin ha
  have helement : c.node.isElement = true := Cursor.isElement_of_hasClass hclass
  have hsome : Text.trim source ≠ "" := latex_ne_empty ha hvalid
  have hannotated : a.strategy .annotated c = .ok none := by
    simp only [strategy, hoverrides]
    exact fromAnnotated_of_leaves helement hleaves
  have hattribute : a.strategy .attr c = .ok none := by
    simp only [strategy, hoverrides]
    exact fromAttribute_of_bare hattributes
  obtain ⟨isBlock, hblock⟩ := isBlockMath_ok ha helement
  have hoffer : a.strategy .katexError c = .ok (some ⟨Text.trim source,
      Text.contains "\\begin\x7b" (Text.trim source) || isBlock, .katexError⟩) := by
    simp only [strategy, hoverrides]
    exact fromKatexError_of_class hclass (placeholderSource_eq hsome htext) hsome hblock
  -- The two strategies before the placeholder decline, so they leave no reports.
  have hfound : a.FoundBy c [.annotated, .attr] .katexError [.mathMl, .text]
      ⟨Text.trim source, Text.contains "\\begin\x7b" (Text.trim source) || isBlock, .katexError⟩ := by
    refine ⟨rfl, fun earlier hearlier result hresult => ?_, hoffer, hvalid⟩
    obtain rfl | rfl : earlier = .annotated ∨ earlier = .attr := by simpa using hearlier
    · rw [hannotated] at hresult
      cases hresult
    · rw [hattribute] at hresult
      cases hresult
  refine ⟨isBlock, hblock, ?_⟩
  rw [hfound.extractLatex_eq (keepsChain_of_overrides hoverrides) helement]
  simp [failures, entries, failure?, hannotated, hattribute]

/-- A placeholder whose source has blanks around it, a colon, quotes and what looks like an entity. -/
def labelledPlaceholder : Cursor :=
  Cursor.root 0 (.element "span" [⟨"class", .words ["katex-error"]⟩] [.leaf .plain
    ("ParseError:" ++ " KaTeX parse error" ++ ":" ++ encode " f: \"A\" &lt; B ")])

/-- The colon of the source is kept, and what looks like an entity in it is not read as one. -/
theorem extractLatex_placeholder_labelled :
    chatGPT ∈ builtinAdapters ∧
      labelledPlaceholder.node.hasClass [placeholderClass] = true ∧
      (∀ node ∈ labelledPlaceholder.node.children, node.isElement = false) ∧
      (∀ name ∈ chatGPT.profile.latexAttributes,
        labelledPlaceholder.node.hasAttribute name = false) ∧
      chatGPT.validateLatex (Text.trim " f: \"A\" &lt; B ") = .ok true ∧
      PlaceholderText " f: \"A\" &lt; B " labelledPlaceholder.node.flatText ∧
      chatGPT.extractLatex labelledPlaceholder =
        ⟨.ok (some ⟨"f: \"A\" &lt; B", false, .katexError⟩), []⟩ := by
  have hmem : chatGPT ∈ builtinAdapters := by simp [builtinAdapters]
  have hclass : labelledPlaceholder.node.hasClass [placeholderClass] = true := by decide
  have hleaves : ∀ node ∈ labelledPlaceholder.node.children, node.isElement = false := by
    simp [labelledPlaceholder, Cursor.root, Node.children, Node.isElement]
  have hattributes : ∀ name ∈ chatGPT.profile.latexAttributes,
      labelledPlaceholder.node.hasAttribute name = false := by decide
  have hvalid : chatGPT.validateLatex (Text.trim " f: \"A\" &lt; B ") = .ok true := by
    rw [validateLatex_iff rfl]
    decide
  have htext : PlaceholderText " f: \"A\" &lt; B " labelledPlaceholder.node.flatText :=
    .labelled " KaTeX parse error" (by decide) (by decide) (by decide)
  obtain ⟨isBlock, hblock, hresult⟩ :=
    extractLatex_placeholder hmem hclass hleaves hattributes hvalid htext
  refine ⟨hmem, hclass, hleaves, hattributes, hvalid, htext, ?_⟩
  have hinline : chatGPT.isBlockMath labelledPlaceholder = .ok false := by rfl
  obtain rfl : false = isBlock := by simpa [hinline] using hblock
  have htrim : Text.trim " f: \"A\" &lt; B " = "f: \"A\" &lt; B" := by decide
  have hplain : Text.contains "\\begin\x7b" "f: \"A\" &lt; B" = false := by decide
  rw [hresult, htrim, hplain]
  rfl

end Adapter

end Transcript
