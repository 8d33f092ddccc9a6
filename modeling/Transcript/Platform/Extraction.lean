import Transcript.Formula.Entities
import Transcript.Formula.MathMl
import Transcript.Markup.Printer
import Transcript.Platform.Adapter

/-!
# Recovering formulas

The source of a rendered formula is looked for by a chain of strategies. The first candidate that
is acceptable wins; a strategy that fails is reported and passed over. When every strategy
declines, the markup itself is kept, or its escaped text if the markup carries script.

## Main definitions

- `Adapter.fromAnnotated`, `fromAttribute`, `fromKatexError`, `fromMathMl`, `fromText`
- `Adapter.strategies`: the chain
- `Adapter.extractLatex`: the first acceptable candidate
- `Adapter.markupFallback`: what is kept otherwise
-/

namespace Transcript.Adapter

open Markup Formula

/-- Whether a candidate is acceptable. -/
def validateLatex (a : Adapter) (candidate : String) : Except Fault Bool :=
  match a.overrides.validateLatex with
  | some f => f candidate
  | none => .ok (isAcceptable a.profile.maxLatexLength candidate)

/-- A candidate for the formula at a node. -/
def candidate (a : Adapter) (c : Cursor) (source : LatexSource) (latex : String) :
    Except Fault (Option LatexResult) :=
  (a.isBlockMath c).map fun isBlock => some ⟨latex, isBlock, source⟩

/-- Selects the annotation that holds the source of a formula. -/
def texSource : String := "annotation[encoding=\"application/x-tex\"]"

/-- The text of an annotation. -/
def fromAnnotated (a : Adapter) (c : Cursor) : Except Fault (Option LatexResult) :=
  match c.findText? texSource with
  | .error f => .error f
  | .ok none => .ok none
  | .ok (some found) =>
    let latex := Text.trim found.node.flatText
    if latex == "" then .ok none else a.candidate c .annotated latex

/-- The first attribute that is not blank. -/
def fromAttribute (a : Adapter) (c : Cursor) : Except Fault (Option LatexResult) :=
  let values := a.profile.latexAttributes.map c.node.trimmedAttribute
  match values.find? fun value => value != "" with
  | none => .ok none
  | some latex => a.candidate c .attr latex

/-- The label in front of the source in a placeholder: up to the second colon, on one line, and the
blanks behind it. -/
def dropErrorLabel (s : List Char) : List Char :=
  match takeFolded? "parseerror:".toList s with
  | none => s
  | some (_, rest) =>
    match rest.dropWhile fun c => c != ':' && c != '\n' with
    | ':' :: rest => Chars.trimStart rest
    | _ => s

/-- The source in a placeholder: entities are read, and the label is dropped. -/
def placeholderSource (text : String) : String :=
  Text.trim (Text.onChars dropErrorLabel (decode (Text.trim text)))

/-- The class of placeholders. -/
def placeholderClass : String := "katex-error"

/-- The source in a placeholder for a formula that could not be rendered. An environment makes it a
display formula. -/
def fromKatexError (a : Adapter) (c : Cursor) : Except Fault (Option LatexResult) :=
  let placeholder :=
    if c.node.hasClass [placeholderClass] then .ok (some c)
    else c.findText? ("." ++ placeholderClass)
  match placeholder with
  | .error f => .error f
  | .ok none => .ok none
  | .ok (some placeholder) =>
    let latex := placeholderSource placeholder.node.flatText
    if latex == "" then .ok none
    -- An environment needs no look at the classes.
    else if Text.contains "\\begin\x7b" latex then .ok (some ⟨latex, true, .katexError⟩)
    else a.candidate c .katexError latex

/-- The presentation markup of a formula. -/
def fromMathMl (a : Adapter) (c : Cursor) : Except Fault (Option LatexResult) :=
  let formula := if c.node.tagName == "math" then some c else c.find? ["math"]
  match formula with
  | none => .ok none
  | some formula =>
    match latexOfMathMl defaultMaxNesting formula.node with
    | .error f => .error f
    | .ok latex => if latex == "" then .ok none else a.candidate c .mathMl latex

/-- The element whose text stands for a formula. -/
def textSource (a : Adapter) (c : Cursor) : Except Fault Cursor :=
  match a.overrides.textSource with
  | some f => f c
  | none =>
    match a.profile.glyphSelector with
    | none => .ok c
    | some selector => (c.findText? selector).map fun found => found.getD c

/-- The flattened text. -/
def fromText (a : Adapter) (c : Cursor) : Except Fault (Option LatexResult) :=
  match a.textSource c with
  | .error f => .error f
  | .ok source =>
    let latex := Text.trim source.node.flatText
    if latex == "" then .ok none else a.candidate c .text latex

/-- A strategy by its source. -/
def strategy (a : Adapter) (source : LatexSource) : LatexStrategy :=
  match a.overrides.strategy source with
  | some f => f
  | none =>
    match source with
    | .annotated => a.fromAnnotated
    | .attr => a.fromAttribute
    | .katexError => a.fromKatexError
    | .mathMl => a.fromMathMl
    | .text => a.fromText
    | .markup => fun _ => .ok none

/-- The sources in the order in which they are tried. -/
def chain : List LatexSource := [.annotated, .attr, .katexError, .mathMl, .text]

/-- The strategies in the order in which they are tried. -/
def strategies (a : Adapter) : Except Fault (List (LatexSource × LatexStrategy)) :=
  match a.overrides.strategies with
  | some list => list
  | none => .ok (chain.map fun source => (source, a.strategy source))

/-- The report on a strategy that failed. -/
def strategyFailed (a : Adapter) (source : LatexSource) (fault : Fault) : Diagnostic :=
  .warning ("[" ++ a.name ++ "] LaTeX extraction strategy '" ++ source.word ++ "' failed: " ++
    fault.text) (some ⟨fault, []⟩)

/-- The first acceptable candidate. -/
def firstAcceptable (a : Adapter) (c : Cursor) :
    List (LatexSource × LatexStrategy) → Traced (Option LatexResult)
  | [] => ⟨.ok none, []⟩
  | (source, strategy) :: rest =>
    match strategy c with
    -- A strategy that fails only declines, and is reported.
    | .error fault => (a.firstAcceptable c rest).after [a.strategyFailed source fault]
    | .ok none => a.firstAcceptable c rest
    | .ok (some result) =>
      match a.validateLatex result.latex with
      | .error fault => ⟨.error fault, []⟩
      | .ok true => ⟨.ok (some result), []⟩
      | .ok false => a.firstAcceptable c rest

/-- What is kept of a formula without a source, with the report on dropped markup. -/
def keptMarkup (a : Adapter) (node : Node) : String × String × List Diagnostic :=
  let markup := node.markup
  match findInjection? markup with
  | none => (markup, "markup", [])
  | some mark =>
    -- The markup carries script, so only its text is kept.
    (encode node.flatText, "escaped-text",
      [.warning ("[" ++ a.name ++ "] Dropped markup of math node carrying '" ++ mark ++
        "'; kept escaped text") none])

/-- The markup of a formula without a source, or its escaped text if the markup carries script. -/
def markupFallback (a : Adapter) (c : Cursor) : Traced LatexResult :=
  match a.overrides.markupFallback with
  | some f => f c
  | none =>
    let (kept, word, reports) := a.keptMarkup c.node
    let trace := reports ++ [.event (Event.latexFallback a.name word c.node.tagName)]
    ⟨(a.isBlockMath c).map fun isBlock => ⟨kept, isBlock, .markup⟩, trace⟩

/-- Recovers the formula at a node; nothing but elements is looked at. -/
def extractLatex (a : Adapter) (c : Cursor) : Traced (Option LatexResult) :=
  match a.overrides.extractLatex with
  | some f => f c
  | none =>
    if c.node.isElement then
      match a.strategies with
      | .error fault => ⟨.error fault, []⟩
      | .ok strategies =>
        let found := a.firstAcceptable c strategies
        match found.outcome with
        | .ok none =>
          let kept := a.markupFallback c
          Traced.after found.trace ⟨kept.outcome.map some, kept.trace⟩
        | _ => found
    else ⟨.ok none, []⟩

end Transcript.Adapter
