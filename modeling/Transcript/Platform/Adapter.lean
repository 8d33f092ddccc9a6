import Transcript.Diagnostic.Event
import Transcript.Formula.Injection
import Transcript.Markup.Attributes
import Transcript.Markup.Query

/-!
# Platform adapters

Chat platforms render formulas and code each in their own way. An adapter hides the differences
behind one interface: it finds the source of a formula and the language of a code block, tells
display formulas from inline ones, cleans the finished document, and scores how well it fits a
page.

An adapter is a *profile*, the data in which platforms differ, together with *overrides*, methods
that replace the ones computed from the profile. A method may fail.

## Main definitions

- `LatexSource`, `LatexResult`: a recovered formula and where it came from
- `Traced`: a result together with what was reported on the way
- `Profile`, `Overrides`, `Adapter`
-/

namespace Transcript

open Markup

/-- Where the source of a formula came from. -/
inductive LatexSource where
  /-- An annotation holding it. -/
  | annotated
  /-- An attribute holding it. -/
  | attr
  /-- A placeholder for a formula that could not be rendered. -/
  | katexError
  /-- Presentation markup. -/
  | mathMl
  /-- The flattened text. -/
  | text
  /-- None of these: the markup itself was kept. -/
  | markup
  deriving DecidableEq, Inhabited

/-- The word for a source. -/
def LatexSource.word : LatexSource → String
  | annotated => "annotation"
  | attr => "attribute"
  | katexError => "katex-error"
  | mathMl => "mathml"
  | text => "text"
  | markup => "markup"

/-- A recovered formula. -/
structure LatexResult where
  /-- The LaTeX, or the markup that was kept. -/
  latex : String
  /-- Whether the formula stands on its own. -/
  isBlock : Bool
  /-- Where it came from. -/
  source : LatexSource
  deriving DecidableEq, Inhabited

namespace LatexResult

/-- Whether no source was found and the markup was kept. -/
def isMarkup (r : LatexResult) : Bool :=
  r.source == .markup

end LatexResult

/-- A result, or a fault, together with what was reported on the way. -/
structure Traced (α : Type) where
  /-- The result. -/
  outcome : Except Fault α
  /-- What was reported, in order. -/
  trace : List Diagnostic := []

namespace Traced

/-- A result without reports. -/
def ofExcept {α : Type} (outcome : Except Fault α) : Traced α :=
  ⟨outcome, []⟩

/-- Puts reports in front. -/
def after {α : Type} (trace : List Diagnostic) (t : Traced α) : Traced α :=
  ⟨t.outcome, trace ++ t.trace⟩

end Traced

/-- A way to find the source of a formula; `none` where it has nothing to offer. -/
abbrev LatexStrategy := Cursor → Except Fault (Option LatexResult)

/-- The data in which platforms differ. -/
structure Profile where
  /-- The name of the platform. -/
  name : String := "Generic"
  /-- Hosts whose pages come from it. -/
  hostnames : List String := []
  /-- The longest formula accepted. -/
  maxLatexLength : Nat := Formula.defaultMaxLength
  /-- Selects the formulas of a page. -/
  mathSelector : String := ".katex, .katex-display"
  /-- Selects the code blocks of a page. -/
  codeSelector : String := "pre > code"
  /-- Classes of display formulas. -/
  displayClasses : List String := ["katex-display"]
  /-- Selects what marks a display formula from the inside, if anything does. -/
  innerDisplay : Option String := none
  /-- Attributes that hold the source of a formula, the preferred one first. -/
  latexAttributes : List String := ["data-latex-source", "data-math"]
  /-- Selects the rendered glyphs, where the text of a formula would double them. -/
  glyphSelector : Option String := none
  /-- Selects the wrappers of code, each kind by itself. -/
  codeWrapperSelectors : List String := ["pre", ".code-block"]
  /-- Selects containers of code together with the language labels inside them. -/
  codeLabelSelectors : List (String × String) := []
  /-- Signs of the platform with their weights. -/
  signals : List (String × Number.Amount) := []
  /-- Whether spacing is normalised in finished documents. -/
  normalizesSpacing : Bool := false

/-- Methods that replace the ones computed from a profile. -/
structure Overrides where
  /-- Selecting formulas. -/
  selectMath : Option (Cursor → Except Fault (List Cursor)) := none
  /-- Selecting code blocks. -/
  selectCode : Option (Cursor → Except Fault (List Cursor)) := none
  /-- A single strategy. -/
  strategy : LatexSource → Option LatexStrategy := fun _ => none
  /-- The list of strategies. -/
  strategies : Option (Except Fault (List (LatexSource × LatexStrategy))) := none
  /-- Recovering a formula. -/
  extractLatex : Option (Cursor → Traced (Option LatexResult)) := none
  /-- Accepting a candidate. -/
  validateLatex : Option (String → Except Fault Bool) := none
  /-- Choosing the element whose text stands for a formula. -/
  textSource : Option (Cursor → Except Fault Cursor) := none
  /-- Keeping the markup. -/
  markupFallback : Option (Cursor → Traced LatexResult) := none
  /-- Telling display formulas. -/
  isBlockMath : Option (Cursor → Except Fault Bool) := none
  /-- Finding the wrappers of code. -/
  codeWrappers : Option (Cursor → Except Fault (List Cursor)) := none
  /-- Finding the language of code. -/
  codeLanguage : Option (Cursor → Except Fault String) := none
  /-- Cleaning a finished document. -/
  cleanText : Option (String → Except Fault String) := none
  /-- Scoring a page. -/
  canHandle : Option (Cursor → Except Fault Number.Amount) := none

/-- A platform adapter. -/
structure Adapter where
  /-- The data of the platform. -/
  profile : Profile
  /-- The methods it replaces. -/
  overrides : Overrides := {}

namespace Adapter

/-- The name of the platform. -/
def name (a : Adapter) : String := a.profile.name

/-! ## Selecting nodes -/

/-- The formulas of a page. -/
def selectMath (a : Adapter) (c : Cursor) : Except Fault (List Cursor) :=
  match a.overrides.selectMath with
  | some f => f c
  | none => c.selectText a.profile.mathSelector

/-- The code blocks of a page. -/
def selectCode (a : Adapter) (c : Cursor) : Except Fault (List Cursor) :=
  match a.overrides.selectCode with
  | some f => f c
  | none => c.selectText a.profile.codeSelector

/-! ## Display formulas -/

/-- Whether the node, or an element above it, is marked as a display formula. -/
def isMarkedDisplay (a : Adapter) (c : Cursor) : Bool :=
  c.node.hasClass a.profile.displayClasses ||
    (c.findAncestor? fun x => x.node.hasClass a.profile.displayClasses).isSome

/-- Whether a formula stands on its own. -/
def isBlockMath (a : Adapter) (c : Cursor) : Except Fault Bool :=
  match a.overrides.isBlockMath with
  | some f => f c
  | none =>
    if a.isMarkedDisplay c then .ok true
    else
      -- Nothing above marks the formula; something inside it may.
      match a.profile.innerDisplay with
      | none => .ok false
      | some selector => (c.findText? selector).map Option.isSome

/-! ## Finished documents -/

/-- Space characters other than the plain one. -/
def isSpaceVariant (c : Char) : Bool :=
  let n := c.toNat
  n == 0xA0 || (0x2000 ≤ n && n ≤ 0x200A) || n == 0x202F || n == 0x205F || n == 0x3000

/-- Characters that take no room. -/
def isZeroWidth (c : Char) : Bool :=
  let n := c.toNat
  (0x200B ≤ n && n ≤ 0x200D) || n == 0xFEFF

/-- Normalises spacing: plain spaces for the variants, no zero-width characters, line feeds for
carriage returns with line feeds, and no blanks around the text. -/
def normalizeSpacing (s : List Char) : List Char :=
  Chars.trim (Chars.joinCrLf
    ((s.map fun c => if isSpaceVariant c then ' ' else c).filter fun c => !isZeroWidth c))

/-- The finished document. -/
def cleanText (a : Adapter) (s : String) : Except Fault String :=
  match a.overrides.cleanText with
  | some f => f s
  | none => .ok (if a.profile.normalizesSpacing then Text.onChars normalizeSpacing s else s)

/-! ## Fit with a page -/

/-- The sum so far together with the weights of the signs found in a page, one after another. -/
def weightFrom (c : Cursor) (sum : Number.Amount) :
    List (String × Number.Amount) → Except Fault Number.Amount
  | [] => .ok sum
  | (selector, weight) :: rest =>
    match c.selectOneText? selector with
    | .error f => .error f
    | .ok none => weightFrom c sum rest
    | .ok (some _) =>
      match sum.add? weight with
      | none => .error Event.tooLarge
      | some sum => weightFrom c sum rest

/-- The score of a sum of weights: the sum to four places, and no more than one. -/
def scoreOf (sum : Number.Amount) : Number.Amount :=
  (sum.rounded 4).atMost .one

/-- The score of a page without any sign. -/
def noScore : Number.Amount := .measured (.finite 0)

/-- How well the adapter fits a page; nothing but elements is scored. -/
def canHandle (a : Adapter) (c : Cursor) : Except Fault Number.Amount :=
  match a.overrides.canHandle with
  | some f => f c
  | none =>
    if c.node.isElement then (weightFrom c .zero a.profile.signals).map scoreOf else .ok noScore

end Adapter

end Transcript
