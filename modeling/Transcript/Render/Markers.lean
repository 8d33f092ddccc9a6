import Transcript.Markup.Attributes
import Transcript.Markup.Cursor

/-!
# Markers

The classes and attributes by which rendered formulas and code blocks are known. Only the outermost
element with a marker is rendered as a formula, and code inside a wrapper belongs to the wrapper.
-/

namespace Transcript.Render

open Markup

/-- Classes of rendered formulas. -/
def mathClasses : List String := ["katex", "katex-display", "math-block", "math-inline"]

/-- Classes of display formulas. -/
def displayMathClasses : List String := ["katex-display", "math-block"]

/-- Classes of inline formulas, as long as they are not display formulas too. -/
def inlineMathClasses : List String := ["katex", "math-inline"]

/-- Classes of wrappers of code. -/
def codeWrapperClasses : List String := ["code-block", "md-code-block"]

/-- Whether an element is marked as a rendered formula. -/
def isMathMarker (node : Node) : Bool :=
  node.hasClass mathClasses || node.hasAttribute "data-math"

/-- Whether an element above is marked as a rendered formula. -/
def insideMath (c : Cursor) : Bool :=
  (c.findAncestor? fun a => isMathMarker a.node).isSome

/-- Whether an element wraps code. -/
def isCodeWrapper (node : Node) : Bool :=
  node.tagName == "pre" || node.hasClass codeWrapperClasses

/-- Whether an element above wraps code. -/
def insideCodeWrapper (c : Cursor) : Bool :=
  (c.findAncestor? fun a => isCodeWrapper a.node).isSome

/-- The outermost element of a display formula. -/
def isDisplayMath (c : Cursor) : Bool :=
  c.node.hasClass displayMathClasses && !insideMath c

/-- The outermost element of an inline formula. -/
def isInlineMath (c : Cursor) : Bool :=
  !c.node.hasClass displayMathClasses && c.node.hasClass inlineMathClasses && !insideMath c

/-- Preformatted text with code inside, or a wrapper with code or preformatted text inside. -/
def isCodeBlock (c : Cursor) : Bool :=
  -- Preformatted text without code inside is no code block.
  if c.node.tagName == "pre" then (c.find? ["code"]).isSome
  else c.node.hasClass codeWrapperClasses && (c.find? ["code", "pre"]).isSome

/-- Code outside any wrapper. -/
def isInlineCode (c : Cursor) : Bool :=
  c.node.tagName == "code" && !insideCodeWrapper c

end Transcript.Render
