import Transcript.Conversion.Rendering
import Transcript.Render.Markers

/-!
# Formulas

Rendered formulas are turned back into LaTeX: display formulas between lines of two dollars, inline
formulas between single dollars. A formula whose markup was kept stands as it is, and one that could
not be recovered at all keeps its content.
-/

namespace Transcript.Render

open Markup

/-- LaTeX on its own lines. -/
def displayMath (latex : String) : String :=
  "$$\n" ++ latex ++ "\n$$\n\n"

/-- LaTeX within a line. -/
def inlineMath (latex : String) : String :=
  "$" ++ latex ++ "$"

/-- The name of a node in a warning. -/
def shownName (node : Node) : String :=
  if node.isElement then node.name else "None"

/-- Renders the formula at a node, its LaTeX being put into place by `wrap`. -/
def formula (wrap : String → String) : Replacement := fun scene content => do
  match ← scene.extractLatex scene.node with
  | some result =>
    if result.latex == "" then
      keepContent scene content
    -- Markup that was kept is no LaTeX, and gets no dollars.
    else return if result.isMarkup then result.latex else wrap result.latex
  | none => keepContent scene content
where
  /-- Warns, and keeps the content. -/
  keepContent (scene : Scene) (content : String) : Rendering String := do
    .warning ("Could not extract LaTeX from <" ++ shownName scene.node.node ++
      ">, keeping its content")
    return content

/-- Renders a display formula. -/
def mathBlock : Replacement := formula displayMath

/-- Renders an inline formula. -/
def mathInline : Replacement := formula inlineMath

end Transcript.Render
