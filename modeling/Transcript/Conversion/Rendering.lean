import Transcript.Options.Basic
import Transcript.Platform.Extraction
import Transcript.Platform.Language

/-!
# Renderings

What a rule does to render a node, written as a program in a small language: it may fail, report
something, warn, have a node converted, and build a fresh tree. A program takes finitely many steps
on every run, since it is a well-founded tree that branches over the texts it is given.

## Main definitions

- `Rendering`: the programs, a monad
- `Scene`: what a rule sees of the conversion
- `Rendering.convertedChildren`, `Scene.extractLatex`, `Scene.codeLanguage`: what rules ask for
-/

namespace Transcript

open Markup

/-- A program that renders a node. -/
inductive Rendering (α : Type) where
  /-- The end, with a result. -/
  | done (value : α)
  /-- The end, with a fault. -/
  | raise (fault : Fault)
  /-- Reports something. -/
  | report (diagnostic : Diagnostic) (next : Rendering α)
  /-- Warns; the warning is kept with the result of the conversion. -/
  | warn (message : String) (next : Rendering α)
  /-- Has a node converted, one level deeper. -/
  | process (node : Option Cursor) (next : String → Rendering α)
  /-- Builds a fresh tree. -/
  | plant (tree : Node) (next : Cursor → Rendering α)

namespace Rendering

variable {α β : Type}

/-- Runs a program, and goes on with its result. -/
def andThen : Rendering α → (α → Rendering β) → Rendering β
  | done value, f => f value
  | raise fault, _ => raise fault
  | report diagnostic next, f => report diagnostic (next.andThen f)
  | warn message next, f => warn message (next.andThen f)
  | process node next, f => process node fun text => (next text).andThen f
  | plant tree next, f => plant tree fun root => (next root).andThen f

instance : Monad Rendering where
  pure := done
  bind := andThen

/-- The outcome of a computation that may fail. -/
def ofExcept : Except Fault α → Rendering α
  | .ok value => done value
  | .error fault => raise fault

/-- Reports what a computation reported, and goes on with its outcome. -/
def ofTraced (t : Traced α) : Rendering α :=
  t.trace.foldr report (ofExcept t.outcome)

/-- Warns. -/
def warning (message : String) : Rendering Unit :=
  warn message (done ())

/-- Has a node converted. -/
def converted (node : Option Cursor) : Rendering String :=
  process node done

/-- Has several nodes converted, and joins the results. -/
def convertedAll : List Cursor → Rendering String
  | [] => done ""
  | c :: rest =>
    -- The nodes are converted from left to right.
    process (some c) fun first => (convertedAll rest).andThen fun others => done (first ++ others)

/-- Has the children of a node converted, and joins the results. -/
def convertedChildren (c : Cursor) : Rendering String :=
  convertedAll c.children

/-- A fresh tree. -/
def planted (tree : Node) : Rendering Cursor :=
  plant tree done

end Rendering

/-- What a rule sees of the conversion. -/
structure Scene where
  /-- The node to render. -/
  node : Cursor
  /-- Its depth. -/
  depth : Nat
  /-- The adapter of the platform. -/
  adapter : Adapter
  /-- The options. -/
  options : Options

namespace Scene

/-- Recovers the formula at a node. -/
def extractLatex (s : Scene) (c : Cursor) : Rendering (Option LatexResult) :=
  Rendering.ofTraced (s.adapter.extractLatex c)

/-- The language of a code element. -/
def codeLanguage (s : Scene) (c : Cursor) : Rendering String :=
  Rendering.ofExcept (s.adapter.codeLanguage c)

end Scene

/-- How a rule renders a node, given the text of its children. -/
abbrev Replacement := Scene → String → Rendering String

end Transcript
