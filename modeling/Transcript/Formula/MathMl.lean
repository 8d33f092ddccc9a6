import Transcript.Fault.Basic
import Transcript.Markup.Flatten

/-!
# Formulas from presentation markup

The elements of MathML that chat platforms emit, as LaTeX. Unknown elements contribute their
element children, which keeps the output readable where the mapping loses something. Nesting is
limited.

## Main definitions

- `Shape`: what becomes of an element, by its name
- `convertNode`: the conversion of an element at a given depth
- `latexOfMathMl`: the conversion of a whole formula
-/

namespace Transcript.Formula

open Markup

/-- The deepest nesting by default. -/
def defaultMaxNesting : Nat := 64

/-- What becomes of an element. -/
inductive Shape where
  /-- Its text. -/
  | token
  /-- Nothing. -/
  | ignored
  /-- Its text, marked as such. -/
  | words
  /-- Its first `arity` element children, put into place; nothing if there are fewer. -/
  | scripts (arity : Nat) (place : List String → String)
  /-- All element children, put into place. -/
  | group (place : String → String)

/-- A text as a LaTeX group. -/
def braced (s : String) : String := "\x7b" ++ s ++ "\x7d"

/-- The first, second and third of a list of texts. -/
def nth (parts : List String) (i : Nat) : String := parts.getD i ""

/-- What becomes of an element of this name. -/
def shapeOf (name : String) : Shape :=
  match name with
  | "mi" | "mn" | "mo" | "ms" => .token
  | "annotation" | "annotation-xml" | "mspace" | "none" | "mprescripts" => .ignored
  | "mtext" => .words
  | "msub" => .scripts 2 fun p => braced (nth p 0) ++ "_" ++ braced (nth p 1)
  | "msup" => .scripts 2 fun p => braced (nth p 0) ++ "^" ++ braced (nth p 1)
  | "mfrac" => .scripts 2 fun p => "\\frac" ++ braced (nth p 0) ++ braced (nth p 1)
  | "mroot" => .scripts 2 fun p => "\\sqrt[" ++ nth p 1 ++ "]" ++ braced (nth p 0)
  | "msubsup" =>
    .scripts 3 fun p => braced (nth p 0) ++ "_" ++ braced (nth p 1) ++ "^" ++ braced (nth p 2)
  | "msqrt" => .group fun s => "\\sqrt" ++ braced s
  | _ => .group id

/-- The fault of a formula that is nested too deeply. -/
def nestingFault (limit : Int) : Fault :=
  .of .nesting ("MathML nested deeper than " ++ Number.integerText limit ++ " levels")

/-- How many of the nodes are elements. -/
def elementCount (nodes : List Node) : Nat :=
  (nodes.filter Node.isElement).length

mutual

/-- An element at a depth as LaTeX. -/
def convertNode (limit : Int) (depth : Nat) : Node → Except Fault String
  | .leaf _ _ => if limit < depth then .error (nestingFault limit) else .ok ""
  | .element name attributes children =>
    if limit < depth then .error (nestingFault limit)
    else
      let text := (Node.element name attributes children).flatText
      match shapeOf (Text.lower name) with
      | .token => .ok text
      | .ignored => .ok ""
      | .words => .ok ("\\text" ++ braced text)
      | .scripts arity place =>
        -- An incomplete script is left out, and nothing in it is looked at.
        if elementCount children < arity then .ok ""
        else (convertElements limit (depth + 1) arity children).map place
      | .group place =>
        (convertElements limit (depth + 1) children.length children).map
          fun parts => place (Text.join " " parts)
  | .document children =>
    if limit < depth then .error (nestingFault limit)
    else (convertElements limit (depth + 1) children.length children).map (Text.join " ")

/-- The first `count` elements among siblings, from left to right. -/
def convertElements (limit : Int) (depth : Nat) (count : Nat) :
    List Node → Except Fault (List String)
  | [] => .ok []
  | node :: rest =>
    match count with
    | 0 => .ok []
    | left + 1 =>
      if node.isElement then
        match convertNode limit depth node with
        | .error f => .error f
        | .ok part => (convertElements limit depth left rest).map (part :: ·)
      else convertElements limit depth (left + 1) rest

end

/-- A formula as LaTeX. -/
def latexOfMathMl (limit : Int) (node : Node) : Except Fault String :=
  (convertNode limit 0 node).map Text.trim

end Transcript.Formula
