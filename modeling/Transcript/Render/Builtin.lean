import Transcript.Render.Block
import Transcript.Render.Code
import Transcript.Render.Inline
import Transcript.Render.Math
import Transcript.Render.Table
import Transcript.Rule.Table

/-!
# The built-in rules

The rules that every conversion starts from, in groups, and the table they make. Extensions are
registered after them.

## Main definitions

- `builtinGroups`: the built-in rules
- `RuleTable.addBuiltin`: registers them, group by group
- `RuleTable.standard`: the table of the built-in rules
- `RuleTable.extended`: the table with extensions
-/

namespace Transcript

open Markup

namespace Render

/-- A declared rule for the elements with the given names. -/
def onTags (name : String) (priority : Int) (tags : List String) (replacement : Replacement) :
    Declared :=
  ⟨name, ⟨.tags (sortedNames tags), .int priority, some name⟩, replacement⟩

/-- A declared rule for the nodes that satisfy a test. -/
def onTest (name : String) (priority : Int) (testName : String) (test : Cursor → Bool)
    (replacement : Replacement) : Declared :=
  ⟨name, ⟨.predicate ⟨testName, fun c => .ok (test c)⟩, .int priority, some name⟩, replacement⟩

/-- Rules for formulas. -/
def mathRules : List Declared := [
  onTest "math-block" 1 "is_display_math" isDisplayMath mathBlock,
  onTest "math-inline" 2 "is_inline_math" isInlineMath mathInline]

/-- Rules for code. -/
def codeRules : List Declared := [
  onTest "code-block" 3 "is_code_block" isCodeBlock codeBlock,
  onTest "code-inline" 9 "is_inline_code" isInlineCode codeInline]

/-- Rules for tables. -/
def tableRules : List Declared := [
  onTags "table" 4 ["table"] table]

/-- Rules for blocks. -/
def blockRules : List Declared := [
  onTags "heading" 5 ["h1", "h2", "h3", "h4", "h5", "h6"] heading,
  onTags "list" 6 ["ul", "ol"] list,
  onTags "blockquote" 6 ["blockquote"] blockquote,
  onTags "paragraph" 10 ["p"] paragraph,
  onTags "horizontal-rule" 11 ["hr"] horizontalRule]

/-- Rules for inline formatting. -/
def inlineRules : List Declared := [
  onTags "strong" 7 ["strong", "b"] strong,
  onTags "emphasis" 8 ["em", "i"] emphasis,
  onTags "link" 10 ["a"] link,
  onTags "image" 11 ["img"] image,
  onTags "line-break" 12 ["br"] lineBreak]

/-- The built-in rules, group by group. -/
def builtinGroups : List (List Declared) :=
  [mathRules, codeRules, tableRules, blockRules, inlineRules]

end Render

namespace RuleTable

/-- Registers groups of declared rules one after another, up to the first rule that does not fit. -/
def collectAll (t : RuleTable) : List (List Declared) → RuleTable × Option Fault
  | [] => (t, none)
  | group :: rest =>
    match t.collect group with
    -- The rules added before the fault stay.
    | (t, some fault) => (t, some fault)
    | (t, none) => t.collectAll rest

/-- Registers the built-in rules. -/
def addBuiltin (t : RuleTable) : RuleTable × Option Fault :=
  t.collectAll Render.builtinGroups

/-- The table of the built-in rules. -/
def standard : RuleTable :=
  (addBuiltin {}).1

/-- Something that adds rules to the built-in ones. -/
inductive Extension where
  /-- One declared rule. -/
  | rule (d : Declared)
  /-- A group of them. -/
  | group (declared : List Declared)

/-- Registers extensions one after another, up to the first that does not fit. -/
def extendAll (t : RuleTable) : List Extension → Except Fault RuleTable
  | [] => .ok t
  | .rule d :: rest =>
    match t.register d with
    | .error fault => .error fault
    | .ok t => t.extendAll rest
  | .group declared :: rest =>
    match t.collect declared with
    | (_, some fault) => .error fault
    | (t, none) => t.extendAll rest

/-- The table of the built-in rules and of extensions. -/
def extended (extensions : List Extension) : Except Fault RuleTable :=
  standard.extendAll extensions

end RuleTable

end Transcript
