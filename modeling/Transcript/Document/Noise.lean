import Transcript.Fault.Basic
import Transcript.Markup.Attributes
import Transcript.Markup.Copy
import Transcript.Markup.Numbered

/-!
# Noise

Saved pages carry buttons, scripts and labels that are no part of the transcript. Noise rules name
them by element name and classes, and say what becomes of them. They are applied one after another
to everything below the root, each of them to the elements that it names at that time; the root
itself stays.

## Main definitions

- `NoiseMode`, `NoiseRule`, `defaultNoise`: what counts as noise, and what becomes of it
- `mergeNoise`: the default rules with changes
- `NoiseRule.clear`: a tree with one rule applied
- `stripNoise`: a tree without noise
-/

namespace Transcript

open Markup

/-- What becomes of a noisy element. -/
inductive NoiseMode where
  /-- Its children take its place. -/
  | unwrap
  /-- It is taken out. -/
  | extract
  /-- It is destroyed. -/
  | decompose
  deriving DecidableEq

namespace NoiseMode

/-- The word for a mode. -/
def word : NoiseMode → String
  | unwrap => "unwrap"
  | extract => "extract"
  | decompose => "decompose"

/-- The mode named by a word. -/
def ofWord? (s : String) : Option NoiseMode :=
  [unwrap, extract, decompose].find? fun m => m.word == s

end NoiseMode

/-- What counts as noise, and what becomes of it. -/
structure NoiseRule where
  /-- The name of the element. -/
  tag : String
  /-- Classes, one of which it carries; no classes for all elements of the name. Truth values stand
  for carrying any class and for carrying none. -/
  classes : List Datum
  /-- What becomes of it. -/
  mode : NoiseMode

/-- The default rules. -/
def defaultNoise : List NoiseRule := [
  ⟨"script", [], .decompose⟩,
  ⟨"style", [], .decompose⟩,
  ⟨"noscript", [], .decompose⟩,
  ⟨"template", [], .decompose⟩,
  ⟨"button", [], .extract⟩,
  ⟨"svg", [], .extract⟩,
  ⟨"span", [.text "sr-only"], .extract⟩,
  ⟨"div", [.text "sr-only"], .extract⟩,
  ⟨"span", [.text "visually-hidden"], .extract⟩]

/-! ## Merging rules -/

/-- Whether two rules name their elements in the same way. -/
def NoiseRule.isAlike (a b : NoiseRule) : Bool :=
  a.tag == b.tag && a.classes.map Datum.literal == b.classes.map Datum.literal

/-- Puts a rule among others; one for the same elements is replaced in its place. -/
def putNoise (rule : NoiseRule) : List NoiseRule → List NoiseRule
  | [] => [rule]
  | other :: rest =>
    if other.isAlike rule then rule :: rest
    else other :: putNoise rule rest

/-- The classes named by a datum: one text, or the items of a list or the keys of a mapping. -/
def noiseClasses : Datum → Except Fault (List Datum)
  | .text s => .ok [.text s]
  | .list items => .ok items
  | .mapping entries => .ok (entries.map fun e => .text e.1)
  | _ => .error { kind := .badType }

/-- The mode named by a datum, if it names one. Lists and mappings are not even looked up. -/
def noiseMode? : Datum → Except Fault (Option NoiseMode)
  | .text s => .ok (NoiseMode.ofWord? s)
  | .list _ | .mapping _ => .error { kind := .badType }
  | _ => .ok none

/-- Whether a list has lists or mappings among its items. -/
def hasNestedItems : Datum → Bool
  | .list items =>
    items.any fun
      | .list _ | .mapping _ => true
      | _ => false
  | _ => false

/-- The rule described by a mapping of mode and classes; an unknown mode describes none. A rule with
lists for classes cannot be filed. -/
def noiseOfEntries? (tag : String) (entries : List (String × Datum)) :
    Except Fault (Option NoiseRule) :=
  let written := (Datum.entry? entries "classes").getD (.list [])
  match noiseClasses written with
  | .error fault => .error fault
  | .ok classes =>
    match noiseMode? ((Datum.entry? entries "mode").getD (.text NoiseMode.extract.word)) with
    | .error fault => .error fault
    | .ok none => .ok none
    | .ok (some mode) =>
      -- Only a rule that would be kept has to be filed.
      if hasNestedItems written then .error { kind := .badType }
      else .ok (some ⟨tag, classes, mode⟩)

/-- The rule described by a change: a mode, or a mapping of mode and classes. Anything else, and an
unknown mode, describes none. -/
def noiseOf? (tag : String) : Datum → Except Fault (Option NoiseRule)
  | .text s => .ok ((NoiseMode.ofWord? s).map fun mode => ⟨tag, [], mode⟩)
  | .mapping entries => noiseOfEntries? tag entries
  | _ => .ok none

/-- Merges changes, given by element name, into rules. -/
def mergeNoiseInto (rules : List NoiseRule) : List (String × Datum) → Except Fault (List NoiseRule)
  | [] => .ok rules
  | (tag, change) :: rest =>
    match noiseOf? tag change with
    | .error fault => .error fault
    | .ok none => mergeNoiseInto rules rest
    | .ok (some rule) => mergeNoiseInto (putNoise rule rules) rest

/-- The default rules with changes. -/
def mergeNoise (changes : List (String × Datum)) : Except Fault (List NoiseRule) :=
  mergeNoiseInto defaultNoise changes

/-! ## Stripping -/

/-- What is asked of the class attribute of an element. -/
inductive ClassTest where
  /-- This class is carried. -/
  | named (name : String)
  /-- The attribute is there. -/
  | present
  /-- The attribute is not there. -/
  | absent
  deriving DecidableEq

namespace ClassTest

/-- The test that a datum stands for, if it stands for one. -/
def ofDatum? : Datum → Option ClassTest
  | .null | .list _ | .mapping _ => none
  | .bool b => some (if b then present else absent)
  | d => some (named d.shown)

/-- Whether a value of the attribute, which may be missing, passes. -/
def passes (value : Option String) : ClassTest → Bool
  | named name => value == some name
  | present => value.isSome
  | absent => value.isNone

end ClassTest

/-- Whether the class attribute of a node passes one of the tests: by one of its classes, or, unless
there is exactly one, by all of them joined by spaces. -/
def carriesClass (node : Node) (tests : List ClassTest) : Bool :=
  let meets (value : Option String) : Bool := tests.any fun test => test.passes value
  match node.attribute? "class" with
  | none | some .bare => meets none
  | some (.text value) => meets (some value)
  | some (.words present) =>
    present.any (fun c => meets (some c)) ||
      (present.length != 1 && meets (some (Text.join " " present)))

/-- Whether a rule names an element. Classes that stand for no test ask for nothing. -/
def NoiseRule.names (rule : NoiseRule) (node : Node) : Bool :=
  let tests := rule.classes.filterMap ClassTest.ofDatum?
  node.isElement && node.name == rule.tag && (tests.isEmpty || carriesClass node tests)

/-- What is left in the place of a noisy element: its children, or nothing. -/
def NoiseMode.leftover : NoiseMode → Numbered → List Numbered
  | unwrap, tree => tree.children
  | extract, _ => []
  | decompose, _ => []

/-- Applies a rule to everything below the root. The elements are looked for before any of them is
touched, so some may be gone when it is their turn. -/
def NoiseRule.clear (tree : Numbered) (rule : NoiseRule) : Numbered :=
  (tree.findBelow rule.names).foldl
    (fun tree number => tree.replaceBelow number rule.mode.leftover) tree

/-- A copy of a tree, without noise. -/
def stripNoise (rules : List NoiseRule) (root : Node) : Node :=
  (rules.foldl NoiseRule.clear root.copy.numbered).node

/-- A copy of a tree without noise, for any node: with any rule to apply, only elements can be asked
for what is below them. -/
def stripNoiseAt (rules : List NoiseRule) (root : Node) : Except Fault Node :=
  if rules.isEmpty || root.isElement then .ok (stripNoise rules root)
  else .error { kind := .missingMember }

end Transcript
