import Transcript.Markup.Query

/-!
# Rule filters

A rule names the nodes it applies to in one of three ways: by a selector, by a set of element names,
or by a predicate. Only predicates ever see anything but elements inside a page.

## Main definitions

- `FilterSpec`, `FilterSpec.filter`: a filter as it is written, and how it is read
- `RuleFilter`: a filter
- `RuleFilter.accepts`: whether a node satisfies a filter
- `RuleFilter.overlaps`: whether two filters provably share a node
-/

namespace Transcript

open Markup

/-- A named test on nodes, which may fail. -/
structure NodePredicate where
  /-- The name. -/
  name : String
  /-- The test. -/
  test : Cursor → Except Fault Bool

/-- A filter. -/
inductive RuleFilter where
  /-- The elements that match a written selector. -/
  | selector (text : String)
  /-- The elements with one of these lower-case names; the names are sorted and distinct. -/
  | tags (names : List String)
  /-- The nodes that satisfy a predicate. -/
  | predicate (p : NodePredicate)

/-- A filter as it is written. -/
inductive FilterSpec where
  /-- A text is a selector, and a list or a mapping holds element names. -/
  | written (d : Datum)
  /-- A predicate. -/
  | predicate (p : NodePredicate)

/-- Puts a name into a sorted list, unless it is there already. -/
def insertName (name : String) : List String → List String
  | [] => [name]
  | other :: rest =>
    if name = other then other :: rest
    else if name < other then name :: other :: rest
    else other :: insertName name rest

/-- The names of a list, sorted and distinct. -/
def sortedNames (names : List String) : List String :=
  names.foldr insertName []

namespace FilterSpec

/-- A filter by element names, which are trimmed and lower-cased. -/
def byNames (names : List String) : Except Fault RuleFilter :=
  let names := names.map fun name => Text.lower (Text.trim name)
  -- One empty name spoils the filter.
  if names.isEmpty || names.contains "" then
    .error (.of .invalidRule "Tag filters need at least one non-empty tag name")
  else .ok (.tags (sortedNames names))

/-- Reads a filter as it is written. -/
def filter : FilterSpec → Except Fault RuleFilter
  | predicate p => .ok (.predicate p)
  | written (.text s) =>
    let selector := Text.trim s
    if selector == "" then .error (.of .invalidRule "Selector filters cannot be empty")
    else .ok (.selector selector)
  | written (.list items) => byNames (items.map Datum.shown)
  | written (.mapping entries) => byNames (entries.map Prod.fst)
  | written d => .error (.of .invalidRule ("Unsupported rule filter: " ++ d.literal))

end FilterSpec

namespace RuleFilter

/-- The word for the way in which a filter names nodes. -/
def kindWord : RuleFilter → String
  | selector _ => "selector"
  | tags _ => "tags"
  | predicate _ => "predicate"

/-- The element names of a filter by names. -/
def names : RuleFilter → List String
  | tags names => names
  | _ => []

/-- Whether a node satisfies a filter. Selectors and names apply to elements other than the root of
a page. -/
def accepts (f : RuleFilter) (c : Cursor) : Except Fault Bool :=
  match f with
  | predicate p => p.test c
  | tags names =>
    .ok (c.node.isElement && c.node.name != documentName && names.contains c.node.tagName)
  | selector text =>
    if c.node.isElement && c.node.name != documentName then c.matchesText text else .ok false

/-- Whether two filters provably share a node: equal selectors do, and so do sets of names with a
name in common. -/
def overlaps : RuleFilter → RuleFilter → Bool
  | selector a, selector b => a == b
  | tags a, tags b => a.any b.contains
  | _, _ => false

/-- Whether two filters are the same, predicates being taken for equal. -/
def isSame : RuleFilter → RuleFilter → Bool
  | selector a, selector b => a == b
  | tags a, tags b => a == b
  | predicate _, predicate _ => true
  | _, _ => false

/-- A short description. -/
def description : RuleFilter → String
  | selector text => text
  | tags names => Text.join ", " names
  | predicate p => "<" ++ p.name ++ ">"

end RuleFilter

end Transcript
