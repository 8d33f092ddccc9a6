import Transcript.Conversion.Rendering
import Transcript.Rule.Filter

/-!
# Rules

A rule renders the nodes that its filter accepts. Rules are made from drafts, in which parts may not
fit; a declaration is a rule without its replacement, which is bound to it later.

## Main definitions

- `Rule`
- `RuleDraft.rule`: a rule from a draft
- `Declaration`, `Declared.rule`: a rule from a declaration and a replacement
-/

namespace Transcript

open Markup

/-- A rule. -/
structure Rule where
  /-- The name. -/
  name : String
  /-- Rules of lower priority number come first. -/
  priority : Int
  /-- The nodes it applies to. -/
  filter : RuleFilter
  /-- How it renders them. -/
  replacement : Replacement

/-- The fault of a malformed rule. -/
def invalidRule (message : String) : Fault :=
  .of .invalidRule message

/-- What a rule is made from. -/
structure RuleDraft where
  /-- The name, which must not be empty. -/
  name : String
  /-- The priority, which must be a whole number. -/
  priority : Datum
  /-- The filter, read or still as it is written. -/
  filter : RuleFilter ⊕ FilterSpec
  /-- The replacement, which must not be missing. -/
  replacement : Option Replacement

/-- The rule that a draft describes. The name is looked at first, then the priority, the replacement
and the filter. -/
def RuleDraft.rule (d : RuleDraft) : Except Fault Rule :=
  if d.name == "" then .error (invalidRule "Rules must be named")
  else
    match d.priority with
    | .int priority =>
      match d.replacement with
      | none => .error (invalidRule ("Rule '" ++ d.name ++ "' has no callable replacement"))
      | some replacement =>
        match d.filter with
        | .inl filter => .ok ⟨d.name, priority, filter, replacement⟩
        -- A filter still as it is written is read last.
        | .inr spec => spec.filter.map fun filter => ⟨d.name, priority, filter, replacement⟩
    | other =>
      .error (invalidRule ("Rule '" ++ d.name ++ "' must declare an integer priority, got " ++
        other.literal))

/-- A rule without its replacement. -/
structure Declaration where
  /-- The filter. -/
  filter : RuleFilter
  /-- The priority. -/
  priority : Datum
  /-- The name of the rule; if it is missing or empty, the replacement's own name is taken. -/
  name : Option String := none

/-- A named replacement with the declaration it carries. -/
structure Declared where
  /-- The replacement's own name. -/
  ownName : String
  /-- The declaration. -/
  declaration : Declaration
  /-- The replacement. -/
  replacement : Replacement

/-- The rule that a declaration describes. -/
def Declared.rule (d : Declared) : Except Fault Rule :=
  let given := d.declaration.name.getD ""
  RuleDraft.rule
    { name := if given == "" then d.ownName else given
      priority := d.declaration.priority
      filter := .inl d.declaration.filter
      replacement := some d.replacement }

end Transcript
