import Transcript.Markup.Flatten
import Transcript.Platform.Adapter

/-!
# The language of a code block

The language is looked for on the code element and on its wrappers: first in their classes, then in
their attributes; and at last in a label inside a container of the block.

## Main definitions

- `Adapter.codeWrappers`: the wrappers of a code element
- `languageOfLabel`: the language named by a label
- `Adapter.codeLanguage`: the language of a code element
-/

namespace Transcript

open Markup

/-- Beginnings of classes that name a language. -/
def languageClassStarts : List String := ["language-", "lang-"]

/-- Attributes that name a language. -/
def languageAttributes : List String := ["data-language", "data-lang", "data-code-language"]

/-- The language named by a class. -/
def languageOfClass? (name : String) : Option String :=
  languageClassStarts.findSome? fun start =>
    match Text.dropStart? start name with
    | some rest => if rest == "" then none else some rest
    | none => none

/-- The language named by the classes of an element; empty if there is none. -/
def languageOfClasses (node : Node) : String :=
  (node.classes.findSome? languageOfClass?).getD ""

/-- The characters of language names on labels. -/
def isLanguageChar (c : Char) : Bool :=
  c.isAlphanum || c = '_' || c = '+' || c = '-' || c = '#' || c = '.'

/-- Labels as long as this name no language. -/
def maxLanguageLabel : Nat := 20

/-- The language named by a label: a single short word, in lower case; empty if it is none. -/
def languageOfLabel (text : String) : String :=
  let label := Text.trim text
  if label == "" || maxLanguageLabel ≤ label.length then ""
  else if label.toList.all isLanguageChar then Text.lower label
  else ""

namespace Adapter

/-- Adds the closest element for each selector, unless it is the code itself or is there already. -/
def wrappersFrom (code : Cursor) (found : List Cursor) : List String → Except Fault (List Cursor)
  | [] => .ok found
  | selector :: rest =>
    match code.closestText? selector with
    | .error f => .error f
    | .ok none => wrappersFrom code found rest
    | .ok (some wrapper) =>
      if wrapper.isSame code || found.any wrapper.isSame then wrappersFrom code found rest
      else wrappersFrom code (found ++ [wrapper]) rest

/-- The wrappers of a code element, in the order of the selectors that find them. -/
def codeWrappers (a : Adapter) (code : Cursor) : Except Fault (List Cursor) :=
  match a.overrides.codeWrappers with
  | some f => f code
  | none => wrappersFrom code [] a.profile.codeWrapperSelectors

/-- The language named by a label in a container of the code; empty if there is none. -/
def labelLanguage (code : Cursor) : List (String × String) → Except Fault String
  | [] => .ok ""
  | (container, label) :: rest =>
    match code.closestText? container with
    | .error f => .error f
    | .ok none => labelLanguage code rest
    | .ok (some container) =>
      match container.selectOneText? label with
      | .error f => .error f
      | .ok found =>
        let language :=
          match found with
          | none => ""
          | some label => languageOfLabel label.node.flatText
        if language == "" then labelLanguage code rest else .ok language

/-- The language named by the attributes of an element; empty if there is none. -/
def languageOfAttributes (node : Node) : String :=
  match (languageAttributes.map node.trimmedAttribute).find? fun value => value != "" with
  | some value => Text.lower value
  | none => ""

/-- The first text that is not empty. -/
def firstNonEmpty (texts : List String) : String :=
  (texts.find? fun s => s != "").getD ""

/-- The language of a code element; empty if none is found. -/
def codeLanguage (a : Adapter) (code : Cursor) : Except Fault String :=
  match a.overrides.codeLanguage with
  | some f => f code
  | none =>
    match a.codeWrappers code with
    | .error f => .error f
    | .ok wrappers =>
      if !code.node.isElement then .error Cursor.notAnElement
      else
        let candidates := (code :: wrappers).map Cursor.node
        -- Classes of all candidates come before any attribute.
        let named :=
          firstNonEmpty (candidates.map languageOfClasses ++ candidates.map languageOfAttributes)
        if named == "" then labelLanguage code a.profile.codeLabelSelectors else .ok named

end Adapter

end Transcript
