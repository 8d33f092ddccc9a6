import Transcript.Datum
import Transcript.Markup.Attributes
import Transcript.Text.Utf8

/-!
# Values offered as attributes

Whatever is offered as the value of an attribute is read leniently: a text is taken as it is, a list
or a mapping gives its texts, bytes are decoded, and anything else is no value.

## Main definitions

- `RawValue`: what is offered
- `RawValue.text?`, `RawValue.classes`: how it is read
-/

namespace Transcript.Markup

/-- What is offered as the value of an attribute. -/
inductive RawValue where
  /-- A datum. -/
  | datum (d : Datum)
  /-- Bytes. -/
  | bytes (content : List Nat)

namespace RawValue

/-- The texts among the items of a list. -/
def textsOf (items : List Datum) : List String :=
  items.filterMap fun
    | .text s => some s
    | _ => none

/-- The value that a datum makes: a list gives its texts, and a mapping its keys. -/
def valueOf : Datum → AttrValue
  | .text s => .text s
  | .list items => .words (textsOf items)
  | .mapping entries => .words (entries.map Prod.fst)
  | _ => .bare

/-- The offered value as one text. -/
def text? : RawValue → Option String
  | .datum d => (valueOf d).text?
  | .bytes content => (Utf8.decode content).toOption

/-- The classes listed by the offered value; bytes list none. -/
def classes : RawValue → List String
  | .datum d => (valueOf d).classes
  | .bytes _ => []

end RawValue

end Transcript.Markup
