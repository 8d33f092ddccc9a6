import Transcript.Fault.Basic
import Transcript.Preview.ExtensionTable
import Transcript.Preview.ModuleTable
import Transcript.Text.Case
import Transcript.Text.Search

/-!
# Extensions of previews

A preview is made with extensions that its caller names, in order, each with options of its own. An
extension goes by the name of its module, behind which the member that makes it may stand; those of
the standard family also have a short name.

## Main definitions

- `ActiveExtension`: an extension with its options
- `Refusal`: why an extension is refused, with `Refusal.message`
- `ActiveExtension.ofName`: the extension of a name
-/

namespace Transcript.Preview

/-- An extension with its options. -/
structure ActiveExtension where
  /-- The extension. -/
  extension : Extension
  /-- The options that it has been given. -/
  options : List (String × Datum)

/-- Why an extension is refused. -/
inductive Refusal where
  /-- Its name is empty. -/
  | emptyName
  /-- Its name starts at no module. -/
  | relativeName (name : String)
  /-- There is no such module. -/
  | missing (name : String)
  /-- Its module would be part of a module that has no parts. -/
  | partless (name whole : String)
  /-- Its module makes no extension. -/
  | noExtension (name loaded : String)
  /-- Its module has no such member. -/
  | noMember (loaded member : String)
  /-- It takes no such option. -/
  | unknownOption (key : String)
  /-- An option has to be a truth value. -/
  | noFlag (value : String)
  /-- An option has to be a whole number. -/
  | noNumber (value : String)

/-- The complaint about a member that a module does not have. -/
def memberComplaint (loaded member : String) : String :=
  "module '" ++ loaded ++ "' has no attribute '" ++ member ++ "'"

/-- The text of a refusal. -/
def Refusal.message : Refusal → String
  | emptyName => "Empty module name"
  | relativeName name =>
    "the 'package' argument is required to perform a relative import for " ++ Text.quoted name
  | missing name => "No module named " ++ Text.quoted name
  | partless name whole =>
    "No module named " ++ Text.quoted name ++ "; " ++ Text.quoted whole ++ " is not a package"
  | noExtension name loaded =>
    "Failed to initiate extension '" ++ name ++ "': " ++ memberComplaint loaded "makeExtension"
  | noMember loaded member => memberComplaint loaded member
  | unknownOption key => Text.quoted key
  | noFlag value => "Cannot parse bool value: " ++ Text.quoted value
  | noNumber value => "invalid literal for int() with base 10: " ++ Text.quoted value

/-! ## Modules -/

namespace Extension

/-- The module of an extension. -/
def path (e : Extension) : String :=
  match e.family with
  | .standard => "markdown.extensions." ++ e.name
  | .further => "pymdownx." ++ e.name

/-- All extensions. -/
def all : List Extension := standardExtensions ++ furtherExtensions

end Extension

/-- Whether a name is the name of a module that has parts. -/
def hasParts (name : String) : Bool :=
  packages.any fun (whole, _) => whole == name

/-- Whether a name is the name of a module. -/
def isModule (name : String) : Bool :=
  plainModules.contains name || hasParts name ||
    (packages.any fun (whole, parts) => parts.any fun part => whole ++ "." ++ part == name) ||
    Extension.all.any fun e => e.path == name

/-- Finds the first part of a dotted name that is missing, if there is one. `found` is what has been
found in front of the remaining parts. -/
def firstMissing? (found : String) : List String → Option Refusal
  | [] => none
  | part :: rest =>
    let name := if found == "" then part else found ++ "." ++ part
    if isModule name then firstMissing? name rest
    else if found == "" || hasParts found then some (.missing name)
    else some (.partless name found)

/-- Finds what keeps a module from being loaded. -/
def loadRefusal? (name : String) : Option Refusal :=
  if name == "" then some .emptyName
  else if Text.startsWith "." name then some (.relativeName name)
  else
    match Text.splitAt '.' name with
    | [] => some .emptyName
    -- Nothing has been found in front of the first part, not even if it is empty.
    | first :: rest => if isModule first then firstMissing? first rest else some (.missing first)

/-- The name that a loaded module goes by. -/
def loadedName (name : String) : String := (loadedNames.lookup name).getD name

/-- The extension that a name stands for. -/
def extensionOf (name : String) : Except Refusal Extension :=
  match standardExtensions.find? fun e => e.name == name with
  | some e => .ok e
  | none =>
    let parts := Text.splitAt ':' name
    let path := parts.headD ""
    -- Only the first colon separates.
    let member := Text.join ":" parts.tail
    match loadRefusal? path, Extension.all.find? fun e => e.path == path with
    | some refusal, _ => .error refusal
    | none, some e =>
      if member == "" || member == e.maker then .ok e else .error (.noMember path member)
    | none, none =>
      .error (if member == "" then .noExtension path (loadedName path)
        else .noMember (loadedName path) member)

/-! ## Options -/

/-- Words for true. -/
def trueWords : List String := ["true", "yes", "y", "on", "1"]

/-- Words for false. -/
def falseWords : List String := ["false", "no", "n", "off", "0", "none"]

/-- The truth value that a word stands for. -/
def flagOfWord? (word : String) : Option Bool :=
  let word := Text.lower word
  if trueWords.contains word then some true
  else if falseWords.contains word then some false
  else none

/-- The truth value that an option is. -/
def flagOf : Datum → Except Refusal Bool
  | .text word => (flagOfWord? word).elim (.error (.noFlag word)) .ok
  | d => .ok d.isGiven

/-- The value of an option that an extension is given. -/
def Extension.option (e : Extension) (key : String) (value : Datum) : Except Refusal Datum :=
  let isNothing :=
    match value with
    | .null => true
    | .text word => Text.lower word == "none"
    | _ => false
  if e.lenientFlags.contains key && isNothing then .ok .null
  else if e.flags.contains key || e.lenientFlags.contains key then (flagOf value).map .bool
  else if e.others.contains key || e.isOpen then .ok value
  else .error (.unknownOption key)

/-- The extension of a name, with the options it is given. -/
def ActiveExtension.ofName (name : String) (options : List (String × Datum)) :
    Except Refusal ActiveExtension := do
  let e ← extensionOf name
  let read ← options.mapM fun (key, value) => do return (key, ← e.option key value)
  return ⟨e, read⟩

namespace ActiveExtension

/-- An option of an extension, if it has been given. -/
def option? (a : ActiveExtension) (key : String) : Option Datum := a.options.lookup key

/-- An option that is a truth value, false if it has not been given. -/
def flag (a : ActiveExtension) (key : String) : Bool := (a.option? key).any Datum.isGiven

/-- An option that is a text. -/
def text (a : ActiveExtension) (key : String) (default : String) : List Char :=
  (((a.option? key).map Datum.shown).getD default).toList

end ActiveExtension

end Transcript.Preview
