import Transcript.Preview.Anchor
import Transcript.Preview.Block
import Transcript.Preview.Extension
import Transcript.Text.Digit

/-!
# Previews

A preview shows a document as a page. Its caller names the extensions it is made with and may ask
for the frame of a page around it.

## Main definitions

- `Request`: what a preview is to be like
- `PageStyle`: what the extensions decide
- `bodyOf`: a document as markup
- `render`: a preview
-/

namespace Transcript.Preview

/-! ## What is asked for -/

/-- What a preview is to be like. -/
structure Request where
  /-- The names of the extensions. -/
  extensions : List String := ["tables", "fenced_code", "pymdownx.arithmatex"]
  /-- Options for extensions, by their names. -/
  options : Datum := .null
  /-- Whether the frame of a page stands around the document. -/
  isFramed : Bool := false
  /-- The title of the page. -/
  title : String := "chatdown preview"

/-- The options that extensions have unless others are given. -/
def defaultOptions : List (String × List (String × Datum)) :=
  [("pymdownx.arithmatex", [("generic", .bool true)])]

/-- The options that an extension has: those given are added to those by default. -/
def optionsFor (given : List (String × List (String × Datum))) (name : String) :
    List (String × Datum) :=
  ((given.lookup name).getD []).foldl (fun found e => Datum.putEntry e.1 e.2 found)
    ((defaultOptions.lookup name).getD [])

/-- The options that are given, by the names of extensions. They have to be mappings. -/
def Request.givenOptions (r : Request) : Except Fault (List (String × List (String × Datum))) :=
  match r.options with
  | .mapping entries =>
    entries.mapM fun (name, options) =>
      match options with
      | .mapping options => .ok (name, options)
      | _ => .error { kind := .badType }
  | d => if d.isGiven then .error { kind := .missingMember } else .ok []

/-! ## What extensions decide -/

/-- What the extensions decide. -/
structure PageStyle where
  /-- Whether a header is left out. -/
  dropsHeader : Bool := false
  /-- Whether the end of every line is kept. -/
  keepsLines : Bool := false
  /-- The characters that a backslash can protect. -/
  protectable : List Char := alwaysProtectable
  /-- How headings are given anchors, if they are. -/
  anchors : Option AnchorStyle := none

/-- The whole number that an option is. -/
def wholeOf : Datum → Except Refusal Int
  | .text s =>
    match Text.readInteger? s with
    | some n => .ok n
    | none => .error (.noNumber s)
  | .bool b => .ok (if b then 1 else 0)
  | .int n => .ok n
  | _ => .ok 1

/-- The levels that a table of contents spans, which have to be whole numbers. -/
def checkDepth : Datum → Except Refusal Unit
  | .text s =>
    let ends := if Text.contains "-" s then Text.splitAt '-' s else [s]
    ends.forM fun s => (wholeOf (.text s)).map fun _ => ()
  | d => (wholeOf d).map fun _ => ()

/-- What the link inside a heading shows, if there is to be one. -/
def insideLink : Datum → Option (List Char)
  | .text word =>
    match flagOfWord? word with
    | some true => some "&para;".toList
    | some false => none
    | none => some (word.toList.flatMap escapeChar)
  | d => if d.isGiven then some "&para;".toList else none

/-- How headings are given anchors. -/
def anchorsOf (a : ActiveExtension) : Except Refusal AnchorStyle := do
  let top ← wholeOf ((a.option? "baselevel").getD (.int 1))
  checkDepth ((a.option? "toc_depth").getD (.int 6))
  return {
    separator := a.text "separator" "-"
    lowering := top - 1
    around := if a.flag "anchorlink" then some (a.text "anchorlink_class" "toclink") else none
    inside := insideLink ((a.option? "permalink").getD .null)
    insideClass := a.text "permalink_class" "headerlink"
    insideTitle :=
      if ((a.option? "permalink_title").getD (.bool true)).isGiven then
        a.text "permalink_title" "Permanent link"
      else []
    isLeading := a.flag "permalink_leading" }

/-- The characters that a backslash can protect because of an extension. -/
def protectedBy (e : Extension) : List Char :=
  match e.family, e.name with
  | .standard, "tables" | .standard, "extra" | .further, "extra" => ['|']
  | .standard, "smarty" => ['\x22', '\x27']
  | .further, "arithmatex" => ['$']
  | .further, "caret" => ['^']
  | .further, "mark" => ['=']
  | .further, "tilde" => ['~']
  | _, _ => []

/-- The style of pages with one more extension. -/
def PageStyle.extend (style : PageStyle) (a : ActiveExtension) : Except Refusal PageStyle :=
  let style := { style with protectable := style.protectable ++ protectedBy a.extension }
  match a.extension.family, a.extension.name with
  | .standard, "meta" => .ok { style with dropsHeader := true }
  | .standard, "nl2br" => .ok { style with keepsLines := true }
  | .standard, "toc" => (anchorsOf a).map fun anchors => { style with anchors := some anchors }
  | _, _ => .ok style

/-- The style of pages made with extensions. The first one that cannot be had is told. -/
def styleOf (given : List (String × List (String × Datum))) (names : List String) :
    Except Refusal PageStyle :=
  names.foldlM (fun style name => do
    style.extend (← ActiveExtension.ofName name (optionsFor given name))) {}

/-! ## Markup -/

/-- How the running text of pages is read. -/
def PageStyle.text (style : PageStyle) : TextStyle := ⟨style.protectable, style.keepsLines⟩

/-- A paragraph as markup. A comment on its own stays as it is. -/
def paragraphMarkup (spans : List Span) : List Char :=
  match spans with
  | [.markup written] => if isComment written then written else element "p" [] written
  | spans => element "p" [] (markupOf spans)

/-- Blocks as markup, `used` being the anchors that are in use. -/
def blockMarkup (style : PageStyle) (used : List (List Char)) : List Block → List (List Char)
  | [] => []
  | .paragraph text :: rest =>
    paragraphMarkup (spansOf style.text text) :: blockMarkup style used rest
  | .code lines :: rest =>
    let text := ['\n'].intercalate lines ++ ['\n']
    element "pre" [] (element "code" [] (text.flatMap escapeChar)) :: blockMarkup style used rest
  | .heading level text :: rest =>
    let spans := spansOf style.text text
    match style.anchors with
    | none =>
      element ("h" ++ Number.integerText level) [] (markupOf spans) :: blockMarkup style used rest
    | some anchors =>
      let anchor := freshName used (slug anchors.separator (plainOf spans))
      anchors.heading anchor level (markupOf spans) :: blockMarkup style (anchor :: used) rest

/-- A document as markup. -/
def bodyOf (style : PageStyle) (source : String) : String :=
  if Text.isAllBlank source then ""
  else
    let lines := regularLines source
    let lines := if style.dropsHeader then withoutHeader lines else lines
    let blocks := blocksOf (linesOf (glyphsOf lines))
    String.ofList (Chars.trim (['\n'].intercalate (blockMarkup style [] blocks)))

/-- A text as it stands in a title. -/
def escapeTitle (s : String) : String :=
  Text.replace "'" "&#x27;" (String.ofList (s.toList.flatMap escapeValueChar))

/-- The frame of a page. -/
def framed (title body : String) : String :=
  "<!DOCTYPE html>\n<html>\n<head>\n<meta charset=\"utf-8\">\n<title>" ++ escapeTitle title ++
    "</title>\n</head>\n<body>\n" ++ body ++ "\n</body>\n</html>\n"

/-- A preview of a document. -/
def render (source : String) (r : Request) : Except Fault String := do
  let given ← r.givenOptions
  match styleOf given r.extensions with
  | .error refusal =>
    .error (.of .preview ("Failed to render Markdown preview: " ++ refusal.message))
  | .ok style =>
    let body := bodyOf style source
    return if r.isFramed then framed r.title body else body

end Transcript.Preview
