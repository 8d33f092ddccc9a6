import Transcript.Fault.Chain
import Transcript.Options.Json
import Transcript.Options.Validation
import Transcript.Options.Yaml.Value
import Transcript.Text.Utf8

/-!
# Option files

Options are kept in files, by their suffix in JSON or else in YAML. A file that cannot be read, that
spells no data or that holds no options is refused.

## Main definitions

- `OptionFile`: a file with what is known of it
- `OptionFile.load`: the options that a file holds
-/

namespace Transcript

/-- A file of options. -/
structure OptionFile where
  /-- Its path, as it is shown. -/
  path : String
  /-- The suffix of its name. -/
  suffix : String
  /-- Its bytes, or why they cannot be read. -/
  bytes : Except String (List Nat)

namespace OptionFile

/-- Why a file is refused. -/
inductive Refusal where
  /-- It cannot be read. -/
  | unreadable (path reason : String)
  /-- Its bytes spell no text. -/
  | noText (e : Utf8.Error)
  /-- It spells no data, for a reason and for what led to that. -/
  | unparsed (path : String) (reason : Fault) (causes : List Fault)
  /-- It spells a value that cannot be held. -/
  | unheld (f : Fault)
  /-- It holds no options. -/
  | refused (r : Options.Refusal)

/-- The fault of a refused file. -/
def Refusal.fault : Refusal → Fault
  | unreadable path reason =>
    .of .options ("Unable to read options file '" ++ path ++ "': " ++ reason)
  | noText e => .of .encoding e.text
  | unparsed path reason _ =>
    .of .options ("Unable to parse options file '" ++ path ++ "': " ++ reason.text)
  | unheld f => f
  | refused r => r.fault

/-- What led to the fault of a refused file. -/
def Refusal.causes : Refusal → List Fault
  | unparsed _ reason causes => reason :: causes
  | _ => []

/-- The datum that a text in JSON spells. A blank text stands for no options at all. -/
def readJson (path : String) (text : List Char) : Except Refusal Datum :=
  if text.all Chars.isBlank then .ok (.mapping [])
  else
    (Json.read text).mapError fun flaw =>
      match flaw with
      | .oversized _ => .unheld (flaw.fault text)
      | .misread .noValue left =>
        -- That there is no value is found by running out of text to read.
        .unparsed path (flaw.fault text)
          [.of .exhausted (Number.integerText (text.length - left : Nat))]
      | flaw => .unparsed path (flaw.fault text) []

/-- The datum that a text in YAML spells. An empty, zero or false one stands for no options at
all. -/
def readYaml (path : String) (text : List Char) : Except Refusal Datum :=
  match Yaml.read text with
  | .ok d => .ok (if d.isGiven then d else .mapping [])
  | .error (.flawed flaw) => .error (.unparsed path (flaw.fault text) [])
  | .error (.unheld f) => .error (.unheld f)

/-- The datum that the text of a file spells. -/
def datum (file : OptionFile) (text : String) : Except Refusal Datum :=
  let text := Chars.normalizeNewlines text.toList
  if Text.lower file.suffix == ".json" then readJson file.path text else readYaml file.path text

/-- The options that a file holds. -/
def load (file : OptionFile) : Except Refusal Options :=
  match file.bytes with
  | .error reason => .error (.unreadable file.path reason)
  | .ok bytes =>
    match Utf8.decode bytes with
    | .error e => .error (.noText e)
    | .ok text =>
      match file.datum text with
      | .error refusal => .error refusal
      | .ok d => (Options.ofDatum d).mapError .refused

end OptionFile

end Transcript
