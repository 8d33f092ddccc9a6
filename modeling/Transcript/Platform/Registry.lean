import Transcript.Platform.Builtin

/-!
# The registry of platforms

A registry lists adapters under their names and the patterns of their hosts. It is an ordinary
value: registering an adapter gives a new registry, in which the adapter stands last and an earlier
one of the same name, up to case, is gone.

## Main definitions

- `Registry.register`: adds an adapter
- `Registry.byName`, `Registry.forHostname`: look adapters up
- `Registry.detect`: the adapter that fits a page best
- `Registry.standard`: the built-in platforms
-/

namespace Transcript

open Markup

/-- An adapter under its name, with the patterns of its hosts in lower case. -/
structure Registration where
  /-- The name. -/
  name : String
  /-- The patterns, in lower case. -/
  patterns : List String
  /-- The adapter. -/
  adapter : Adapter

/-- A registry of platforms. -/
structure Registry where
  /-- The adapters, in the order of their latest registration. -/
  entries : List Registration := []
  /-- The adapter used where none is found. -/
  fallback : Adapter

namespace Registry

/-- Adds an adapter. An empty name stands for the adapter's own, and patterns that are not given for
the adapter's hosts. -/
def register (r : Registry) (adapter : Adapter) (name : Option String)
    (patterns : Option (List String)) : Registry :=
  let given := name.getD ""
  let name := if given == "" then adapter.name else given
  let patterns := (patterns.getD adapter.profile.hostnames).map Text.lower
  -- An earlier adapter of the name gives way, wherever it stands.
  let others := r.entries.filter fun e => Text.lower e.name != Text.lower name
  { r with entries := others ++ [⟨name, patterns, adapter⟩] }

/-- The names, in order. -/
def names (r : Registry) : List String :=
  r.entries.map Registration.name

/-- All patterns, in order. -/
def patterns (r : Registry) : List String :=
  r.entries.flatMap Registration.patterns

/-- The fault of asking for a name that is not registered. -/
def unknown (r : Registry) (name : String) : Fault :=
  let known := if r.entries.isEmpty then "" else Text.join ", " r.names
  .of .unknownPlatform ("Unknown platform '" ++ name ++ "'. Known platforms: " ++
    (if known == "" then "<none>" else known))

/-- The adapter registered under a name, up to case and surrounding blanks. -/
def byName (r : Registry) (name : String) : Except Fault Adapter :=
  let key := Text.lower (Text.trim name)
  match r.entries.find? fun e => Text.lower e.name == key with
  | some e => .ok e.adapter
  | none => .error (r.unknown name)

/-- The first adapter one of whose patterns occurs in a host name, up to case. -/
def forHostname (r : Registry) (hostname : Option String) : Adapter :=
  match hostname with
  | none => r.fallback
  | some hostname =>
    if hostname == "" then r.fallback
    else
      let host := Text.lower hostname
      match r.entries.find? fun e => e.patterns.any fun p => Text.contains p host with
      | some e => e.adapter
      | none => r.fallback

/-- The best of the adapters and its score, given the best so far. Only a greater score beats it. -/
def bestFrom (c : Cursor) (best : Option Adapter × Number.Amount) :
    List Registration → Except Fault (Option Adapter × Number.Amount)
  | [] => .ok best
  | e :: rest =>
    match e.adapter.canHandle c with
    | .error f => .error f
    | .ok score =>
      -- The comparison is strict, so the earlier of two equal scores stays.
      bestFrom c (if best.2.isLess score then (some e.adapter, score) else best) rest

/-- The adapter that fits a page best, with the report on the choice; the earliest of several with
the same score, and the fallback if none scores above zero. -/
def detect (r : Registry) (c : Cursor) : Except Fault (Adapter × Event) :=
  (bestFrom c (none, Adapter.noScore) r.entries).map fun (best, score) =>
    let chosen := best.getD r.fallback
    (chosen, Event.adapterDetected chosen.name score)

/-- The registry of the built-in platforms. -/
def standard : Registry :=
  [Adapter.gemini, .chatGPT, .claude, .deepseek].foldl
    (fun r a => r.register a none none) { fallback := .chatGPT }

end Registry

end Transcript
