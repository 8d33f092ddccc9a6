import Transcript.Cli.Command

/-!
# The program

Reads the files that the arguments name, runs the command line on them, and writes what it answers.
The clock of a run stands still, so that the same arguments and files always give the same answer.
-/

namespace Transcript.Cli

/-- The texts among the arguments that may name files: the arguments themselves, and what stands
behind an equals sign. -/
def fileNames (args : List String) : List String :=
  args.flatMap fun arg =>
    match Text.splitAt '=' arg with
    | _ :: rest => if rest.isEmpty then [arg] else [arg, Text.join "=" rest]
    | [] => [arg]

/-- What is found under a name. -/
inductive Found where
  /-- Nothing. -/
  | nothing
  /-- A file, with its bytes. -/
  | file (bytes : List Nat)
  /-- Something that can be opened but not read, as directories are. -/
  | directory

/-- Looks a name up. -/
def lookUp (name : String) : IO Found := do
  let opened ← try let _ ← IO.FS.Handle.mk name .read; pure true catch _ => pure false
  if !opened then return .nothing
  try
    let bytes ← IO.FS.readBinFile name
    return .file (bytes.toList.map UInt8.toNat)
  catch _ => return .directory

/-- The part of the working directory that names lead to. -/
def diskOf (names : List String) : IO Disk := do
  let mut disk : Disk := {}
  for name in names do
    let path := Path.ofText name
    match ← lookUp name with
    | .nothing => pure ()
    | .file bytes => disk := { disk with files := Disk.put ⟨path, bytes⟩ disk.files }
    | .directory => disk := { disk with directories := path :: disk.directories }
  return disk

/-- The name under which a path was given. -/
def nameOf (names : List String) (path : Path) : String :=
  (names.find? fun name => Path.ofText name == path).getD path.text

/-- Writes what a run answers, and gives its exit code. -/
def answer (names : List String) (o : Outcome) : IO UInt32 := do
  IO.print o.stdout
  for (path, text) in o.written do
    let name := nameOf names path
    let parts := Text.splitAt '/' name
    if 1 < parts.length then IO.FS.createDirAll (Text.join "/" parts.dropLast ++ "/")
    IO.FS.writeFile name text
  for line in o.stderr do
    IO.eprintln line
  if let some (.usage e) := o.failure then IO.eprintln ("Error: " ++ e.message)
  return o.exit.toUInt32

end Transcript.Cli

open Transcript.Cli in
/-- The program. -/
def main (args : List String) : IO UInt32 := do
  let names := fileNames args
  let disk ← diskOf names
  answer names (runReporting { disk } args)
