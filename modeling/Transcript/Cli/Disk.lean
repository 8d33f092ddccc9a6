import Transcript.Fault.Basic
import Transcript.Text.Lines

/-!
# The working directory

The files of the working directory, as a value: paths with their bytes. Directories are the parts of
paths in front of their last one. Writing a file makes the directories it needs, and fails where a
file is in the way of one.

## Main definitions

- `Path`, `Path.ofText`: paths below the working directory
- `Disk`: the files
- `Disk.write`: writes a file
-/

namespace Transcript.Cli

/-- A path below the working directory, part by part. -/
abbrev Path := List String

namespace Path

/-- Adds a part to a path; the parts for the same and for the upper directory are resolved. -/
def push (path : Path) (part : String) : Path :=
  if part == "" || part == "." then path
  else if part == ".." then path.dropLast
  else path ++ [part]

/-- The path written by a text. -/
def ofText (s : String) : Path :=
  (Text.splitAt '/' s).foldl push []

/-- The path as it is written below the working directory. -/
def text (path : Path) : String :=
  Text.join "/" path

/-- The path as it is shown, below the name of the working directory. -/
def shown (directory : String) (path : Path) : String :=
  Text.join "/" (directory :: path)

/-- The suffix of the last part: from its last point on, unless that is its first or last
character. -/
def suffix (path : Path) : String :=
  let name := (path.getLast?.getD "").toList.reverse
  let ending := name.takeWhile (· != '.')
  match name.dropWhile (· != '.') with
  -- A point in front of everything, or at the very end, begins no suffix.
  | '.' :: _ :: _ => if ending.isEmpty then "" else String.ofList ('.' :: ending.reverse)
  | _ => ""

end Path

/-- A file. -/
structure StoredFile where
  /-- Its path. -/
  path : Path
  /-- Its bytes. -/
  bytes : List Nat

/-- The files of the working directory. -/
structure Disk where
  /-- The name under which the working directory is shown. -/
  directory : String := "."
  /-- The files. -/
  files : List StoredFile := []
  /-- Directories that are there besides those of the files. -/
  directories : List Path := []

namespace Disk

/-- The bytes of the file at a path. -/
def bytes? (d : Disk) (path : Path) : Option (List Nat) :=
  (d.files.find? fun f => f.path == path).map StoredFile.bytes

/-- Whether there is a file at a path. -/
def hasFile (d : Disk) (path : Path) : Bool :=
  (d.bytes? path).isSome

/-- Whether there is a directory at a path. -/
def hasDirectory (d : Disk) (path : Path) : Bool :=
  path.isEmpty || d.directories.contains path ||
    d.files.any fun f => f.path != path && f.path.take path.length == path

/-- Why the directory at a path cannot be made, if it cannot. -/
def obstacle? (d : Disk) (path : Path) : Option Fault :=
  if d.hasFile path then
    some (.of .fileExists ("[Errno 17] File exists: '" ++ path.shown d.directory ++ "'"))
  else if (List.range path.length).any fun n => d.hasFile (path.take n) then
    some (.of .notDirectory ("[Errno 20] Not a directory: '" ++ path.shown d.directory ++ "'"))
  else none

/-- The fault of a file that cannot be written. -/
def writeFault (d : Disk) (path : Path) (obstacle : Fault) : Fault :=
  .of .fileSystem ("Failed to write output to '" ++ path.shown d.directory ++ "': " ++
    obstacle.text)

/-- Puts a file among others; one at the same path is replaced. -/
def put (file : StoredFile) (files : List StoredFile) : List StoredFile :=
  files.filter (fun f => f.path != file.path) ++ [file]

/-- Writes a file, or says what is in its way. -/
def write (d : Disk) (path : Path) (bytes : List Nat) : Except Fault Disk :=
  match d.obstacle? path.dropLast with
  | some obstacle => .error obstacle
  | none => .ok { d with files := put ⟨path, bytes⟩ d.files }

end Disk

end Transcript.Cli
