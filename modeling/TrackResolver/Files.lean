import TrackResolver.Text.Split

/-!
# Files

A small file system, and the directory in it from which relative paths start. A path is followed one
name after another: what stands before a slash has to be a directory.

This is as much of an operating system as `load_toml_config` and `default_config_path` meet. Every
directory may be entered; only a file can be locked.
-/
namespace TrackResolver

inductive FileContent where
  | bytes (content : List UInt8)
  /-- A file that nobody may read. -/
  | locked
  | directory

/-- Why a file cannot be read. -/
inductive FileFault where
  | notFound
  | isDirectory
  | notDirectory
  | permissionDenied
  /-- It is not UTF-8 text. -/
  | invalidData
  /-- The path holds a zero character. -/
  | invalidPath
  /-- The path, or a name in it, is too long. -/
  | nameTooLong
deriving DecidableEq

/-- The names on the way from the root to a file, without empty ones. -/
abbrev Location := List (List Char)

/-- What is written where. The directories on the way to a file exist without being mentioned, and so
do those on the way to the working directory. -/
structure Files where
  entries : List (Location × FileContent)
  /-- Where a path starts that does not begin with a slash. -/
  workingDirectory : Location := []

namespace Files

/-- The names of a path between its slashes. -/
def namesOf (path : String) : List (List Char) := Text.splitOn '/' path.toList

/-- Where a path starts. -/
def start (workingDirectory : Location) (path : String) : Location :=
  if path.toList.head? = some '/' then [] else workingDirectory

def ofList (workingDirectory : Location) (files : List (String × FileContent)) : Files where
  entries := files.map fun (path, content) =>
    (start workingDirectory path ++
      (namesOf path).filter fun name => !name.isEmpty && name ≠ ['.'], content)
  workingDirectory

/-- What is at a location. -/
def find? (fs : Files) (l : Location) : Option FileContent :=
  match fs.entries.find? (·.1 = l) with
  | some (_, content) => some content
  | none =>
    if l.isPrefixOf fs.workingDirectory || fs.entries.any fun e => l.isPrefixOf e.1 then
      some .directory
    else none

def look (fs : Files) (l : Location) : Except FileFault FileContent :=
  match fs.find? l with
  | some content => .ok content
  | none => .error .notFound

/-- One name of a path, in the directory at a location. The root is the directory around itself. -/
def enter (fs : Files) (l : Location) (name : List Char) : Except FileFault Location := do
  match ← fs.look l with
  | .bytes _ | .locked => throw .notDirectory
  | .directory =>
    if name.isEmpty || name = ['.'] then return l
    else if name = ['.', '.'] then return l.dropLast
    else if 255 < (String.ofList name).utf8ByteSize then throw .nameTooLong
    else return l ++ [name]

/-- What is at the end of a path. -/
def follow (fs : Files) (path : String) : Except FileFault FileContent := do
  if path.isEmpty then throw .notFound
  if path.toList.contains '\x00' then throw .invalidPath
  if 4096 ≤ path.utf8ByteSize then throw .nameTooLong
  fs.look (← (namesOf path).foldlM fs.enter (start fs.workingDirectory path))

def contains (fs : Files) (path : String) : Bool := (fs.follow path).isOk

/-- The text of a file. -/
def readText (fs : Files) (path : String) : Except FileFault String := do
  match ← fs.follow path with
  | .directory => throw .isDirectory
  | .locked => throw .permissionDenied
  | .bytes content => match String.fromUTF8? ⟨content.toArray⟩ with
    | some s => return s
    | none => throw .invalidData

/-- The path to `name` in the directory at `dir`. -/
def join (dir name : String) : String :=
  match dir.toList.getLast? with
  | none | some '/' => dir ++ name
  | some _ => dir ++ "/" ++ name

end Files

end TrackResolver
