import TexReflow.Command.Path
import TexReflow.Text.Quoted
import TexReflow.Text.Utf8

/-!
# Files

A file tree as far as the command line needs it: reading the octets of a file, and writing a file
whose directory exists. Each entry says what the caller may do with it.
-/

namespace TexReflow.Command

/-- A place in a file tree: the names of the directories on the way, and the last name. -/
abbrev Location := List Text

/-- What the caller may do with an entry. To search a directory is to go through it, and to write it
is to put new files there. -/
structure Access where
  read : Bool := true
  write : Bool := true
  search : Bool := true
deriving Repr, DecidableEq

inductive Entry where
  | file (octets : List UInt8) (access : Access := {})
  | directory (access : Access := {})
deriving Repr, DecidableEq

inductive FileError.Cause where
  | notFound
  | denied
  | notDirectory
  | isDirectory
  | nameTooLong
  /-- The path has a character that no path can have. -/
  | nullInPath
deriving Repr, DecidableEq

def FileError.Cause.text : FileError.Cause → String
  | .notFound => "[Errno 2] No such file or directory"
  | .denied => "[Errno 13] Permission denied"
  | .notDirectory => "[Errno 20] Not a directory"
  | .isDirectory => "[Errno 21] Is a directory"
  | .nameTooLong => "[Errno 36] File name too long"
  | .nullInPath => "embedded null byte"

structure FileError where
  cause : FileError.Cause
  path : Path
deriving Repr, DecidableEq

/-- The error comes from the system, which has been asked for the file. -/
def FileError.isSystem (e : FileError) : Bool := e.cause != .nullInPath

def FileError.message (e : FileError) : String :=
  if e.isSystem then s!"{e.cause.text}: {e.path.text.shown}" else e.cause.text

/-- A file tree: entries by place. A place above an entry is a directory. -/
structure Files where
  entries : List (Location × Entry)
deriving Repr, DecidableEq

namespace Files

def get? (fs : Files) (place : Location) : Option Entry :=
  match fs.entries.lookup place with
  | some e => some e
  | none => if fs.entries.any (place.isPrefixOf ·.1) || place = [] then some .directory else none

def put (fs : Files) (place : Location) (e : Entry) : Files :=
  ⟨if (fs.entries.lookup place).isSome then
      fs.entries.map fun (l, old) => if l = place then (l, e) else (l, old)
    else fs.entries ++ [(place, e)]⟩

/-- A text takes more than the given number of octets. -/
def exceeds (limit : Nat) (t : Text) : Bool := limit < (Text.Utf8.encode t).length

/-- The largest numbers of octets in a name and in a path. -/
def maxName : Nat := 255

def maxPath : Nat := 4095

/-- The place that parts lead to from another place. Every place on the way must be a directory that
can be searched. -/
def walk (fs : Files) : Location → List Text → Except FileError.Cause Location
  | here, [] => .ok here
  | here, part :: parts =>
    match fs.get? here with
    | none => .error .notFound
    | some (.file ..) => .error .notDirectory
    | some (.directory access) =>
      if !access.search then .error .denied
      else if exceeds maxName part then .error .nameTooLong
      else walk fs (if part = ['.', '.'] then here.dropLast else here ++ [part]) parts

/-- The place a path names; relative paths start at `cwd`. -/
def locate (fs : Files) (cwd p : Path) : Except FileError.Cause Location :=
  if p.text.contains '\x00' then .error .nullInPath
  else if exceeds maxPath p.text then .error .nameTooLong
  else if !p.root.isEmpty then fs.walk [] p.parts
  else if (fs.get? cwd.parts).isSome then fs.walk cwd.parts p.parts
  else .error .notFound

def read (fs : Files) (cwd p : Path) : Except FileError (List UInt8) :=
  let octets : Except FileError.Cause (List UInt8) := do
    match fs.get? (← fs.locate cwd p) with
    | none => .error .notFound
    | some (.directory access) => .error (if access.read then .isDirectory else .denied)
    | some (.file octets access) => if access.read then .ok octets else .error .denied
  octets.mapError (⟨·, p⟩)

/-- New files can be put into the directory at a place. -/
def takesFiles (fs : Files) (place : Location) : Bool :=
  match fs.get? place with
  | some (.directory access) => access.write
  | _ => false

/-- Writes a file. One that exists keeps its access. -/
def write (fs : Files) (cwd p : Path) (octets : List UInt8) : Except FileError Files :=
  let written : Except FileError.Cause Files := do
    let place ← fs.locate cwd p
    match fs.get? place with
    | some (.directory _) => .error .isDirectory
    | some (.file _ access) =>
      if access.write then .ok (fs.put place (.file octets access)) else .error .denied
    | none =>
      if fs.takesFiles place.dropLast then .ok (fs.put place (.file octets)) else .error .denied
  written.mapError (⟨·, p⟩)

end Files

end TexReflow.Command
