import TexReflow.Command.Run

/-!
# The program

Reads the two files of a call, prints its reply, and writes the file it asks for.
-/

namespace TexReflow.Command

/-- A failed access as the command line words it. -/
def fileError (p : Path) (e : IO.Error) : FileError :=
  match e with
  | .noFileOrDirectory .. | .noSuchThing .. => ⟨.notFound, p⟩
  | .permissionDenied .. => ⟨.denied, p⟩
  | .inappropriateType _ code _ => ⟨if code = 21 then .isDirectory else .notDirectory, p⟩
  | .invalidArgument _ code _ => ⟨if code = 36 then .nameTooLong else .notFound, p⟩
  | _ => ⟨.notFound, p⟩

/-- Asks the system for a file, unless its path cannot be one. -/
def access {α : Type} (p : Path) (f : String → IO α) : BaseIO (Except FileError α) := do
  if p.text.contains '\x00' then return .error ⟨.nullInPath, p⟩
  match ← (f (String.ofList p.text)).toBaseIO with
  | .ok a => return .ok a
  | .error e => return .error (fileError p e)

def readFile (p : Path) : BaseIO (Except FileError (List UInt8)) :=
  access p fun name => return (← IO.FS.readBinFile name).toList

def writeFile (p : Path) (t : Text) : BaseIO (Except FileError Unit) :=
  access p fun name => IO.FS.writeFile name (String.ofList t)

/-- The fields of a line between separators. -/
def readFields (name : String) (separator : Char) : BaseIO (List (List Text)) := do
  match ← (IO.FS.lines name).toBaseIO with
  | .ok lines => return lines.toList.map fun line => Text.splitOn [separator] line.toList
  | .error _ => return []

/-- The home directories that the system knows: that of the caller, and those of all accounts by
name. -/
def readHomes : BaseIO (Option Text × List (Text × Text)) := do
  let accounts ← readFields "/etc/passwd" ':'
  let status ← readFields "/proc/self/status" '\t'
  let user := (status.find? (·.head? = some "Uid:".toList)).bind (·[1]?)
  let own := (accounts.find? fun fields => user.isSome && fields[2]? = user).bind (·[5]?)
  return (own, accounts.filterMap fun fields => do return (← fields[0]?, ← fields[5]?))

def answer (env : Environment) (args : List Text) : BaseIO Reply := do
  match Options.parse args with
  | .error stop => return stop.reply
  | .ok (document, o) =>
    match o.settingsPath? env with
    | none => return homeless
    | some path => return o.reply document path (← readFile path) (← readFile (.ofText document))

def Ending.status (e : Ending) : IO UInt32 := do
  match e with
  | .exit code => return code.toUInt32
  | .abort cause =>
    IO.eprintln cause.message
    return 1

end TexReflow.Command

open TexReflow Command in
def main (args : List String) : IO UInt32 := do
  let cwd := Path.ofText (toString (← IO.currentDir)).toList
  let home := (← IO.getEnv "HOME").map String.toList
  let (ownHome, accounts) ← readHomes
  let settings := (← IO.getEnv "LATEXBREAK_CONFIG").map String.toList
  let reply ← answer ⟨cwd, home, ownHome, accounts, settings⟩ (args.map String.toList)
  IO.eprint reply.stderr
  IO.print (String.ofList reply.stdout)
  match reply.target with
  | none => reply.ending.status
  | some (p, t) =>
    match ← writeFile p t with
    | .ok () => reply.ending.status
    | .error e => (Ending.abort (.inaccessible e)).status
