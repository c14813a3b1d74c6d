import TexReflow.Command.Files
import TexReflow.Command.Options
import TexReflow.Config.Read
import TexReflow.Document
import TexReflow.Text.Utf8

/-!
# The command line

A call reads its settings, then the document, and prints the result or writes it to one file.
Nothing is printed or written unless there is a result.
-/

namespace TexReflow.Command

/-- What the command line knows besides its arguments. -/
structure Environment where
  cwd : Path
  /-- The value of the variable that names the home directory. -/
  home : Option Text
  /-- The home directory of the account that makes the call. -/
  ownHome : Option Text
  /-- The home directories of the accounts, by name. -/
  accounts : List (Text × Text)
  /-- The value of the variable that names the settings file. -/
  settings : Option Text
deriving Repr, DecidableEq

/-- The home directory of an account. Without a name it is that of the caller. -/
def Environment.home? (env : Environment) (name : Text) : Option Text :=
  if name.isEmpty then env.home.or env.ownHome else env.accounts.lookup name

def usageText : String :=
  "usage: latexbreak [-h] [--config CONFIG] [--output OUTPUT | --in-place]\n" ++
  "                  [--no-remove-newlines] [--no-split-sentences] [--verbose]\n" ++
  "                  tex_path\n"

def helpText : String :=
  usageText ++
  "\n" ++
  "Canonical line breaks for LaTeX sources\n" ++
  "\n" ++
  "positional arguments:\n" ++
  "  tex_path              Path to input .tex file\n" ++
  "\n" ++
  "options:\n" ++
  "  -h, --help            show this help message and exit\n" ++
  "  --config CONFIG, -c CONFIG\n" ++
  "                        Config file (default: $LATEXBREAK_CONFIG or\n" ++
  "                        ./latexbreak.config)\n" ++
  "  --output OUTPUT, -o OUTPUT\n" ++
  "                        Write the result here instead of stdout\n" ++
  "  --in-place, -i        Overwrite the input file\n" ++
  "  --no-remove-newlines  Keep soft line breaks\n" ++
  "  --no-split-sentences  Do not put sentences on their own lines\n" ++
  "  --verbose, -v         Debug logging\n"

/-- Errors that end the program without a status of its own. -/
inductive Abort where
  | undecodable (error : Text.Utf8.Error)
  /-- A file that cannot be written, or that the system cannot even be asked for. -/
  | inaccessible (error : FileError)
  | refused (cause : Pattern.Refusal)
  | faulty (fault : Fault)
  | homeless
deriving Repr, DecidableEq

def Abort.message : Abort → String
  | .undecodable error => error.message
  | .inaccessible error => error.message
  | .refused cause => cause.message
  | .faulty fault => fault.message
  | .homeless => "Could not determine home directory."

inductive Ending where
  | exit (status : Nat)
  | abort (cause : Abort)
deriving Repr, DecidableEq

/-- Why there is no result. -/
inductive Failure where
  | reported (message : String)
  | aborted (cause : Abort)
deriving Repr, DecidableEq

namespace Failure

/-- A file that cannot be read; `lead` comes before the message. -/
def ofFile (lead : String) (e : FileError) : Failure :=
  if e.isSystem then .reported (lead ++ e.message) else .aborted (.inaccessible e)

def ofSettings : Config.Error → Failure
  | .refused cause => .aborted (.refused cause)
  | e => .reported e.message

def ofFault : Fault → Failure
  | .unbalanced region => .reported region.message
  | fault => .aborted (.faulty fault)

end Failure

namespace Options

/-- The settings file: the one that is given, or the one that the environment names, or the one in
the working directory. There is none if the environment names one below an unknown home directory.
-/
def settingsPath? (env : Environment) (o : Options) : Option Path :=
  match o.config with
  | some t => some (Path.ofText t)
  | none =>
    match (env.settings.getD []).trim with
    | [] => some (env.cwd.child "latexbreak.config".toList)
    | t => (Path.ofText t).expand? env.home?

/-- The settings with what the options turn off. -/
def adjust (o : Options) (cfg : Config) : Config :=
  { cfg with
    joinLines := cfg.joinLines && !o.keepNewlines
    splitSentences := cfg.splitSentences && !o.keepSentences }

/-- The file for the result, if it is not printed. -/
def target? (document : Text) (o : Options) : Option Path :=
  if o.inPlace then some (Path.ofText document)
  else
    match o.output with
    | none | some [] => none
    | some t => some (Path.ofText t)

end Options

/-- The text of a file, with all row breaks written as line feeds. -/
def decodeFile (octets : List UInt8) : Except Failure Text :=
  match Text.Utf8.decode octets with
  | .error e => .error (.aborted (.undecodable e))
  | .ok t => .ok t.unifyBreaks

def loadSettings (path : Path) (file : Except FileError (List UInt8)) : Except Failure Config :=
  match file with
  | .error e => .error (.ofFile s!"cannot read config {String.ofList path.text}: " e)
  | .ok octets => do (Config.read (← decodeFile octets) {}).mapError .ofSettings

def loadDocument (file : Except FileError (List UInt8)) : Except Failure Text :=
  match file with
  | .error e => .error (.ofFile "" e)
  | .ok octets => decodeFile octets

/-- The work of a call on the files it reads: what is reported on the way, and the result. -/
def work (o : Options) (path : Path) (settings document : Except FileError (List UInt8)) :
    List Event × Except Failure Text :=
  match loadSettings path settings with
  | .error f => ([], .error f)
  | .ok cfg =>
    let loaded := Event.settingsLoaded cfg.breaks.length path.text
    match loadDocument document with
    | .error f => ([loaded], .error f)
    | .ok t =>
      let adjusted := o.adjust cfg
      (loaded :: adjusted.report t.rows, (adjusted.process t).mapError .ofFault)

/-- The events that are shown, one per line. Details are shown on request only. -/
def log (o : Options) (events : List Event) : String :=
  String.join ((events.filter fun e => o.verbose || e.level = .warning).map (·.logLine ++ "\n"))

/-- What a call prints, and the text it writes to a file, if it comes that far. -/
structure Reply where
  ending : Ending
  stdout : Text := []
  stderr : String := ""
  target : Option (Path × Text) := none
deriving Repr, DecidableEq

/-- The reply to arguments that ask for nothing else. -/
def Stop.reply : Stop → Reply
  | .help => { ending := .exit 0, stdout := helpText.toList }
  | .misuse e =>
    { ending := .exit 2, stderr := usageText ++ "latexbreak: error: " ++ e.message ++ "\n" }

def Options.reply (o : Options) (document : Text) (path : Path)
    (settings source : Except FileError (List UInt8)) : Reply :=
  let (events, result) := work o path settings source
  let shown := log o events
  match result with
  | .error (.reported message) =>
    { ending := .exit 1, stderr := shown ++ "Error: " ++ message ++ "\n" }
  | .error (.aborted cause) => { ending := .abort cause, stderr := shown }
  | .ok t =>
    match o.target? document with
    | none => { ending := .exit 0, stdout := t, stderr := shown }
    | some p => { ending := .exit 0, stderr := shown, target := some (p, t) }

/-- The reply if there is no settings file to look for. -/
def homeless : Reply := { ending := .abort .homeless }

structure Outcome where
  ending : Ending
  stdout : Text
  stderr : String
  files : Files
deriving Repr, DecidableEq

/-- Writes the result to its file, if there is one. -/
def Reply.finish (r : Reply) (env : Environment) (fs : Files) : Outcome :=
  match r.target with
  | none => ⟨r.ending, r.stdout, r.stderr, fs⟩
  | some (p, t) =>
    match fs.write env.cwd p (Text.Utf8.encode t) with
    | .error e => ⟨.abort (.inaccessible e), [], r.stderr, fs⟩
    | .ok written => ⟨r.ending, r.stdout, r.stderr, written⟩

def run (env : Environment) (fs : Files) (args : List Text) : Outcome :=
  match Options.parse args with
  | .error stop => stop.reply.finish env fs
  | .ok (document, o) =>
    match o.settingsPath? env with
    | none => homeless.finish env fs
    | some path =>
      let source := fs.read env.cwd (Path.ofText document)
      (o.reply document path (fs.read env.cwd path) source).finish env fs

end TexReflow.Command
