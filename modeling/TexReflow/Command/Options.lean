import TexReflow.Text.Quoted
import TexReflow.Text.Word

/-!
# Options

The arguments of the command line: one document and options, in any order. Long options can be
shortened as long as they stay unique, short ones can be written together, and a value can be
attached. Everything after a double dash is taken as it is.
-/

namespace TexReflow.Command

inductive Flag where
  | help
  | config
  | output
  | inPlace
  | keepNewlines
  | keepSentences
  | verbose
deriving Repr, DecidableEq

namespace Flag

/-- All options, in the order in which they are listed. -/
def all : List Flag :=
  [.help, .config, .output, .inPlace, .keepNewlines, .keepSentences, .verbose]

def names : Flag → List String
  | .help => ["-h", "--help"]
  | .config => ["--config", "-c"]
  | .output => ["--output", "-o"]
  | .inPlace => ["--in-place", "-i"]
  | .keepNewlines => ["--no-remove-newlines"]
  | .keepSentences => ["--no-split-sentences"]
  | .verbose => ["--verbose", "-v"]

def shown (f : Flag) : String := "/".intercalate f.names

def takesValue : Flag → Bool
  | .config | .output => true
  | _ => false

def spellings : List (Text × Flag) :=
  all.flatMap fun f => f.names.map fun n => (n.toList, f)

def named? (name : Text) : Option Flag := spellings.lookup name

end Flag

inductive UsageError where
  | missingDocument
  | unrecognized (arguments : List Text)
  | missingValue (flag : Flag)
  | excluded (flag earlier : Flag)
  | unwantedValue (flag : Flag) (value : Text)
  | ambiguous (argument : Text) (candidates : List Text)
deriving Repr, DecidableEq

def UsageError.message : UsageError → String
  | .missingDocument => "the following arguments are required: tex_path"
  | .unrecognized arguments =>
    "unrecognized arguments: " ++ " ".intercalate (arguments.map String.ofList)
  | .missingValue flag => s!"argument {flag.shown}: expected one argument"
  | .excluded flag earlier => s!"argument {flag.shown}: not allowed with argument {earlier.shown}"
  | .unwantedValue flag value =>
    s!"argument {flag.shown}: ignored explicit argument {value.shown}"
  | .ambiguous argument candidates =>
    let options := ", ".intercalate (candidates.map String.ofList)
    s!"ambiguous option: {String.ofList argument} could match {options}"

/-- A value attached to an option, with an equals sign or directly. -/
structure Attached where
  byEquals : Bool
  value : Text
deriving Repr, DecidableEq

/-- An argument, before its neighbours are looked at. -/
inductive Word where
  | operand (text : Text)
  /-- The first double dash. -/
  | divider
  | option (flag : Flag) (short : Bool) (attached : Option Attached)
  /-- Something that looks like an option. -/
  | unknown (text : Text)
deriving Repr, DecidableEq

namespace Word

/-- A negative number is no option. One line feed may follow it. -/
def isNegativeNumber (t : Text) : Bool :=
  let body := t.drop 1
  let number := if body.getLast? = some '\n' then body.dropLast else body
  let digits (u : Text) := !u.isEmpty && u.all Text.isDigit
  t.head? = some '-' &&
    (digits number ||
      match Text.cutAt? '.' number with
      | some (whole, fraction) => whole.all Text.isDigit && digits fraction
      | none => false)

/-- An argument that is no spelling of an option and starts with a dash: a shortened option, an
option with an attached value, or neither. -/
def readDashed (arg : Text) : Except UsageError Word :=
  let long := "--".toList.isPrefixOf arg
  let (name, attached) : Text × Option Attached :=
    match Text.cutAt? '=' arg with
    | some (name, value) => (name, some ⟨true, value⟩)
    | none => (arg, none)
  match attached, Flag.named? name with
  | some _, some flag => .ok (.option flag (!long) attached)
  | _, _ =>
    let candidates :=
      if long then Flag.spellings.filter (name.isPrefixOf ·.1)
      else Flag.spellings.filter (·.1 = arg.take 2)
    match candidates with
    | [] => .ok (if isNegativeNumber arg || arg.contains ' ' then .operand arg else .unknown arg)
    | [(_, flag)] =>
      .ok (.option flag (!long) (if long then attached else some ⟨false, arg.drop 2⟩))
    | _ => .error (.ambiguous arg (candidates.map (·.1)))

def ofArgument (arg : Text) : Except UsageError Word :=
  if arg.head? != some '-' then .ok (.operand arg)
  else
    match Flag.named? arg with
    | some flag => .ok (.option flag (!"--".toList.isPrefixOf arg) none)
    | none => if arg.length = 1 then .ok (.operand arg) else readDashed arg

def ofArguments : List Text → Except UsageError (List Word)
  | [] => .ok []
  | arg :: args =>
    if arg = "--".toList then .ok (.divider :: args.map .operand)
    else do return (← ofArgument arg) :: (← ofArguments args)

end Word

structure Options where
  document : Option Text := none
  config : Option Text := none
  output : Option Text := none
  inPlace : Bool := false
  keepNewlines : Bool := false
  keepSentences : Bool := false
  verbose : Bool := false
  extras : List Text := []
deriving Repr, DecidableEq

inductive Stop where
  | help
  | misuse (error : UsageError)
deriving Repr, DecidableEq

namespace Options

/-- Takes in an option. A result is written to one place only. -/
def take (o : Options) (flag : Flag) (value : Text) : Except Stop Options :=
  match flag with
  | .help => .error .help
  | .config => .ok { o with config := some value }
  | .output =>
    if o.inPlace then .error (.misuse (.excluded .output .inPlace))
    else .ok { o with output := some value }
  | .inPlace =>
    if o.output.isSome then .error (.misuse (.excluded .inPlace .output))
    else .ok { o with inPlace := true }
  | .keepNewlines => .ok { o with keepNewlines := true }
  | .keepSentences => .ok { o with keepSentences := true }
  | .verbose => .ok { o with verbose := true }

def takeAll (o : Options) (taken : List (Flag × Text)) : Except Stop Options :=
  taken.foldlM (fun o (flag, value) => o.take flag value) o

def addExtra (o : Options) (t : Text) : Options := { o with extras := o.extras ++ [t] }

/-- The options written together in one argument. -/
structure Cluster where
  taken : List (Flag × Text)
  /-- An option at the end whose value is the next argument. -/
  awaiting : Option Flag
  /-- A rest that starts with no option. -/
  remainder : Option Text
deriving Repr, DecidableEq

def Cluster.cons (flag : Flag) (c : Cluster) : Cluster := { c with taken := (flag, []) :: c.taken }

def Cluster.single (flag : Flag) : Cluster :=
  if flag.takesValue then ⟨[], some flag, none⟩ else ⟨[(flag, [])], none, none⟩

/-- Takes apart short options written together: what is attached to an option without a value
starts with the letter of another one. -/
def Cluster.ofShort (flag : Flag) (byEquals : Bool) : Text → Except UsageError Cluster
  | [] =>
    if flag.takesValue then .ok ⟨[(flag, [])], none, none⟩ else .error (.unwantedValue flag [])
  | c :: t =>
    if flag.takesValue then .ok ⟨[(flag, c :: t)], none, none⟩
    else if byEquals || c = '-' then .error (.unwantedValue flag (c :: t))
    else
      match Flag.named? ['-', c] with
      | none => .ok ⟨[(flag, [])], none, some ('-' :: c :: t)⟩
      | some next =>
        let others : Except UsageError Cluster :=
          match t with
          | [] => .ok (Cluster.single next)
          | d :: u =>
            if d = '=' then Cluster.ofShort next true u else Cluster.ofShort next false (d :: u)
        others.map (Cluster.cons flag)

def Cluster.ofOption (flag : Flag) (short : Bool) : Option Attached → Except UsageError Cluster
  | none => .ok (Cluster.single flag)
  | some a =>
    if short then Cluster.ofShort flag a.byEquals a.value
    else if flag.takesValue then .ok ⟨[(flag, a.value)], none, none⟩
    else .error (.unwantedValue flag a.value)

/-- Takes in the words of the command line. The first operand that is no value of an option is the
document. A double dash is passed over next to the document and has no meaning elsewhere. -/
def takeWords : List Word → Options → Except Stop Options
  | [], o => .ok o
  | .unknown t :: ws, o => takeWords ws (o.addExtra t)
  | [.divider], o => .ok (o.addExtra "--".toList)
  | .divider :: w :: ws, o =>
    match o.document, w with
    | none, .operand t => takeWords ws { o with document := some t }
    | _, _ => takeWords (w :: ws) (o.addExtra "--".toList)
  | [.operand t], o =>
    .ok (if o.document.isNone then { o with document := some t } else o.addExtra t)
  | .operand t :: w :: ws, o =>
    if o.document.isNone then
      if w = .divider then takeWords ws { o with document := some t }
      else takeWords (w :: ws) { o with document := some t }
    else takeWords (w :: ws) (o.addExtra t)
  | .option flag short attached :: ws, o =>
    match Cluster.ofOption flag short attached with
    | .error e => .error (.misuse e)
    | .ok c =>
      let o := match c.remainder with
        | none => o
        | some t => o.addExtra t
      match c.awaiting, ws with
      | none, ws => do takeWords ws (← o.takeAll c.taken)
      | some last, .operand value :: ws => do
        takeWords ws (← o.takeAll (c.taken ++ [(last, value)]))
      | some last, _ => .error (.misuse (.missingValue last))

/-- Reads the arguments of the command line. The document is required. -/
def parse (args : List Text) : Except Stop (Text × Options) := do
  let words ← (Word.ofArguments args).mapError .misuse
  let o ← takeWords words {}
  match o.document with
  | none => .error (.misuse .missingDocument)
  | some document =>
    if o.extras.isEmpty then .ok (document, o) else .error (.misuse (.unrecognized o.extras))

end Options

end TexReflow.Command
