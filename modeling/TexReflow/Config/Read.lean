import TexReflow.Config.Basic
import TexReflow.Config.Error

/-!
# Reading settings

A settings text has one setting per line, a key and a value with a colon between them. Blank lines
and lines that start with a number sign say nothing. Macro names add to those already there; every
other setting takes the place of the earlier one.
-/

namespace TexReflow.Config

inductive Switch where
  | joinLines
  | splitSentences
deriving Repr, DecidableEq

inductive Mark where
  | verbatimOpening
  | verbatimClosing
  | keepAfter
  | keepBefore
  | mathOpening
  | mathClosing
  | inlineMathOpening
  | inlineMathClosing
deriving Repr, DecidableEq

inductive Key where
  | breaks (side : Macro.Side)
  | switch (which : Switch)
  | mark (which : Mark)
  | lineEnds
  | separator
deriving Repr, DecidableEq

def keys : List (Text × Key) :=
  [("break_around_macro".toList, .breaks .around),
   ("break_after_macro".toList, .breaks .after),
   ("break_before_macro".toList, .breaks .before),
   ("remove_newlines".toList, .switch .joinLines),
   ("break_after_sentences".toList, .switch .splitSentences),
   ("begin_protect".toList, .mark .verbatimOpening),
   ("end_protect".toList, .mark .verbatimClosing),
   ("protect_break_after".toList, .mark .keepAfter),
   ("protect_break_before".toList, .mark .keepBefore),
   ("begin_protect_sentences".toList, .mark .mathOpening),
   ("end_protect_sentences".toList, .mark .mathClosing),
   ("begin_protect_sentences_inline".toList, .mark .inlineMathOpening),
   ("end_protect_sentences_inline".toList, .mark .inlineMathClosing),
   ("line_ends".toList, .lineEnds),
   ("sentence_separator".toList, .separator)]

def setSwitch (cfg : Config) (which : Switch) (value : Bool) : Config :=
  match which with
  | .joinLines => { cfg with joinLines := value }
  | .splitSentences => { cfg with splitSentences := value }

def mark? (cfg : Config) (which : Mark) : Option Pattern :=
  match which with
  | .verbatimOpening => cfg.verbatim.opening
  | .verbatimClosing => cfg.verbatim.closing
  | .keepAfter => cfg.keepAfter
  | .keepBefore => cfg.keepBefore
  | .mathOpening => cfg.math.opening
  | .mathClosing => cfg.math.closing
  | .inlineMathOpening => cfg.inlineMath.opening
  | .inlineMathClosing => cfg.inlineMath.closing

def setMark (cfg : Config) (which : Mark) (p : Option Pattern) : Config :=
  match which with
  | .verbatimOpening => { cfg with verbatim := { cfg.verbatim with opening := p } }
  | .verbatimClosing => { cfg with verbatim := { cfg.verbatim with closing := p } }
  | .keepAfter => { cfg with keepAfter := p }
  | .keepBefore => { cfg with keepBefore := p }
  | .mathOpening => { cfg with math := { cfg.math with opening := p } }
  | .mathClosing => { cfg with math := { cfg.math with closing := p } }
  | .inlineMathOpening => { cfg with inlineMath := { cfg.inlineMath with opening := p } }
  | .inlineMathClosing => { cfg with inlineMath := { cfg.inlineMath with closing := p } }

/-- The value of a switch by its words, in either case. -/
def switchValue? (value : Text) : Option Bool :=
  let v := String.ofList value.lower
  if v ∈ ["true", "yes", "on", "1"] then some true
  else if v ∈ ["false", "no", "off", "0"] then some false
  else none

/-- The values between the commas, without white space at their ends and without blank ones. -/
def values (value : Text) : List Text :=
  ((Text.splitOn [','] value).map Text.trim).filter (!·.isEmpty)

def readPattern (key pattern : Text) : Except Error Pattern :=
  (Pattern.parse pattern).mapError (.ofPattern key pattern)

def addBreaks (key : Text) (side : Macro.Side) : List Text → Config → Except Error Config
  | [], cfg => .ok cfg
  | name :: names, cfg => do
    let _ ← readPattern key name
    addBreaks key side names { cfg with breaks := cfg.breaks ++ [⟨name, side⟩] }

def set (cfg : Config) (key : Text) (what : Key) (value : Text) : Except Error Config :=
  match what with
  | .breaks side => addBreaks key side (values value) cfg
  | .switch which =>
    match switchValue? value with
    | some b => .ok (cfg.setSwitch which b)
    | none => .error (.notBoolean key value)
  | .mark which =>
    if value.isEmpty then .ok (cfg.setMark which none)
    else do return cfg.setMark which (some (← readPattern key value))
  | .lineEnds =>
    match (values value).filter (·.length != 1) with
    | [] => .ok { cfg with lineEnds := values value }
    | bad => .error (.badLineEnds bad)
  | .separator => .ok { cfg with separator := if value.isEmpty then none else some value }

/-- Takes in a line, which is the one with the given number. -/
def readLine (number : Nat) (raw : Text) (cfg : Config) : Except Error Config :=
  let line := raw.trim
  if line.isEmpty || line.head? = some '#' then .ok cfg
  else
    match Text.cutAt? ':' line with
    | none => .error (.missingColon number raw)
    | some (key, value) =>
      match keys.lookup key.trim with
      | none => .error (.unknownKey number key.trim)
      | some what => cfg.set key.trim what value.trim

/-- Takes in lines, the first of which has the given number. -/
def readLines : (number : Nat) → List Text → Config → Except Error Config
  | _, [], cfg => .ok cfg
  | number, raw :: raws, cfg => do readLines (number + 1) raws (← cfg.readLine number raw)

/-- Reads a settings text on top of given settings. -/
def read (text : Text) (base : Config) : Except Error Config := readLines 1 text.lines base

end TexReflow.Config
