import TexReflow.Text.Quoted

/-!
# Pattern errors

What can be wrong with the text of a pattern, where, and how a message says it. Besides patterns of
bad form there are those that are refused, because a number in them is too large or because they ask
for two alphabets at once.
-/

namespace TexReflow.Pattern

/-- What can be wrong with flags. -/
inductive FlagFault where
  | unknown
  | missing
  | missingEnd
  | missingColon
  | locale
  | clashing
  | alphabetOff
  | globalOn
  | globalOff
  | onAndOff
deriving Repr, DecidableEq

def FlagFault.text : FlagFault → String
  | .unknown => "unknown flag"
  | .missing => "missing flag"
  | .missingEnd => "missing -, : or )"
  | .missingColon => "missing :"
  | .locale => "bad inline flags: cannot use 'L' flag with a str pattern"
  | .clashing => "bad inline flags: flags 'a', 'u' and 'L' are incompatible"
  | .alphabetOff => "bad inline flags: cannot turn off flags 'a', 'u' and 'L'"
  | .globalOn => "bad inline flags: cannot turn on global flag"
  | .globalOff => "bad inline flags: cannot turn off global flag"
  | .onAndOff => "bad inline flags: flag turned on and off"

inductive Fault where
  | danglingEscape
  | badEscape (escape : Text)
  | incompleteEscape (escape : Text)
  | largeOctal (escape : Text)
  | unterminatedGroup
  | unbalancedParenthesis
  | unterminatedComment
  | unterminatedClass
  | badRange (range : Text)
  | nothingToRepeat
  | multipleRepeat
  | crossedBounds
  | missingName (what : String)
  | unterminatedName (close : Char)
  | missingBrace
  | unknownCharacter (name : Text)
  | badName (name : Text)
  | unknownName (name : Text)
  | redefinedName (name : Text) (index earlier : Nat)
  | zeroReference
  | invalidReference (index : Nat)
  | openReference
  | referenceBehind
  | manyBranches
  | unknownExtension (extension : Text)
  | unexpectedEnd
  | flags (fault : FlagFault)
  | misplacedFlags
  | farLookBehind
  | varyingLookBehind
  | templateRepeat (operator : String)
deriving Repr, DecidableEq

def Fault.text : Fault → String
  | .danglingEscape => "bad escape (end of pattern)"
  | .badEscape escape => "bad escape " ++ String.ofList escape
  | .incompleteEscape escape => "incomplete escape " ++ String.ofList escape
  | .largeOctal escape =>
    "octal escape value " ++ String.ofList escape ++ " outside of range 0-0o377"
  | .unterminatedGroup => "missing ), unterminated subpattern"
  | .unbalancedParenthesis => "unbalanced parenthesis"
  | .unterminatedComment => "missing ), unterminated comment"
  | .unterminatedClass => "unterminated character set"
  | .badRange range => "bad character range " ++ String.ofList range
  | .nothingToRepeat => "nothing to repeat"
  | .multipleRepeat => "multiple repeat"
  | .crossedBounds => "min repeat greater than max repeat"
  | .missingName what => s!"missing {what} name"
  | .unterminatedName close => s!"missing {close}, unterminated name"
  | .missingBrace => "missing \x7b"
  | .unknownCharacter name => "undefined character name " ++ name.shown
  | .badName name => "bad character in group name " ++ name.shown
  | .unknownName name => "unknown group name " ++ name.shown
  | .redefinedName name index earlier =>
    s!"redefinition of group name {name.shown} as group {index}; was group {earlier}"
  | .zeroReference => "bad group number"
  | .invalidReference index => s!"invalid group reference {index}"
  | .openReference => "cannot refer to an open group"
  | .referenceBehind => "cannot refer to group defined in the same lookbehind subpattern"
  | .manyBranches => "conditional backref with more than two branches"
  | .unknownExtension extension => "unknown extension " ++ String.ofList extension
  | .unexpectedEnd => "unexpected end of pattern"
  | .flags fault => fault.text
  | .misplacedFlags => "global flags not at the start of the expression"
  | .farLookBehind => "looks too much behind"
  | .varyingLookBehind => "look-behind requires fixed-width pattern"
  | .templateRepeat operator => "internal: unsupported template operator " ++ operator

/-- A fault and the offset it is found at. A fault of the pattern as a whole has no offset. -/
structure Malformed where
  fault : Fault
  offset : Option Nat
deriving Repr, DecidableEq

/-- The line and the column of an offset, both counted from one. -/
def lineColumn (source : Text) (offset : Nat) : Nat × Nat :=
  let above := source.take offset
  (above.count '\n' + 1, (above.reverse.takeWhile (· != '\n')).length + 1)

/-- The message for a fault in the pattern `source`. Line and column are given when the pattern has
more than one line. -/
def Malformed.message (source : Text) (m : Malformed) : String :=
  match m.offset with
  | none => m.fault.text
  | some n =>
    let (line, column) := lineColumn source n
    let detail := if source.contains '\n' then s!" (line {line}, column {column})" else ""
    s!"{m.fault.text} at position {n}{detail}"

/-- Why a pattern of good form is refused. -/
inductive Refusal where
  | manyCopies
  /-- A number with more digits than are read. -/
  | manyDigits (count : Nat)
  | twoAlphabets
deriving Repr, DecidableEq

/-- The number of digits up to which numbers are read. -/
def maxDigits : Nat := 4300

def Refusal.message : Refusal → String
  | .manyCopies => "the repetition number is too large"
  | .manyDigits count =>
    s!"Exceeds the limit ({maxDigits} digits) for integer string conversion: value has {count} " ++
      "digits; use sys.set_int_max_str_digits() to increase the limit"
  | .twoAlphabets => "ASCII and UNICODE flags are incompatible"

/-- Why a text is not read as a pattern. -/
inductive Error where
  | malformed (cause : Malformed)
  | refused (cause : Refusal)
deriving Repr, DecidableEq

def Error.message (source : Text) : Error → String
  | .malformed cause => cause.message source
  | .refused cause => cause.message

end TexReflow.Pattern
