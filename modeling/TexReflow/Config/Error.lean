import TexReflow.Pattern.Error

/-!
# Settings errors

What can be wrong with a settings text, and how a message says it. A pattern that is refused though
its form is good is not reported as an error of the settings.
-/

namespace TexReflow.Config

inductive Error where
  /-- A line, counted from one, without a colon. -/
  | missingColon (line : Nat) (raw : Text)
  | unknownKey (line : Nat) (key : Text)
  | notBoolean (key value : Text)
  | badPattern (key pattern : Text) (cause : Pattern.Malformed)
  /-- Sentence ends that are no single characters. -/
  | badLineEnds (entries : List Text)
  | refused (cause : Pattern.Refusal)
deriving Repr, DecidableEq

def shownList (ts : List Text) : String := "[" ++ ", ".intercalate (ts.map Text.shown) ++ "]"

def Error.message : Error → String
  | .missingColon line raw => s!"line {line}: missing ':' in {raw.shown}"
  | .unknownKey line key => s!"line {line}: unknown key {key.shown}"
  | .notBoolean key value => s!"{String.ofList key}: expected a boolean, got {value.shown}"
  | .badPattern key pattern cause =>
    s!"{String.ofList key}: invalid pattern {pattern.shown}: {cause.message pattern}"
  | .badLineEnds entries =>
    s!"line_ends: entries must be single characters, got {shownList entries}"
  | .refused cause => cause.message

/-- The error is one of the settings. -/
def Error.isReported : Error → Bool
  | .refused _ => false
  | _ => true

def Error.ofPattern (key pattern : Text) : Pattern.Error → Error
  | .malformed cause => .badPattern key pattern cause
  | .refused cause => .refused cause

end TexReflow.Config
