import TexReflow.Region

/-!
# Line breaks at macros

The rules for its macros put line breaks into a line, and the line is cut at them. Pieces without
content are dropped, so no blank line appears. Rules that cannot be made and lines that cannot be
cut are faults, as regions out of balance are.
-/

namespace TexReflow

/-- Why a run ends without a result. -/
inductive Fault where
  | unbalanced (region : Region.Unbalanced)
  | badPattern (pattern : Text) (cause : Pattern.Error)
  /-- Lines are to be cut at line breaks, and a line break is the empty text. -/
  | emptyNewline
deriving Repr, DecidableEq

def Fault.message : Fault → String
  | .unbalanced region => region.message
  | .badPattern pattern cause => cause.message pattern
  | .emptyNewline => "empty separator"

def Config.rules (cfg : Config) : Except Fault (List Macro.Rule) :=
  cfg.breaks.mapM fun b => (Macro.Rule.ofBreak b).mapError (.badPattern b.name)

namespace Macro

def cutLines (newline content : Text) : Except Fault (List Text) :=
  if newline.isEmpty then .error .emptyNewline else .ok (Text.splitOn newline content)

/-- A piece of a line, as a line. It is a comment if its own content is. -/
def pieceOf (l : Line) (piece : Text) : Line :=
  { l with content := piece, comment := Comment.isWhole piece }

/-- Breaks a line, unless it is blank, verbatim or a comment. -/
def breakLine (rules : List Rule) (newline : Text) (l : Line) : Except Fault (List Line) :=
  if l.isBlank || l.verbatim || l.comment then .ok [l]
  else do
    let pieces ← cutLines newline (insertBreaks rules newline l.content)
    return ((pieces.map Text.trim).filter (!·.isEmpty)).map (pieceOf l)

def breakLines (rules : List Rule) (newline : Text) (ls : List Line) :
    Except Fault (List Line) := do
  return (← ls.mapM (breakLine rules newline)).flatten

end Macro

end TexReflow
