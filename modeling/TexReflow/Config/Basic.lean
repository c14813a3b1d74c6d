import TexReflow.Macro.Rule

/-!
# Settings

What a run can be told: the macros to break lines at, what to join and what to cut, how regions are
marked, and how sentences end.
-/

namespace TexReflow

/-- A pair of patterns that mark where a region begins and where it ends. A pattern that is not
given never matches. -/
structure Markers where
  opening : Option Pattern := none
  closing : Option Pattern := none
deriving Repr, DecidableEq

structure Config where
  /-- The macros to break lines at, in the order in which their rules apply. -/
  breaks : List Macro.Break := []
  joinLines : Bool := true
  splitSentences : Bool := true
  /-- Regions that are left as they are. -/
  verbatim : Markers := {}
  /-- Regions that are not cut into sentences. -/
  math : Markers := {}
  /-- Parts of a line in which no sentence ends. -/
  inlineMath : Markers := {}
  /-- Lines whose end is kept when lines are joined. -/
  keepAfter : Option Pattern := none
  /-- Lines whose start is kept when lines are joined. -/
  keepBefore : Option Pattern := none
  /-- The characters that end a sentence. An entry that is no single character never does. -/
  lineEnds : List Text := [['.'], ['!'], ['?']]
  /-- A line to put between sentences. The empty line counts as none. -/
  separator : Option Text := none
  /-- What ends a line of the result. -/
  newline : Text := ['\n']
deriving Repr, DecidableEq

namespace Config

def isLineEnd (cfg : Config) (c : Char) : Bool := cfg.lineEnds.contains [c]

/-- The line to put between sentences, if there is one. -/
def separator? (cfg : Config) : Option Text :=
  match cfg.separator with
  | some [] => none
  | s => s

end Config

end TexReflow
