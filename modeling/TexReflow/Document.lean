import TexReflow.Event

/-!
# Documents

The run over a whole document, from rows to lines and from text to text, and what it reports.
-/

namespace TexReflow

namespace Config

/-- Runs all passes over the rows of a document. The rules are read first, so that a bad one is
reported for every document. -/
def run (cfg : Config) (rows : List Text) : Except Fault (List Line) := do
  let _ ← cfg.rules
  Pass.applyAll cfg cfg.passes (rows.map Line.ofRow)

/-- The text that the rows of a document become. -/
def processRows (cfg : Config) (rows : List Text) : Except Fault Text := do
  return Line.join cfg.newline (← cfg.run rows)

def process (cfg : Config) (document : Text) : Except Fault Text := cfg.processRows document.rows

def report (cfg : Config) (rows : List Text) : List Event :=
  match cfg.rules with
  | .error _ => []
  | .ok rules =>
    .runStarted rows.length rules.length ::
      Pass.reportAll cfg cfg.passes (rows.map Line.ofRow)

end Config

end TexReflow
