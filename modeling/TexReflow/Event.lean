import TexReflow.Pass

/-!
# Events

What a run reports about itself: the counts of each pass, and a warning for regions that are still
open at the end. Events are computed from the lines before and after a pass.
-/

namespace TexReflow

inductive Level where
  | debug
  | warning
deriving Repr, DecidableEq

def Level.word : Level → String
  | .debug => "DEBUG"
  | .warning => "WARNING"

inductive Region.Kind where
  | verbatim
  | math
deriving Repr, DecidableEq

def Region.Kind.word : Region.Kind → String
  | .verbatim => "verbatim"
  | .math => "math"

inductive Event where
  | settingsLoaded (breaks : Nat) (path : Text)
  | runStarted (lines rules : Nat)
  | regionsOpen (depth : Nat) (kind : Region.Kind)
  | regionLines (count : Nat) (kind : Region.Kind)
  | blanksDropped (count : Nat)
  | linesMerged (count : Nat)
  | breaksInserted (count : Int)
  | sentencesSplit (before after : Nat)
deriving Repr, DecidableEq

namespace Event

/-- Only open regions are worth a warning. -/
def level : Event → Level
  | .regionsOpen .. => .warning
  | _ => .debug

/-- The part of the program that reports the event. -/
def reporter : Event → String
  | .settingsLoaded .. => "latexbreak.config"
  | .runStarted .. => "latexbreak.pipeline"
  | .regionsOpen .. | .regionLines .. => "latexbreak.regions"
  | .blanksDropped _ | .linesMerged _ => "latexbreak.paragraphs"
  | .breaksInserted _ => "latexbreak.linebreaks"
  | .sentencesSplit .. => "latexbreak.sentences"

def text : Event → String
  | .settingsLoaded breaks path => s!"Loaded {breaks} macro rules from {String.ofList path}"
  | .runStarted lines rules => s!"Processing {lines} lines with {rules} macro rules"
  | .regionsOpen depth kind => s!"{depth} {kind.word} region(s) still open at end of document"
  | .regionLines count kind => s!"{count} lines inside {kind.word} regions"
  | .blanksDropped count => s!"Dropped {count} duplicate blank lines"
  | .linesMerged count => s!"Merged {count} soft line breaks"
  | .breaksInserted count => s!"Inserted {count} line breaks"
  | .sentencesSplit before after => s!"Sentence split: {before} -> {after} lines"

def logLine (e : Event) : String := s!"{e.level.word} {e.reporter}: {e.text}"

end Event

/-- What is reported about the regions between given marks. -/
def Region.report (kind : Region.Kind) (m : Markers) (ls : List Line) : List Event :=
  if !Region.given m then []
  else
    match Region.scan m (ls.map (·.content)) with
    | .error _ => []
    | .ok s =>
      (if s.depth = 0 then [] else [.regionsOpen s.depth kind]) ++
        [.regionLines (s.mask.count true) kind]

/-- What a pass that has turned the lines `before` into the lines `after` reports. -/
def Pass.report (cfg : Config) (p : Pass) (before after : List Line) : List Event :=
  match p with
  | .markVerbatim => Region.report .verbatim cfg.verbatim before
  | .markMath => Region.report .math cfg.math before
  | .dedup =>
    if before.length = after.length then [] else [.blanksDropped (before.length - after.length)]
  | .merge => [.linesMerged (before.length - after.length)]
  | .breakLines => [.breaksInserted ((after.length : Int) - before.length)]
  | .splitSentences => [.sentencesSplit before.length after.length]
  | .trim | .markComments | .collapse => []

/-- What passes report one after the other, up to the first that fails. -/
def Pass.reportAll (cfg : Config) : List Pass → List Line → List Event
  | [], _ => []
  | p :: ps, ls =>
    match p.apply cfg ls with
    | .error _ => []
    | .ok after => p.report cfg ls after ++ Pass.reportAll cfg ps after

end TexReflow
