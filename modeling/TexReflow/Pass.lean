import TexReflow.Macro.Break
import TexReflow.Paragraph
import TexReflow.Sentence

/-!
# Passes

A run is a sequence of passes over the lines of a document. Passes can be taken in any order; the
settings decide which of them a run has.
-/

namespace TexReflow

inductive Pass where
  | markVerbatim
  | trim
  | markComments
  | dedup
  | merge
  | breakLines
  | markMath
  | splitSentences
  | collapse
deriving Repr, DecidableEq

def Pass.apply (cfg : Config) (p : Pass) (ls : List Line) : Except Fault (List Line) :=
  match p with
  | .markVerbatim => (Region.markVerbatim cfg ls).mapError .unbalanced
  | .trim => .ok (ls.map Line.trim)
  | .markComments => .ok (ls.map Comment.mark)
  | .dedup => .ok (Paragraph.dedup ls)
  | .merge => .ok (Paragraph.merge cfg ls)
  | .breakLines => do Macro.breakLines (← cfg.rules) cfg.newline ls
  | .markMath => (Region.markMath cfg ls).mapError .unbalanced
  | .splitSentences => .ok (Sentence.splitAll cfg ls)
  | .collapse => .ok (ls.map Line.collapse)

/-- The passes of a run, in order. -/
def Config.passes (cfg : Config) : List Pass :=
  [.markVerbatim, .trim, .markComments] ++ (if cfg.joinLines then [.dedup, .merge] else []) ++
    [.breakLines, .markMath] ++ (if cfg.splitSentences then [.splitSentences] else []) ++
    [.trim, .collapse]

def Pass.applyAll (cfg : Config) (ps : List Pass) (ls : List Line) : Except Fault (List Line) :=
  ps.foldlM (fun ls p => p.apply cfg ls) ls

end TexReflow
