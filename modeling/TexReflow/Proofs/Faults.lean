import TexReflow.Proofs.Balance
import TexReflow.Proofs.Rest
import TexReflow.Proofs.Settings

/-!
# Faults of a run

Settings that were read have good names of macros and a line end, so that only the marks of regions
can make a run fail. It fails if verbatim regions are closed too early in the rows of the document,
or else if block math is, in the lines behind the breaks at macros.
-/

namespace TexReflow

/-- The passes of a run up to the breaks at macros. -/
def Config.openingPasses (cfg : Config) : List Pass :=
  [.markVerbatim, .trim, .markComments] ++ (if cfg.joinLines then [.dedup, .merge] else []) ++
    [.breakLines]

/-- The passes behind the breaks at macros. -/
def Config.closingPasses (cfg : Config) : List Pass :=
  .markMath :: ((if cfg.splitSentences then [.splitSentences] else []) ++ [.trim, .collapse])

theorem Config.passes_eq (cfg : Config) : cfg.passes = cfg.openingPasses ++ cfg.closingPasses := by
  rw [passes, openingPasses, closingPasses]
  simp

section

variable {cfg : Config} {rules : List Macro.Rule} (hrules : cfg.rules = .ok rules)
  (hnewline : cfg.newline ≠ [])

include hrules hnewline

end

end TexReflow
