import TexReflow.Config.Basic

/-!
# Regions

A region runs from a line with an opening mark to the line with the closing mark that balances it,
both included. Regions nest.
-/

namespace TexReflow

/-- The pattern is given and matches somewhere in the text. -/
def Pattern.marks (p : Option Pattern) (t : Text) : Bool := p.any (·.occursIn t)

namespace Region

/-- Which lines lie inside a region, and how many regions are open at the end. -/
structure Scan where
  mask : List Bool
  depth : Nat
deriving Repr, DecidableEq

/-- A closing mark without an opening one: the number of its line, counted from one, and its
content. -/
structure Unbalanced where
  line : Nat
  content : Text
deriving Repr, DecidableEq

def Unbalanced.message (u : Unbalanced) : String :=
  s!"unbalanced region end marker at line {u.line}: {u.content.shown}"

/-- The scan from a line on, with `depth` regions open. -/
def scanFrom (m : Markers) : (depth line : Nat) → List Text → Except Unbalanced Scan
  | depth, _, [] => .ok ⟨[], depth⟩
  | depth, line, c :: cs =>
    let entered := if Pattern.marks m.opening c then depth + 1 else depth
    let cons (s : Scan) : Scan := ⟨(entered != 0) :: s.mask, s.depth⟩
    if Pattern.marks m.closing c then
      match entered with
      | 0 => .error ⟨line, c⟩
      | left + 1 => (scanFrom m left (line + 1) cs).map cons
    else (scanFrom m entered (line + 1) cs).map cons

/-- Finds the regions between contents of lines. -/
def scan (m : Markers) (contents : List Text) : Except Unbalanced Scan := scanFrom m 0 1 contents

/-- Without any mark there is nothing to look for. -/
def given (m : Markers) : Bool := m.opening.isSome || m.closing.isSome

def mark (m : Markers) (f : Line → Line) (ls : List Line) : Except Unbalanced (List Line) :=
  if !given m then .ok ls
  else do
    let s ← scan m (ls.map (·.content))
    return List.zipWith (fun l inside => if inside then f l else l) ls s.mask

def markVerbatim (cfg : Config) (ls : List Line) : Except Unbalanced (List Line) :=
  mark cfg.verbatim (fun l => { l with verbatim := true }) ls

def markMath (cfg : Config) (ls : List Line) : Except Unbalanced (List Line) :=
  mark cfg.math (fun l => { l with math := true }) ls

end Region

end TexReflow
