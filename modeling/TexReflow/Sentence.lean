import TexReflow.Config.Basic

/-!
# Sentences

A sentence ends at a line-end character with a space behind it, outside of inline math. Inline math
runs from a match of its opening mark to the next match of its closing mark; both are looked for at
each character, as if the text started there, and an empty match counts as none.
-/

namespace TexReflow.Sentence

/-- The number of characters a mark takes at the start of a text. -/
def markLength (p : Option Pattern) (t : Text) : Nat := (p.bind (·.span? [] t)).getD 0

/-- The content cut behind each sentence end. The counter is the part of a mark still to be passed
over. The last segment has no sentence end. -/
def segmentsFrom (cfg : Config) : (skip : Nat) → (math : Bool) → Text → List Text
  | _, _, [] => [[]]
  | skip + 1, math, c :: t => Text.consHead c (segmentsFrom cfg skip math t)
  | 0, true, c :: t =>
    match markLength cfg.inlineMath.closing (c :: t) with
    | 0 => Text.consHead c (segmentsFrom cfg 0 true t)
    | n + 1 => Text.consHead c (segmentsFrom cfg n false t)
  | 0, false, c :: t =>
    match markLength cfg.inlineMath.opening (c :: t) with
    | 0 =>
      if cfg.isLineEnd c && t.head? = some ' ' then [c] :: segmentsFrom cfg 0 false t
      else Text.consHead c (segmentsFrom cfg 0 false t)
    | n + 1 => Text.consHead c (segmentsFrom cfg n true t)

def segments (cfg : Config) (content : Text) : List Text := segmentsFrom cfg 0 false content

/-- The separator as a line of its own next to the line `l`. -/
def separatorLine (l : Line) (separator : Text) : Line :=
  { l with content := separator, comment := Comment.isWhole separator }

/-- A sentence that has ended, with the separator that follows it. -/
def ended (cfg : Config) (l : Line) (segment : Text) : List Line :=
  l.withContent segment.trim :: (cfg.separator?.map (separatorLine l)).toList

/-- Cuts a line into sentences. If nothing but white space is left behind the last sentence end, the
separator there is taken back. -/
def split (cfg : Config) (l : Line) : List Line :=
  let segs := segments cfg l.content
  let done := segs.dropLast.flatMap (ended cfg l)
  let rest := segs.getLast?.getD []
  if !rest.isBlank then done ++ [l.withContent rest.trim]
  else if cfg.separator?.isSome then done.dropLast
  else done

def skips (l : Line) : Bool := l.verbatim || l.math || l.isBlank || l.comment

def splitAll (cfg : Config) (ls : List Line) : List Line :=
  ls.flatMap fun l => if skips l then [l] else split cfg l

end TexReflow.Sentence
