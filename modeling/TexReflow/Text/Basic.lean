/-!
# Texts

A text is a list of code points. This module holds the operations every other part uses: sets of
code points, white space, trimming, cutting at a separator, and the single-space form.
-/

namespace TexReflow

/-- A text, read code point by code point. -/
abbrev Text := List Char

namespace Text

/-- A code point lies in one of several closed ranges, each a pair of its first and last member. -/
def inRanges (ranges : List (Nat × Nat)) (n : Nat) : Bool :=
  ranges.any fun (lo, hi) => lo ≤ n && n ≤ hi

/-- White space: the controls that separate lines, words and records, and every space separator. -/
def isSpace (c : Char) : Bool :=
  let n := c.toNat
  (9 ≤ n && n ≤ 13) || (28 ≤ n && n ≤ 32) || n == 0x85 || n == 0xA0 || n == 0x1680 ||
    (0x2000 ≤ n && n ≤ 0x200A) || n == 0x2028 || n == 0x2029 || n == 0x202F || n == 0x205F ||
    n == 0x3000

/-- A text of white space only. The empty text is blank. -/
def isBlank (t : Text) : Bool := t.all isSpace

def trimLeft (t : Text) : Text := t.dropWhile isSpace

def trimRight (t : Text) : Text := (t.reverse.dropWhile isSpace).reverse

def trim (t : Text) : Text := (t.trimLeft).trimRight

/-- Puts a code point in front of the first row; without any row it starts one. -/
def consHead (c : Char) : List Text → List Text
  | [] => [[c]]
  | r :: rs => (c :: r) :: rs

/-- The cut behind `splitOn`. The counter is the part of a separator still to be passed over. -/
def splitFrom (sep : Text) : Nat → Text → List Text
  | _, [] => [[]]
  | n + 1, _ :: t => splitFrom sep n t
  | 0, c :: t =>
    if sep.isPrefixOf (c :: t) then [] :: splitFrom sep (sep.length - 1) t
    else consHead c (splitFrom sep 0 t)

/-- The pieces between the occurrences of a non-empty separator, found from the left and without
overlap. There is one piece more than there are occurrences. -/
def splitOn (sep t : Text) : List Text := splitFrom sep 0 t

/-- The text before the first `c` and the text after it. -/
def cutAt? (c : Char) : Text → Option (Text × Text)
  | [] => none
  | d :: t => if d = c then some ([], t) else (cutAt? c t).map fun (a, b) => (d :: a, b)

/-- Every run of plain spaces becomes one space. Other white space stays. -/
def collapse : Text → Text
  | [] => []
  | [c] => [c]
  | c :: d :: t => if c = ' ' ∧ d = ' ' then collapse (d :: t) else c :: collapse (d :: t)

def lower (t : Text) : Text := t.map Char.toLower

end Text

end TexReflow
