import TexReflow.Text.Basic

/-!
# Rows

Cutting a text into rows and writing rows back. A carriage return followed by a line feed is one
break, and a break at the end of the text starts no further row.
-/

namespace TexReflow.Text

/-- The two code points that end a row of a document. -/
def isRowBreak (c : Char) : Bool := c == '\n' || c == '\r'

/-- The code points that end a line of a settings text: besides the row breaks the vertical tab,
the form feed, three of the information separators, the next-line control and the two Unicode
separators. -/
def isLineBreak (c : Char) : Bool :=
  let n := c.toNat
  (10 ≤ n && n ≤ 13) || (28 ≤ n && n ≤ 30) || n == 0x85 || n == 0x2028 || n == 0x2029

/-- The rows of a text whose breaks are the code points satisfying `isBreak`. -/
def rowsBy (isBreak : Char → Bool) : Text → List Text
  | [] => []
  | '\r' :: '\n' :: t => [] :: rowsBy isBreak t
  | c :: t => if isBreak c then [] :: rowsBy isBreak t else consHead c (rowsBy isBreak t)

def rows (t : Text) : List Text := rowsBy isRowBreak t

def lines (t : Text) : List Text := rowsBy isLineBreak t

/-- Rows written one after the other, each closed by `newline`. -/
def unrows (newline : Text) (rs : List Text) : Text := rs.flatMap (· ++ newline)

/-- Every row break written as a line feed. -/
def unifyBreaks : Text → Text
  | [] => []
  | '\r' :: '\n' :: t => '\n' :: unifyBreaks t
  | c :: t => (if c = '\r' then '\n' else c) :: unifyBreaks t

end TexReflow.Text
