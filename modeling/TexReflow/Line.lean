import TexReflow.Text.Rows

/-!
# Lines

A document is a list of lines. A line carries, besides its content, what is known about it: whether
it belongs to a verbatim region or to block math, and whether it is a comment.
-/

namespace TexReflow

structure Line where
  content : Text
  /-- The line stands in a verbatim region; no pass changes its content. -/
  verbatim : Bool := false
  /-- The line stands in block math; it is not cut into sentences. -/
  math : Bool := false
  comment : Bool := false
deriving Repr, DecidableEq

namespace Line

/-- A row of a document as a line about which nothing is known yet. -/
def ofRow (row : Text) : Line := { content := row }

def isBlank (l : Line) : Bool := l.content.isBlank

def withContent (l : Line) (content : Text) : Line := { l with content }

/-- The line without white space at its ends, unless it is verbatim. -/
def trim (l : Line) : Line := if l.verbatim then l else l.withContent l.content.trim

/-- The line with single spaces, unless it is verbatim. -/
def collapse (l : Line) : Line := if l.verbatim then l else l.withContent l.content.collapse

/-- The contents of lines, each closed by `newline`. -/
def join (newline : Text) (ls : List Line) : Text := Text.unrows newline (ls.map (·.content))

end Line

end TexReflow
