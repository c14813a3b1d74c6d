import TexReflow.Line

/-!
# Comments

A percent sign starts a comment that runs to the end of the content, unless a backslash stands
directly before it.
-/

namespace TexReflow.Comment

/-- The cut before the comment. The flag says that a backslash came directly before. -/
def splitFrom : (escaped : Bool) → Text → Text × Text
  | _, [] => ([], [])
  | escaped, c :: t =>
    if c = '%' && !escaped then ([], c :: t)
    else
      let (text, comment) := splitFrom (c = '\\') t
      (c :: text, comment)

/-- The content before the comment, and the comment with its percent sign. -/
def split (content : Text) : Text × Text := splitFrom false content

def inside (content : Text) : Bool := !(split content).2.isEmpty

def isWhole (content : Text) : Bool := content.trim.head? = some '%'

/-- Marks the line if it is a comment. A mark that is there stays. -/
def mark (l : Line) : Line := { l with comment := l.comment || isWhole l.content }

end TexReflow.Comment
