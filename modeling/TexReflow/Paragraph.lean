import TexReflow.Region

/-!
# Paragraphs

Paragraphs are separated by blank lines. Of several blank lines one is enough, and the line breaks
inside a paragraph are soft: they can be removed.
-/

namespace TexReflow.Paragraph

/-- Drops blank lines that follow a blank line. The flag says that the line kept last is blank. -/
def dropBlanks : (blank : Bool) → List Line → List Line
  | _, [] => []
  | blank, l :: ls =>
    if l.isBlank && blank && !l.verbatim then dropBlanks blank ls
    else l :: dropBlanks l.isBlank ls

/-- Keeps one of several blank lines, and all verbatim ones. -/
def dedup (ls : List Line) : List Line := dropBlanks false ls

/-- The break between two lines is soft. What follows a comment would become part of it, so a line
with a comment is not continued, and a comment continues no line. -/
def canJoin (cfg : Config) (first second : Line) : Bool :=
  !(first.isBlank || second.isBlank || first.verbatim || second.verbatim ||
    Pattern.marks cfg.keepAfter first.content || Pattern.marks cfg.keepBefore second.content ||
    Comment.inside first.content || second.comment)

/-- One line from two, with what is known about the first. -/
def join (first second : Line) : Line :=
  first.withContent (first.content ++ ' ' :: second.content).trim

/-- Joins lines to the line read so far, as long as they can be joined. -/
def mergeFrom (cfg : Config) : Line → List Line → List Line
  | first, [] => [first]
  | first, second :: ls =>
    if canJoin cfg first second then mergeFrom cfg (join first second) ls
    else first :: mergeFrom cfg second ls

def merge (cfg : Config) : List Line → List Line
  | [] => []
  | l :: ls => mergeFrom cfg l ls

end TexReflow.Paragraph
