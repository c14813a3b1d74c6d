import TexReflow.Text.Basic

/-!
# Paths

A path is a root, empty for a relative path, and its parts. Empty parts and single dots say nothing
and are left out; double dots are kept.
-/

namespace TexReflow.Command

structure Path where
  root : Text
  parts : List Text
deriving Repr, DecidableEq

namespace Path

/-- The root of a written path: two slashes are a root of their own, any other number of them is
one. -/
def rootOf (t : Text) : Text :=
  match (t.takeWhile (· = '/')).length with
  | 0 => []
  | 2 => ['/', '/']
  | _ => ['/']

def ofText (t : Text) : Path :=
  ⟨rootOf t, (Text.splitOn ['/'] t).filter fun part => !(part = [] || part = ['.'])⟩

def text (p : Path) : Text :=
  if p.root.isEmpty && p.parts.isEmpty then ['.']
  else p.root ++ (p.parts.intersperse ['/']).flatten

def child (p : Path) (part : Text) : Path := { p with parts := p.parts ++ [part] }

/-- A home directory as it is written. Slashes at its end say nothing, and without anything else it
is the root. -/
def ofHome (t : Text) : Path :=
  match (t.reverse.dropWhile (· = '/')).reverse with
  | [] => ofText ['/']
  | dir => ofText dir

/-- A relative path that starts with a tilde and the name of an account continues the account's home
directory, which must be known and must not start with a tilde itself. -/
def expand? (home? : Text → Option Text) (p : Path) : Option Path :=
  match p.root, p.parts with
  | [], ('~' :: name) :: parts => do
    let home ← home? name
    if home.head? = some '~' then none
    else some { ofHome home with parts := (ofHome home).parts ++ parts }
  | _, _ => some p

end Path

end TexReflow.Command
