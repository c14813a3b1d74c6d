import TexReflow.Comment
import TexReflow.Macro.Argument
import TexReflow.Pattern.Match
import TexReflow.Pattern.Parse

/-!
# Macro rules

A rule names macros by a pattern and says on which side of an invocation a line break goes. An
invocation is a backslash that is not escaped, a name, and arguments; it also claims the character
before the backslash, so that no invocation directly follows another one.
-/

namespace TexReflow.Macro

inductive Side where
  | around
  | after
  | before
deriving Repr, DecidableEq

namespace Side

def word : Side → String
  | .around => "around"
  | .after => "after"
  | .before => "before"

def ofWord? (w : Text) : Option Side :=
  [around, after, before].find? fun s => s.word.toList = w

/-- The message for a word that stands for no side. -/
def unknownMessage (w : Text) : String := s!"{w.shown} is not a valid BreakMode"

def leads : Side → Bool
  | .around | .before => true
  | .after => false

def follows : Side → Bool
  | .around | .after => true
  | .before => false

end Side

/-- A line break asked for: the pattern of the macro name, as written, and the side. -/
structure Break where
  name : Text
  side : Side
deriving Repr, DecidableEq

/-- A break whose name pattern has been read. -/
structure Rule where
  name : Pattern
  side : Side
deriving Repr, DecidableEq

structure Invocation where
  /-- The offset of the first character claimed. -/
  start : Nat
  /-- The character before the backslash; empty at the start of the text only. -/
  lead : Text
  name : Text
  args : Text
deriving Repr, DecidableEq

namespace Invocation

def backslash (m : Invocation) : Nat := m.start + m.lead.length

def nameEnd (m : Invocation) : Nat := m.backslash + 1 + m.name.length

def stop (m : Invocation) : Nat := m.nameEnd + m.args.length

/-- The invocation with the line breaks of a side. -/
def render (side : Side) (newline : Text) (m : Invocation) : Text :=
  m.lead ++ (if side.leads then newline else []) ++ '\\' :: (m.name ++ m.args) ++
    (if side.follows then newline else [])

end Invocation

namespace Rule

def ofBreak (b : Break) : Except Pattern.Error Rule := do
  return ⟨← Pattern.parse b.name, b.side⟩

def shown (r : Rule) : String := s!"MacroRule({r.name.source.shown}, '{r.side.word}')"

/-- Longer names are looked for unless the pattern ends in an opening bracket or a backslash. -/
def hasGuard (r : Rule) : Bool :=
  match r.name.source.getLast? with
  | some c => !(c = '[' || c = '{' || c = '\\')
  | none => true

/-- The name goes on: the text behind it starts with a character that neither ends a name nor starts
an argument. -/
def continues (r : Rule) (behind : Text) : Bool :=
  r.hasGuard && behind.head?.any fun c => !(c = '\\' || Text.isSpace c || c = '[' || c = '{')

/-- The macro whose backslash is at `pos` has a longer name than the rule is for. Positions outside
of the text count as the nearest inside. -/
def isGuarded (r : Rule) (t : Text) (pos : Int) : Bool :=
  let i := min (pos + 1).toNat t.length
  match r.name.span? (t.take i).reverse (t.drop i) with
  | none => false
  | some n => r.continues (t.drop (i + n))

/-- The character that an invocation claims before its backslash. At the start of the text there is
none; elsewhere it must be free and no backslash. -/
def lead? (free : Bool) : (before : Text) → Option Text
  | [] => some []
  | c :: _ => if free && c != '\\' then some [c] else none

/-- The invocation whose backslash is the character `c` at offset `i`, between the reversed text
before it and the text behind it. `free` says that the character before is not claimed yet. -/
def invocation? (r : Rule) (free : Bool) (i : Nat) (before : Text) (c : Char) (behind : Text) :
    Option Invocation :=
  if c != '\\' then none
  else do
    let lead ← lead? free before
    let n ← r.name.span? (c :: before) behind
    let rest := behind.drop n
    return ⟨i - lead.length, lead, behind.take n, rest.take (argumentsLength rest)⟩

/-- The invocations from offset `i` on, between the reversed text before it and the text after it.
The counter is the part of an invocation still to be passed over. -/
def invocationsFrom (r : Rule) :
    (skip : Nat) → (free : Bool) → (i : Nat) → (before after : Text) → List Invocation
  | _, _, _, _, [] => []
  | skip + 1, _, i, before, c :: t => r.invocationsFrom skip false (i + 1) (c :: before) t
  | 0, free, i, before, c :: t =>
    match r.invocation? free i before c t with
    | some m =>
      m :: r.invocationsFrom (m.name.length + m.args.length) false (i + 1) (c :: before) t
    | none => r.invocationsFrom 0 true (i + 1) (c :: before) t

/-- The invocations of the rule's macros in a text, from left to right. -/
def invocations (r : Rule) (t : Text) : List Invocation := r.invocationsFrom 0 true 0 [] t

/-- Puts the given invocations in their rendered form back into the text, which starts at offset
`i`. -/
def splice (render : Invocation → Text) : (i : Nat) → Text → List Invocation → Text
  | _, t, [] => t
  | i, t, m :: ms =>
    t.take (m.start - i) ++ render m ++ splice render m.stop (t.drop (m.stop - i)) ms

/-- Breaks lines at every invocation whose name does not go on. -/
def apply (r : Rule) (newline t : Text) : Text :=
  let found := (r.invocations t).filter fun m => !r.continues (t.drop m.nameEnd)
  splice (Invocation.render r.side newline) 0 t found

end Rule

/-- Applies all rules, in order, to the content before the comment. -/
def insertBreaks (rules : List Rule) (newline content : Text) : Text :=
  let (text, comment) := Comment.split content
  rules.foldl (fun t r => r.apply newline t) text ++ comment

end TexReflow.Macro
