import TexReflow.Pattern.Basic
import TexReflow.Pattern.Error

/-!
# Half-read patterns

What is known of a pattern while its text is read: the parts of the current alternative, the open
groups around it on a stack, the groups found so far, and the flags that are on. A finished part
carries its tree, the number of characters it can take, and what is wrong with it as a whole; that
is reported only for a pattern without any other error.
-/

namespace TexReflow.Pattern

inductive Flag where
  | ascii
  | ignoreCase
  | locale
  | multiline
  | dotAll
  | template
  | unicode
  | verbose
deriving Repr, DecidableEq

namespace Flag

def ofChar? : Char → Option Flag
  | 'a' => some .ascii
  | 'i' => some .ignoreCase
  | 'L' => some .locale
  | 'm' => some .multiline
  | 's' => some .dotAll
  | 't' => some .template
  | 'u' => some .unicode
  | 'x' => some .verbose
  | _ => none

/-- The flags that choose an alphabet. -/
def isAlphabet (f : Flag) : Bool := f = .ascii || f = .locale || f = .unicode

end Flag

/-- The flags that are on. -/
abbrev Flags := List Flag

namespace Flags

def alphabet (fs : Flags) : Alphabet := if fs.contains .ascii then .ascii else .unicode

/-- Turns flags on and off. A new alphabet takes the place of the old one. -/
def change (fs on off : Flags) : Flags :=
  let kept := if on.any Flag.isAlphabet then fs.filter (!·.isAlphabet) else fs
  (on ++ kept).filter (!off.contains ·)

/-- The class of the given entries. Where the cases of ASCII letters alone do not count, it has the
entries for all of them. -/
def charClass (fs : Flags) (members : List Member) (inverted : Bool) : CharClass :=
  if !fs.contains .ignoreCase then ⟨members, inverted, false⟩
  else
    match fs.alphabet with
    | .ascii => ⟨members.flatMap Member.withAsciiCases, inverted, false⟩
    | .unicode => ⟨members, inverted, true⟩

end Flags

/-- The least and the largest number of characters a part of a pattern can take. -/
structure Width where
  least : Nat
  most : Option Nat
deriving Repr, DecidableEq

namespace Width

/-- The width of parts that take exactly `n` characters. -/
def exactly (n : Nat) : Width := ⟨n, some n⟩

def add (v w : Width) : Width :=
  ⟨v.least + w.least, do return (← v.most) + (← w.most)⟩

def union (v w : Width) : Width :=
  ⟨min v.least w.least, do return max (← v.most) (← w.most)⟩

def copies (least : Nat) (most : Option Nat) (w : Width) : Width :=
  ⟨w.least * least,
    if w.most = some 0 || most = some 0 then some 0 else do return (← w.most) * (← most)⟩

/-- How far a look-behind can look. -/
def maxReach : Nat := 4294967295

/-- What is wrong with a look-behind at a part of this width. -/
def fault? (w : Width) : Option Fault :=
  if maxReach < w.least then some .farLookBehind
  else if w.most = some w.least then none
  else some .varyingLookBehind

end Width

/-- How a finished part stands to a quantifier behind it. -/
inductive Item.Role where
  | repeatable
  | place
  | repeated
deriving Repr, DecidableEq

structure Item where
  node : Node
  width : Width
  role : Item.Role := .repeatable
  /-- The first thing that is wrong with the part as a whole. -/
  fault : Option Fault := none
deriving Repr, DecidableEq

/-- The alternatives being read: the finished ones and the parts of the current one, latest first.
-/
structure Draft where
  branches : List Item := []
  items : List Item := []
deriving Repr, DecidableEq

namespace Draft

def joinItems (items : List Item) : Item :=
  items.foldl (fun tail i =>
    { node := if tail.node = .empty then i.node else .seq i.node tail.node
      width := i.width.add tail.width
      fault := i.fault <|> tail.fault })
    { node := .empty, width := .exactly 0 }

def nextBranch (d : Draft) : Draft := ⟨joinItems d.items :: d.branches, []⟩

/-- The part that the draft has become when it ends. -/
def finish (d : Draft) : Item :=
  d.branches.foldl (fun tail b =>
    { node := .alt b.node tail.node
      width := b.width.union tail.width
      fault := b.fault <|> tail.fault })
    (joinItems d.items)

/-- The part that the draft has become when it ends, if its alternatives are those for a group that
has kept a text and for one that has not. -/
def finishCondition (index : Nat) (d : Draft) : Item :=
  let last := joinItems d.items
  let (first, second) : Item × Item :=
    match d.branches with
    | [] => (last, { node := .empty, width := .exactly 0 })
    | b :: _ => (b, last)
  { node := .ifKept index first.node second.node
    width := first.width.union second.width
    fault := first.fault <|> second.fault }

def push (d : Draft) (i : Item) : Draft := { d with items := i :: d.items }

end Draft

inductive Opening where
  | capture (index : Nat)
  | plain
  | atomic
  | lookAhead (wanted : Bool)
  | lookBehind (wanted : Bool)
  | condition (index : Nat)
deriving Repr, DecidableEq

/-- An open parenthesis: its kind, its offset, the number of groups before it, the flags around it,
and the alternatives it interrupts. -/
structure Frame where
  opening : Opening
  offset : Nat
  groupsBefore : Nat
  flags : Flags
  draft : Draft
deriving Repr, DecidableEq

/-- A numbered group. Its width is known once it is closed. -/
structure Group where
  name : Option Text
  width : Option Width
deriving Repr, DecidableEq

/-- What has been found so far. -/
structure Reading where
  draft : Draft := {}
  frames : List Frame := []
  groups : List Group := []
  flags : Flags := []
  /-- The groups that conditions name by number, which may come later, and the offsets. -/
  awaited : List (Nat × Nat) := []
deriving Repr, DecidableEq

/-- The result of reading, or the error that ended it. -/
abbrev Outcome := Except Error

def fail {α : Type} (fault : Fault) (offset : Nat) : Outcome α :=
  .error (.malformed ⟨fault, some offset⟩)

def refuse {α : Type} (cause : Refusal) : Outcome α := .error (.refused cause)

namespace Reading

def push (r : Reading) (i : Item) : Reading := { r with draft := r.draft.push i }

/-- Adds a part that takes one character of a class. -/
def pushClass (r : Reading) (members : List Member) (inverted : Bool) : Reading :=
  r.push { node := .one (r.flags.charClass members inverted), width := .exactly 1 }

def pushAnchor (r : Reading) (a : Anchor) : Reading :=
  r.push { node := .anchor a, width := .exactly 0, role := .place }

def pushChar (r : Reading) (c : Char) : Reading := r.pushClass [.single c] false

def pushCode (r : Reading) (n : Nat) : Reading := r.pushClass [.range n n] false

def openFrame (r : Reading) (opening : Opening) (offset : Nat) : Reading :=
  let f : Frame := ⟨opening, offset, r.groups.length, r.flags, r.draft⟩
  { r with draft := {}, frames := f :: r.frames }

def openGroup (r : Reading) (name : Option Text) (offset : Nat) : Reading :=
  let r' : Reading := { r with groups := r.groups ++ [⟨name, none⟩] }
  r'.openFrame (.capture r'.groups.length) offset

def closeFrame (r : Reading) (f : Frame) (outer : List Frame) : Reading :=
  let body := r.draft.finish
  let back : Reading := { r with draft := f.draft, frames := outer, flags := f.flags }
  match f.opening with
  | .plain => back.push body
  | .atomic => back.push { body with node := .atomic body.node }
  | .capture index =>
    let closed := r.groups.modify (index - 1) fun g => { g with width := some body.width }
    { back with groups := closed }.push { body with node := .group index body.node }
  | .lookAhead wanted =>
    back.push { body with node := .lookAhead wanted body.node, width := .exactly 0 }
  | .lookBehind wanted =>
    back.push
      { body with
        node := .lookBehind wanted body.width.least body.node
        width := .exactly 0
        fault := body.width.fault? <|> body.fault }
  | .condition index => back.push (r.draft.finishCondition index)

def named? (r : Reading) (name : Text) : Option Nat :=
  (r.groups.findIdx? (·.name = some name)).map (· + 1)

/-- The width of a group that is closed. -/
def closedWidth? (r : Reading) (index : Nat) : Option Width :=
  r.groups[index - 1]?.bind (·.width)

/-- The number of groups before the outermost look-behind that is open. -/
def groupsBehind? (r : Reading) : Option Nat :=
  let behind (f : Frame) := f.opening = .lookBehind true || f.opening = .lookBehind false
  (r.frames.reverse.find? behind).map (·.groupsBefore)

/-- Inside a look-behind only closed groups before it can be named. -/
def checkBehind (r : Reading) (index tell : Nat) : Outcome Unit :=
  match r.groupsBehind? with
  | none => pure ()
  | some before =>
    if (r.closedWidth? index).isNone then fail .openReference tell
    else if before < index then fail .referenceBehind tell
    else pure ()

/-- Adds a reference to a group. Only closed groups can be referred to. -/
def refer (r : Reading) (index offset tell : Nat) : Outcome Reading :=
  match r.closedWidth? index with
  | none => fail .openReference offset
  | some width => do
    r.checkBehind index tell
    let fold := if r.flags.contains .ignoreCase then some r.flags.alphabet else none
    return r.push { node := .recall index fold, width }

/-- No more than one alphabet is chosen. -/
def checkAlphabet (r : Reading) : Outcome Unit :=
  if r.flags.contains .ascii && r.flags.contains .unicode then refuse .twoAlphabets else pure ()

/-- The tree that a pattern has become, once all of it is read. -/
def root (r : Reading) : Outcome Node :=
  match r.frames with
  | f :: _ => fail .unterminatedGroup f.offset
  | [] => do
    r.checkAlphabet
    if let some (index, offset) := r.awaited.find? (r.groups.length < ·.1) then
      fail (.invalidReference index) offset
    let whole := r.draft.finish
    match whole.fault with
    | some fault => .error (.malformed ⟨fault, none⟩)
    | none => return whole.node

end Reading

end TexReflow.Pattern
