import TexReflow.Pattern.Basic

/-!
# Matching

Backtracking in a fixed order: alternatives from left to right, copies as many or as few as possible
first. A matcher takes a place in the text and the rest of the match as a function; it recurses on
the pattern tree only. The number of characters ahead bounds the copies of a body, because a copy
that takes no character is not followed by another.
-/

namespace TexReflow.Pattern

/-- A place in a text, with the texts the groups have kept so far. -/
structure Place where
  /-- The characters before the place, the nearest first. -/
  before : Text
  after : Text
  ahead : Nat
  /-- The texts kept by groups, the latest first. -/
  kept : List (Nat × Text)
deriving Repr, DecidableEq

/-- The place between two texts, the first of them reversed. -/
def Place.between (before after : Text) : Place := ⟨before, after, after.length, []⟩

def Place.next? (p : Place) : Option (Char × Place) :=
  match p.after with
  | [] => none
  | c :: t => some (c, ⟨c :: p.before, t, p.ahead - 1, p.kept⟩)

def Place.back? (p : Place) : Nat → Option Place
  | 0 => some p
  | n + 1 =>
    match p.before with
    | [] => none
    | c :: t => Place.back? ⟨t, c :: p.after, p.ahead + 1, p.kept⟩ n

/-- The place behind the given text, if that text comes next; if an alphabet is given, without
regard to case in it. -/
def Place.past? (fold : Option Alphabet) : Text → Place → Option Place
  | [], p => some p
  | c :: t, p =>
    match p.next? with
    | none => none
    | some (d, q) =>
      if c = d || fold.any (fun a => a.lower c = a.lower d) then Place.past? fold t q else none

/-- A word character stands on exactly one side of the place. -/
def Place.splitsWord (p : Place) (alphabet : Alphabet) : Bool :=
  p.before.head?.any (Category.word.holds alphabet) !=
    p.after.head?.any (Category.word.holds alphabet)

def Anchor.holds (p : Place) : Anchor → Bool
  | .textStart => p.before.isEmpty
  | .lineStart => p.before.isEmpty || p.before.head? = some '\n'
  | .lastLineEnd => p.after.isEmpty || p.after = ['\n']
  | .lineEnd => p.after.isEmpty || p.after.head? = some '\n'
  | .textEnd => p.after.isEmpty
  | .wordBoundary alphabet => p.splitsWord alphabet
  | .wordInterior alphabet => !(p.before.isEmpty && p.after.isEmpty) && !p.splitsWord alphabet

/-- The rest of a match: from the place reached so far to the place where all of it ends. -/
abbrev Rest := Place → Option Place

/-- A way to go on from a place, given the rest of the match. -/
abbrev Step := Place → Rest → Option Place

def Step.exactly (body : Step) : Nat → Step
  | 0, p, k => k p
  | n + 1, p, k => body p fun q => Step.exactly body n q k

/-- Up to `n` further copies of a step. `last` is where the previous one began, seen as the number
of characters that were ahead; a copy that took none of them is the last. -/
def Step.upTo (body : Step) (greedy : Bool) : Nat → Option Nat → Step
  | 0, _, p, k => k p
  | n + 1, last, p, k =>
    if last = some p.ahead then k p
    else if greedy then
      (body p fun q => Step.upTo body greedy n (some p.ahead) q k) <|> k p
    else
      k p <|> body p fun q => Step.upTo body greedy n (some p.ahead) q k

/-- How many copies may follow the required ones at a place with `ahead` characters to come. -/
def furtherCopies (least : Nat) (most : Option Nat) (ahead : Nat) : Nat :=
  match most with
  | none => ahead + 1
  | some m => min (m - least) (ahead + 1)

def Node.step : Node → Step
  | .empty, p, k => k p
  | .one set, p, k =>
    match p.next? with
    | none => none
    | some (c, q) => if set.holds c then k q else none
  | .anchor place, p, k => if place.holds p then k p else none
  | .seq first second, p, k => first.step p fun q => second.step q k
  | .alt first second, p, k => first.step p k <|> second.step p k
  | .group index body, p, k =>
    body.step p fun q => k { q with kept := (index, p.after.take (p.ahead - q.ahead)) :: q.kept }
  | .recall index fold, p, k =>
    match p.kept.lookup index with
    | none => none
    | some t => (p.past? fold t).bind k
  | .ifKept index first second, p, k =>
    if (p.kept.lookup index).isSome then first.step p k else second.step p k
  | .copies least most greedy body, p, k =>
    Step.exactly body.step least p fun q =>
      Step.upTo body.step greedy (furtherCopies least most q.ahead) none q k
  | .atomic body, p, k => (body.step p some).bind k
  | .lookAhead wanted body, p, k =>
    match body.step p some with
    | some q => if wanted then k { p with kept := q.kept } else none
    | none => if wanted then none else k p
  | .lookBehind wanted width body, p, k =>
    match (p.back? width).bind fun q => body.step q some with
    | some q => if wanted then k { p with kept := q.kept } else none
    | none => if wanted then none else k p

section

variable (p : Place) (k : Rest)

@[simp] theorem Node.step_one (set : CharClass) :
    (Node.one set).step p k =
      match p.next? with
      | none => none
      | some (c, q) => if set.holds c then k q else none := rfl

@[simp] theorem Node.step_seq (first second : Node) :
    (Node.seq first second).step p k = first.step p fun q => second.step q k := rfl

@[simp] theorem Node.step_alt (first second : Node) :
    (Node.alt first second).step p k = (first.step p k <|> second.step p k) := rfl

@[simp] theorem Node.step_copies (least : Nat) (most : Option Nat) (greedy : Bool) (body : Node) :
    (Node.copies least most greedy body).step p k =
      Step.exactly body.step least p fun q =>
        Step.upTo body.step greedy (furtherCopies least most q.ahead) none q k := rfl

@[simp] theorem Node.step_lookAhead (wanted : Bool) (body : Node) :
    (Node.lookAhead wanted body).step p k =
      match body.step p some with
      | some q => if wanted then k { p with kept := q.kept } else none
      | none => if wanted then none else k p := rfl

end

/-- The number of characters a node takes between two texts, the first of them reversed. -/
def Node.span? (n : Node) (before after : Text) : Option Nat :=
  (n.step (.between before after) some).map fun q => after.length - q.ahead

/-- The node matches at this place or at a later one. -/
def Node.occursFrom (n : Node) : (ahead : Nat) → (before after : Text) → Bool
  | ahead, before, [] => (n.step ⟨before, [], ahead, []⟩ some).isSome
  | ahead, before, c :: t =>
    (n.step ⟨before, c :: t, ahead, []⟩ some).isSome || n.occursFrom (ahead - 1) (c :: before) t

end TexReflow.Pattern

namespace TexReflow

/-- The number of characters the pattern takes at the place between two texts, the first of them
reversed. The conditions of the pattern see both. -/
def Pattern.span? (p : Pattern) (before after : Text) : Option Nat := p.root.span? before after

def Pattern.occursIn (p : Pattern) (t : Text) : Bool := p.root.occursFrom t.length [] t

end TexReflow
