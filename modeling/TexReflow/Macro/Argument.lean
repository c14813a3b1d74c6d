import TexReflow.Text.Basic

/-!
# Arguments

The arguments of a macro are a run of balanced groups in curly or square brackets. Each kind of
bracket is balanced on its own; brackets of the other kind are plain text.
-/

namespace TexReflow.Macro

def closer? (c : Char) : Option Char :=
  match c with
  | '{' => some '}'
  | '[' => some ']'
  | _ => none

/-- The number of characters up to the bracket that closes the last of `depth` open groups. -/
def closeLength? (opener closer : Char) : (depth : Nat) → Text → Option Nat
  | _, [] => none
  | depth, c :: t =>
    if c = opener then (closeLength? opener closer (depth + 1) t).map (· + 1)
    else if c = closer then
      if depth ≤ 1 then some 1 else (closeLength? opener closer (depth - 1) t).map (· + 1)
    else (closeLength? opener closer depth t).map (· + 1)

/-- The length of the balanced group at the start of a text. -/
def groupLength? (t : Text) : Option Nat :=
  match t with
  | [] => none
  | c :: _ =>
    match closer? c with
    | none => none
    | some d => closeLength? c d 0 t

/-- The run behind `argumentsLength`. The counter is the part of a group still to be passed over. -/
def argumentsFrom : (skip : Nat) → Text → Nat
  | _, [] => 0
  | skip + 1, _ :: t => argumentsFrom skip t + 1
  | 0, c :: t =>
    match groupLength? (c :: t) with
    | none => 0
    | some n => argumentsFrom (n - 1) t + 1

/-- The length of the longest run of balanced groups at the start of a text. -/
def argumentsLength (t : Text) : Nat := argumentsFrom 0 t

/-- What is read from a position on. A negative position counts from the end, and reading goes on at
the start of the text behind the end; a position before the start has no meaning. -/
def readFrom? (t : Text) (pos : Int) : Option Text :=
  if 0 ≤ pos then some (t.drop pos.toNat)
  else if pos < -(t.length : Int) then none
  else some (t.drop (t.length - (-pos).toNat) ++ t)

inductive PositionError where
  | beforeStart
deriving Repr, DecidableEq

def PositionError.message : PositionError → String
  | .beforeStart => "string index out of range"

/-- The position behind the balanced group that opens at `pos`, if one does. -/
def groupEnd (t : Text) (pos : Int) : Except PositionError (Option Int) :=
  match readFrom? t pos with
  | none => .error .beforeStart
  | some u => .ok ((groupLength? u).map (pos + ·))

/-- The position behind the run of balanced groups that starts at `pos`. -/
def argumentsEnd (t : Text) (pos : Int) : Except PositionError Int :=
  match readFrom? t pos with
  | none => .error .beforeStart
  | some u => .ok (pos + argumentsLength u)

end TexReflow.Macro
