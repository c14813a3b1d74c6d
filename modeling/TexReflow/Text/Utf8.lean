import TexReflow.Text.Quoted

/-!
# UTF-8

Texts as octets. Decoding goes octet by octet and stops at the first one that cannot continue a
well-formed text; the error says where the character in question starts and how far it was read.
-/

namespace TexReflow.Text.Utf8

def encode (t : Text) : List UInt8 := t.flatMap String.utf8EncodeChar

/-- Why octets are no text. -/
inductive Reason where
  | invalidStart
  | invalidContinuation
  | unexpectedEnd
deriving Repr, DecidableEq

def Reason.text : Reason → String
  | .invalidStart => "invalid start byte"
  | .invalidContinuation => "invalid continuation byte"
  | .unexpectedEnd => "unexpected end of data"

/-- An error at the octets from `start` up to `stop`, the first of which is `lead`. -/
structure Error where
  lead : UInt8
  start : Nat
  stop : Nat
  reason : Reason
deriving Repr, DecidableEq

def Error.message (e : Error) : String :=
  if e.stop ≤ e.start + 1 then
    let octet := String.ofList (hex 2 e.lead.toNat)
    s!"'utf-8' codec can't decode byte 0x{octet} in position {e.start}: {e.reason.text}"
  else
    let last := e.stop - 1
    s!"'utf-8' codec can't decode bytes in position {e.start}-{last}: {e.reason.text}"

/-- A character of which some octets are still owed. -/
structure Pending where
  /-- The first octet and its offset. -/
  lead : UInt8
  start : Nat
  /-- The number of octets to come after the next one. -/
  owed : Nat
  /-- The bounds of the next octet. -/
  low : UInt8
  high : UInt8
  value : Nat
deriving Repr, DecidableEq

/-- What the first octet of a character of several octets says. Forms that are longer than needed,
surrogates and values beyond the last code point are excluded by the bounds of the second octet. -/
def Pending.ofLead? (i : Nat) (b : UInt8) : Option Pending :=
  if b < 0xC2 then none
  else if b < 0xE0 then some ⟨b, i, 0, 0x80, 0xBF, b.toNat - 0xC0⟩
  else if b < 0xF0 then
    some ⟨b, i, 1, if b = 0xE0 then 0xA0 else 0x80, if b = 0xED then 0x9F else 0xBF, b.toNat - 0xE0⟩
  else if b < 0xF5 then
    some ⟨b, i, 2, if b = 0xF0 then 0x90 else 0x80, if b = 0xF4 then 0x8F else 0xBF, b.toNat - 0xF0⟩
  else none

def decodeFrom : (i : Nat) → Option Pending → List UInt8 → Except Error Text
  | _, none, [] => .ok []
  | i, some p, [] => .error ⟨p.lead, p.start, i, .unexpectedEnd⟩
  | i, none, b :: bs =>
    if b < 0x80 then do return Char.ofNat b.toNat :: (← decodeFrom (i + 1) none bs)
    else
      match Pending.ofLead? i b with
      | none => .error ⟨b, i, i + 1, .invalidStart⟩
      | some p => decodeFrom (i + 1) (some p) bs
  | i, some p, b :: bs =>
    if b < p.low || p.high < b then .error ⟨p.lead, p.start, i, .invalidContinuation⟩
    else
      let value := p.value * 64 + (b.toNat - 0x80)
      match p.owed with
      | 0 => do return Char.ofNat value :: (← decodeFrom (i + 1) none bs)
      | owed + 1 => decodeFrom (i + 1) (some ⟨p.lead, p.start, owed, 0x80, 0xBF, value⟩) bs

def decode (octets : List UInt8) : Except Error Text := decodeFrom 0 none octets

end TexReflow.Text.Utf8
