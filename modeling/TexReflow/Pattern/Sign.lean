import TexReflow.Pattern.Reading

/-!
# Signs of a pattern

A pattern is read sign by sign. A sign is a character, or a backslash with the character it escapes;
the digits of a numeric escape belong to its sign.
-/

namespace TexReflow.Pattern

inductive Sign.Kind where
  | plain (c : Char)
  | escape (c : Char)
  /-- A backslash, a letter or zero, and the digits found of a code point. -/
  | code (lead : Char) (digits : Text)
  /-- A backslash that ends the pattern. -/
  | dangling
deriving Repr, DecidableEq

/-- A sign and the offset of its first character. -/
structure Sign where
  offset : Nat
  kind : Sign.Kind
deriving Repr, DecidableEq

namespace Sign

def text (s : Sign) : Text :=
  match s.kind with
  | .plain c => [c]
  | .escape c => ['\\', c]
  | .code lead digits => '\\' :: lead :: digits
  | .dangling => ['\\']

/-- The text of a sign without the digits of a code point. -/
def brief (s : Sign) : Text := s.text.take 2

def isPlain (s : Sign) (c : Char) : Bool := s.kind = .plain c

def flag? (s : Sign) : Option Flag :=
  match s.kind with
  | .plain c => Flag.ofChar? c
  | _ => none

def isLetter (s : Sign) : Bool :=
  match s.kind with
  | .plain c => Text.isLetter c
  | _ => false

def digit? (s : Sign) : Option Char :=
  match s.kind with
  | .plain c => if c.isDigit then some c else none
  | _ => none

def isHex (c : Char) : Bool := c.isDigit || ('a' ≤ c && c ≤ 'f') || ('A' ≤ c && c ≤ 'F')

def isOctal (c : Char) : Bool := '0' ≤ c && c ≤ '7'

/-- The digits that belong to a numeric escape with this lead, at the start of a text. -/
def codeDigits (lead : Char) (t : Text) : Text :=
  match lead with
  | 'x' => (t.take 2).takeWhile isHex
  | 'u' => (t.take 4).takeWhile isHex
  | 'U' => (t.take 8).takeWhile isHex
  | '0' => (t.take 2).takeWhile isOctal
  | _ => []

/-- The escapes that name a code point by its digits. -/
def isCodeLead (c : Char) : Bool := c == 'x' || c == 'u' || c == 'U' || c == '0'

/-- The signs of a text at an offset. The counter is the part of a sign still to be passed over. -/
def scanFrom : (skip offset : Nat) → Text → List Sign
  | _, _, [] => []
  | skip + 1, i, _ :: t => scanFrom skip (i + 1) t
  | 0, i, ['\\'] => [⟨i, .dangling⟩]
  | 0, i, '\\' :: c :: t =>
    if isCodeLead c then
      let digits := codeDigits c t
      ⟨i, .code c digits⟩ :: scanFrom digits.length (i + 2) t
    else ⟨i, .escape c⟩ :: scanFrom 0 (i + 2) t
  | 0, i, c :: t => ⟨i, .plain c⟩ :: scanFrom 0 (i + 1) t

def scan (source : Text) : List Sign := scanFrom 0 0 source

/-- The value of a digit in any of the bases in use. -/
def digitValue (c : Char) : Nat :=
  if c.isDigit then c.toNat - 48 else c.toLower.toNat - 87

def number (base : Nat) (digits : Text) : Nat :=
  digits.foldl (fun n c => n * base + digitValue c) 0

/-- The code point of a numeric escape, if its digits are complete and name one. -/
def codePoint? (lead : Char) (digits : Text) : Option Nat :=
  let complete (width : Nat) :=
    if digits.length = width then
      let n := number 16 digits
      if n < 0x110000 then some n else none
    else none
  match lead with
  | 'x' => complete 2
  | 'u' => complete 4
  | 'U' => complete 8
  | _ => some (number 8 digits)

end Sign

end TexReflow.Pattern
