import TexReflow.Text.Case
import TexReflow.Text.Word

/-!
# Patterns

A pattern is a text together with the tree it denotes. The tree is what matching recurses on:
sequences and alternatives are binary, a group carries its number, and a look-behind carries the
width of the text it looks at.
-/

namespace TexReflow

namespace Pattern

/-- The characters that a pattern knows as letters, digits and spaces. -/
inductive Alphabet where
  | ascii
  | unicode
deriving Repr, DecidableEq

inductive Category where
  | digit
  | space
  | word
deriving Repr, DecidableEq

def Category.holds : Alphabet → Category → Char → Bool
  | .ascii, .digit, c => c.isDigit
  | .ascii, .space, c => c = ' ' || 9 ≤ c.toNat && c.toNat ≤ 13
  | .ascii, .word, c => c.isAlphanum || c = '_'
  | .unicode, .digit, c => Text.isDigit c
  | .unicode, .space, c => Text.isSpace c
  | .unicode, .word, c => Text.isWord c

/-- The lower-case form of a character, as its code point. -/
def Alphabet.lower : Alphabet → Char → Nat
  | .ascii, c => c.toLower.toNat
  | .unicode, c => Text.lowerCode c.toNat

/-- An entry of a character class: a range of code points, or a category or all outside it. -/
inductive Member where
  | range (lo hi : Nat)
  | category (alphabet : Alphabet) (kind : Category) (inverted : Bool)
deriving Repr, DecidableEq

def Member.single (c : Char) : Member := .range c.toNat c.toNat

/-- The entry holds the character. Without regard to case a range holds all cases of its letters.
-/
def Member.holds (ignoreCase : Bool) (c : Char) : Member → Bool
  | .range lo hi =>
    let within (n : Nat) := lo ≤ n && n ≤ hi
    if ignoreCase then (Text.caseVariants c).any within else within c.toNat
  | .category alphabet kind inverted => kind.holds alphabet c != inverted

/-- The entries that hold what an entry holds and the other cases of its ASCII letters. -/
def Member.withAsciiCases : Member → List Member
  | .range lo hi =>
    let upper := if max lo 65 ≤ min hi 90 then [.range (max lo 65 + 32) (min hi 90 + 32)] else []
    let lower := if max lo 97 ≤ min hi 122 then [.range (max lo 97 - 32) (min hi 122 - 32)] else []
    .range lo hi :: upper ++ lower
  | m => [m]

/-- A set of characters: those that some member holds, or, if inverted, all the others. -/
structure CharClass where
  members : List Member
  inverted : Bool
  ignoreCase : Bool
deriving Repr, DecidableEq

def CharClass.holds (k : CharClass) (c : Char) : Bool :=
  k.members.any (Member.holds k.ignoreCase c) != k.inverted

theorem CharClass.holds_single (c d : Char) :
    CharClass.holds ⟨[.single c], false, false⟩ d = (d == c) := by
  rw [Bool.eq_iff_iff, beq_iff_eq, ← Char.toNat_inj]
  simp only [CharClass.holds, Member.single, List.any_cons, Member.holds, Bool.false_eq_true,
    if_false, List.any_nil, Bool.or_false, Bool.bne_false, Bool.and_eq_true, decide_eq_true_eq]
  omega

/-- Conditions on a place in the text that take no character. -/
inductive Anchor where
  | textStart
  /-- The start of the text, or a place behind a line feed. -/
  | lineStart
  /-- The end of the text, or the place before a line feed that ends it. -/
  | lastLineEnd
  /-- The end of the text, or a place before a line feed. -/
  | lineEnd
  | textEnd
  /-- A place between a word character and none. -/
  | wordBoundary (alphabet : Alphabet)
  /-- Any other place of a text that is not empty. -/
  | wordInterior (alphabet : Alphabet)
deriving Repr, DecidableEq

inductive Node where
  | empty
  | one (set : CharClass)
  | anchor (place : Anchor)
  | seq (first second : Node)
  /-- The first node or, if the match cannot be completed with it, the second. -/
  | alt (first second : Node)
  /-- A group whose text is kept under its number. -/
  | group (index : Nat) (body : Node)
  /-- The text that a group has kept; if an alphabet is given, without regard to case in it. -/
  | recall (index : Nat) (fold : Option Alphabet)
  /-- The first node if the group has kept a text, and otherwise the second. -/
  | ifKept (index : Nat) (first second : Node)
  /-- At least `least` and at most `most` copies, as many as possible or as few as possible. -/
  | copies (least : Nat) (most : Option Nat) (greedy : Bool) (body : Node)
  /-- The first way to match the body, without trying another one later. -/
  | atomic (body : Node)
  /-- The body matches here, or does not; nothing is taken. -/
  | lookAhead (wanted : Bool) (body : Node)
  /-- The body matches the `width` characters before this place, or does not. -/
  | lookBehind (wanted : Bool) (width : Nat) (body : Node)
deriving Repr, DecidableEq

end Pattern

/-- A pattern: its text and the tree read from it. -/
structure Pattern where
  source : Text
  root : Pattern.Node
deriving Repr, DecidableEq

end TexReflow
