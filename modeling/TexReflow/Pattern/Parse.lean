import TexReflow.Pattern.Sign

/-!
# Reading patterns

The text of a pattern becomes a tree in one walk over its signs, which recurses on the signs alone.
A construct of several signs is read ahead and then passed over. Errors come in the order of the
walk.

Of the pattern language only the names of characters are left out: after `\N` a name in braces is
read, but none is known. Groups may be nested as deep as one likes, and constructs that are only
warned about, such as a bracket that opens inside of a class, are read without a warning.
-/

namespace TexReflow.Pattern

/-- The offset of the next sign; at the end the size of the pattern. -/
def offsetOf (size : Nat) : List Sign → Nat
  | [] => size
  | s :: _ => s.offset

/-- A backslash that ends the pattern is reported as soon as it is the next sign. -/
def settled : List Sign → Outcome Unit
  | ⟨i, .dangling⟩ :: _ => fail .danglingEscape i
  | _ => pure ()

/-- Reads a name, of a group or a character, up to the character that closes it. -/
def readName (size : Nat) (what : String) (close : Char) :
    Text → List Sign → Outcome (Text × List Sign)
  | name, [] =>
    if name.isEmpty then fail (.missingName what) size
    else fail (.unterminatedName close) (size - name.length)
  | name, s :: ahead => do
    settled ahead
    if s.isPlain close then
      if name.isEmpty then fail (.missingName what) s.offset else return (name, ahead)
    else readName size what close (name ++ s.text) ahead

/-- Reads the name of a character in braces. No name is known. -/
def readNamed {α : Type} (size : Nat) (s : Sign) (ahead : List Sign) : Outcome α := do
  match ahead with
  | [] => fail .missingBrace size
  | brace :: ahead =>
    if !brace.isPlain '{' then fail .missingBrace brace.offset
    settled ahead
    let (name, _) ← readName size "character" '}' [] ahead
    fail (.unknownCharacter name) s.offset

/-- The categories and their escapes; the upper-case letter is for the characters outside. -/
def category? (alphabet : Alphabet) (c : Char) : Option Member :=
  match c with
  | 'd' => some (.category alphabet .digit false)
  | 'D' => some (.category alphabet .digit true)
  | 's' => some (.category alphabet .space false)
  | 'S' => some (.category alphabet .space true)
  | 'w' => some (.category alphabet .word false)
  | 'W' => some (.category alphabet .word true)
  | _ => none

def anchor? (alphabet : Alphabet) (c : Char) : Option Anchor :=
  match c with
  | 'A' => some .textStart
  | 'Z' => some .textEnd
  | 'b' => some (.wordBoundary alphabet)
  | 'B' => some (.wordInterior alphabet)
  | _ => none

/-- The escapes for control characters, and the escaped backslash. -/
def control? (c : Char) : Option Char :=
  match c with
  | 'a' => some '\x07'
  | 'b' => some '\x08'
  | 'f' => some '\x0c'
  | 'n' => some '\n'
  | 'r' => some '\r'
  | 't' => some '\t'
  | 'v' => some '\x0b'
  | '\\' => some '\\'
  | _ => none

def readCode (s : Sign) (lead : Char) (digits : Text) : Outcome Nat :=
  match Sign.codePoint? lead digits with
  | some n => pure n
  | none =>
    if digits.length < (if lead = 'x' then 2 else if lead = 'u' then 4 else 8) then
      fail (.incompleteEscape s.text) s.offset
    else fail (.badEscape s.text) s.offset

/-- The octal digits that come next, two at most. -/
def octalsAhead (ahead : List Sign) : Text :=
  ((ahead.take 2).takeWhile fun s => s.digit?.any Sign.isOctal).filterMap Sign.digit?

/-- The code point with the given octal digits, of which there are three at most. -/
def readOctal (s : Sign) (digits : Text) : Outcome Nat :=
  let n := Sign.number 8 digits
  if n ≤ 255 then pure n else fail (.largeOctal ('\\' :: digits)) s.offset

/-- Reads an escape outside of classes. Three octal digits give a code point; a reference to a group
has one digit or two. The number returned counts the signs used of those ahead. -/
def Reading.readEscape (size : Nat) (s : Sign) (c : Char) (ahead : List Sign) (r : Reading) :
    Outcome (Reading × Nat) := do
  if let some a := anchor? r.flags.alphabet c then return (r.pushAnchor a, 0)
  if let some m := category? r.flags.alphabet c then return (r.pushClass [m] false, 0)
  if let some d := control? c then return (r.pushChar d, 0)
  if c.isDigit then
    let octals := octalsAhead ahead
    if Sign.isOctal c && octals.length = 2 then
      settled (ahead.drop 2)
      return (r.pushCode (← readOctal s (c :: octals)), 2)
    let second := ahead.head?.bind Sign.digit?
    let used := if second.isSome then 1 else 0
    settled (ahead.drop used)
    let index := Sign.number 10 (c :: second.toList)
    if index ≤ r.groups.length then
      return (← r.refer index s.offset (offsetOf size (ahead.drop used)), used)
    else fail (.invalidReference index) (s.offset + 1)
  if c = 'N' then readNamed size s ahead
  if c.isAlpha then fail (.badEscape s.text) s.offset
  return (r.pushChar c, 0)

/-- An entry of a class, a code point or a category, and the number of signs used of those ahead:
up to two octal digits belong to an octal escape. -/
def readMember (alphabet : Alphabet) (size : Nat) (s : Sign) (ahead : List Sign) :
    Outcome (Member × Nat) :=
  match s.kind with
  | .plain c => pure (.single c, 0)
  | .code lead digits => do
    let n ← readCode s lead digits
    return (.range n n, 0)
  | .escape c =>
    match control? c, category? alphabet c with
    | some d, _ => pure (.single d, 0)
    | _, some m => pure (m, 0)
    | _, _ =>
      if Sign.isOctal c then do
        let octals := octalsAhead ahead
        settled (ahead.drop octals.length)
        let n ← readOctal s (c :: octals)
        return (.range n n, octals.length)
      else if c = 'N' then readNamed size s ahead
      else if c.isAlphanum then fail (.badEscape s.text) s.offset
      else pure (.single c, 0)
  | .dangling => fail .danglingEscape s.offset

/-- The range between two entries, both of which must be code points in order. -/
def range? : Member → Member → Option Member
  | .range lo _, .range hi _ => if lo ≤ hi then some (.range lo hi) else none
  | _, _ => none

/-- Reads one entry of a class, after those found before. The result has the entries found now, the
number of signs used of those ahead, and whether the class is closed: a bracket closes it, unless it
comes first. A hyphen before the closing bracket is an entry. -/
def readEntry (alphabet : Alphabet) (start size : Nat) (found : List Member) (s : Sign)
    (ahead : List Sign) : Outcome (List Member × Nat × Bool) := do
  settled ahead
  if s.isPlain ']' && !found.isEmpty then return (found, 0, true)
  let (lo, used) ← readMember alphabet size s ahead
  let ahead := ahead.drop used
  if !ahead.head?.any (·.isPlain '-') then return (found ++ [lo], used, false)
  settled (ahead.drop 1)
  match ahead.drop 1 with
  | [] => fail .unterminatedClass start
  | s' :: behind =>
    settled behind
    if s'.isPlain ']' then return (found ++ [lo, .single '-'], used + 2, true)
    let (hi, used') ← readMember alphabet size s' behind
    match range? lo hi with
    | some m => return (found ++ [m], used + 2 + used', false)
    | none =>
      let text := s.brief ++ '-' :: s'.brief
      fail (.badRange text) (offsetOf size (behind.drop used') - text.length)

/-- Reads the entries of a class up to its end. The counter is the part of an entry still to be
passed over; the number returned counts the signs used. -/
def readMembers (alphabet : Alphabet) (start size : Nat) :
    (skip : Nat) → List Member → List Sign → Outcome (List Member × Nat)
  | _, _, [] => fail .unterminatedClass start
  | skip + 1, found, _ :: ahead => do
    let (members, used) ← readMembers alphabet start size skip found ahead
    return (members, used + 1)
  | 0, found, s :: ahead => do
    let (now, extra, closed) ← readEntry alphabet start size found s ahead
    if closed then return (now, extra + 1)
    let (members, used) ← readMembers alphabet start size extra now ahead
    return (members, used + 1)

def readComment (start : Nat) : List Sign → Outcome (List Sign)
  | [] => fail .unterminatedComment start
  | s :: ahead => do
    settled ahead
    if s.isPlain ')' then return ahead else readComment start ahead

/-- The next sign of a construct that may not end here. -/
def nextSign (size : Nat) : List Sign → Outcome (Sign × List Sign)
  | [] => fail .unexpectedEnd size
  | s :: ahead => do
    settled ahead
    return (s, ahead)

/-- The number that a group is named by. A sign, digits of any script, single underscores between
digits and white space around them are taken; a negative number and one with too many digits are
not. -/
def groupNumber? (name : Text) : Option Nat := do
  let isBlank (c : Char) := Text.isSpace c && !(28 ≤ c.toNat && c.toNat ≤ 31)
  let trimmed := ((name.dropWhile isBlank).reverse.dropWhile isBlank).reverse
  let (negative, digits) : Bool × Text :=
    match trimmed with
    | '-' :: t => (true, t)
    | '+' :: t => (false, t)
    | t => (false, t)
  let runs := Text.splitOn ['_'] digits
  let values ← runs.flatten.mapM Text.digitValue?
  let n := values.foldl (fun n d => n * 10 + d) 0
  if runs.contains [] || maxDigits < values.length || negative && n != 0 then none else some n

/-- The numbers of groups are smaller than this one. -/
def maxGroups : Nat := 1073741823

/-- Reads the group that a condition asks for, and opens its alternatives. A group that is named by
its number may come later. -/
def Reading.readCondition (size start : Nat) (ahead : List Sign) (r : Reading) :
    Outcome (Reading × List Sign) := do
  let place := offsetOf size ahead
  let (name, ahead) ← readName size "group" ')' [] ahead
  let tell := offsetOf size ahead
  if Text.isName name then
    match r.named? name with
    | none => fail (.unknownName name) place
    | some index =>
      r.checkBehind index tell
      return (r.openFrame (.condition index) start, ahead)
  else
    match groupNumber? name with
    | none => fail (.badName name) place
    | some 0 => fail .zeroReference place
    | some index =>
      if maxGroups ≤ index then fail (.invalidReference index) place
      r.checkBehind index tell
      let r' : Reading := { r with awaited := r.awaited ++ [(index, place)] }
      return (r'.openFrame (.condition index) start, ahead)

/-- What is wrong with a sign that stands where a flag is missing. -/
def notFlag (s : Sign) (lack : FlagFault) : Fault :=
  .flags (if s.isLetter then .unknown else lack)

/-- Reads flags to turn on, after those found before and the one given, up to the sign that ends
them. -/
def readOn (size : Nat) (found : Flags) (flag : Flag) (ahead : List Sign) :
    Outcome (Flags × Sign × List Sign) := do
  let here := offsetOf size ahead
  if flag = .locale then fail (.flags .locale) here
  if flag.isAlphabet && found.any (fun f => f.isAlphabet && f != flag) then
    fail (.flags .clashing) here
  match ahead with
  | [] => fail (.flags .missingEnd) here
  | s :: ahead =>
    settled ahead
    if s.isPlain ')' || s.isPlain '-' || s.isPlain ':' then return (flag :: found, s, ahead)
    match s.flag? with
    | some next => readOn size (flag :: found) next ahead
    | none => fail (notFlag s .missingEnd) s.offset

/-- Reads flags to turn off, after those found before and the one given, up to a colon. -/
def readOff (size : Nat) (found : Flags) (flag : Flag) (ahead : List Sign) :
    Outcome (Flags × Sign × List Sign) := do
  let here := offsetOf size ahead
  if flag.isAlphabet then fail (.flags .alphabetOff) here
  match ahead with
  | [] => fail (.flags .missingColon) here
  | s :: ahead =>
    settled ahead
    if s.isPlain ':' then return (flag :: found, s, ahead)
    match s.flag? with
    | some next => readOff size (flag :: found) next ahead
    | none => fail (notFlag s .missingColon) s.offset

/-- Reads flags, the first sign of which is given. They hold for the whole pattern if they come
before anything else in it and stand alone, and otherwise for a group. -/
def Reading.readFlags (size start : Nat) (first : Sign) (ahead : List Sign) (r : Reading) :
    Outcome (Reading × List Sign) := do
  let (on, stop, ahead) ←
    match first.flag? with
    | some flag => readOn size [] flag ahead
    | none => pure ([], first, ahead)
  if stop.isPlain ')' then
    if r.frames.isEmpty && r.draft = {} then return ({ r with flags := on ++ r.flags }, ahead)
    else fail .misplacedFlags start
  if on.contains .template then fail (.flags .globalOn) stop.offset
  let (off, stop, ahead) ←
    if stop.isPlain ':' then pure ([], stop, ahead)
    else
      match ahead with
      | [] => fail (.flags .missing) size
      | s :: ahead =>
        settled ahead
        match s.flag? with
        | some flag => readOff size [] flag ahead
        | none => fail (notFlag s .missing) s.offset
  if off.contains .template then fail (.flags .globalOff) stop.offset
  if on.any off.contains then fail (.flags .onAndOff) stop.offset
  return ({ r.openFrame .plain start with flags := r.flags.change on off }, ahead)

/-- Reads what follows an opening parenthesis and returns the signs behind it. -/
def Reading.readGroup (size : Nat) (start : Nat) (ahead : List Sign) (r : Reading) :
    Outcome (Reading × List Sign) :=
  match ahead with
  | [] => pure (r.openGroup none start, [])
  | mark :: ahead =>
    if !mark.isPlain '?' then pure (r.openGroup none start, mark :: ahead)
    else do
      settled ahead
      let (kind, ahead) ← nextSign size ahead
      match kind.kind with
      | .plain ':' => return (r.openFrame .plain start, ahead)
      | .plain '>' => return (r.openFrame .atomic start, ahead)
      | .plain '=' => return (r.openFrame (.lookAhead true) start, ahead)
      | .plain '!' => return (r.openFrame (.lookAhead false) start, ahead)
      | .plain '#' => return (r, ← readComment start ahead)
      | .plain '(' => r.readCondition size start ahead
      | .plain '<' =>
        let (side, ahead) ← nextSign size ahead
        match side.kind with
        | .plain '=' => return (r.openFrame (.lookBehind true) start, ahead)
        | .plain '!' => return (r.openFrame (.lookBehind false) start, ahead)
        | _ => fail (.unknownExtension ("?<".toList ++ side.brief)) (start + 1)
      | .plain 'P' =>
        let (form, ahead) ← nextSign size ahead
        let place := offsetOf size ahead
        match form.kind with
        | .plain '<' =>
          let (name, ahead) ← readName size "group" '>' [] ahead
          if !Text.isName name then fail (.badName name) place
          match r.named? name with
          | some earlier => fail (.redefinedName name (r.groups.length + 1) earlier) place
          | none => return (r.openGroup (some name) start, ahead)
        | .plain '=' =>
          let (name, ahead) ← readName size "group" ')' [] ahead
          if !Text.isName name then fail (.badName name) place
          match r.named? name with
          | none => fail (.unknownName name) place
          | some index => return (← r.refer index place (offsetOf size ahead), ahead)
        | _ => fail (.unknownExtension ("?P".toList ++ form.brief)) (start + 1)
      | _ =>
        if kind.flag?.isSome || kind.isPlain '-' then r.readFlags size start kind ahead
        else fail (.unknownExtension ('?' :: kind.brief)) (start + 1)

/-- The bounds of a quantifier in braces: digits, or two runs of digits around a comma, either of
which may be missing. Besides them, whether the brace is closed, and the signs behind. -/
def readBounds (ahead : List Sign) : Text × Text × Bool × List Sign :=
  let digits (l : List Sign) := (l.takeWhile (·.digit?.isSome)).filterMap Sign.digit?
  let past (l : List Sign) := l.dropWhile (·.digit?.isSome)
  let lo := digits ahead
  let (hi, behind) :=
    match past ahead with
    | s :: l => if s.isPlain ',' then (digits l, past l) else (lo, s :: l)
    | [] => (lo, [])
  match behind with
  | s :: l => if s.isPlain '}' then (lo, hi, true, l) else (lo, hi, false, s :: l)
  | [] => (lo, hi, false, [])

/-- Numbers of copies are smaller than this one. -/
def maxCopies : Nat := 4294967295

/-- A number of copies. Without any digit it is zero. -/
def readCopies (digits : Text) : Outcome Nat :=
  if maxDigits < digits.length then refuse (.manyDigits digits.length)
  else
    let n := Sign.number 10 digits
    if n < maxCopies then pure n else refuse .manyCopies

/-- How a quantifier goes through the numbers of copies. -/
inductive Order where
  | greedy
  | lazy
  /-- As many copies as possible first, and no other number later. -/
  | possessive
deriving Repr, DecidableEq

def Order.operator : Order → String
  | .greedy => "MAX_REPEAT"
  | .lazy => "MIN_REPEAT"
  | .possessive => "POSSESSIVE_REPEAT"

def Order.copies (least : Nat) (most : Option Nat) (body : Node) : Order → Node
  | .greedy => .copies least most true body
  | .lazy => .copies least most false body
  | .possessive => .atomic (.copies least most true body)

/-- Reads the sign behind a quantifier that gives its order. -/
def readOrder : List Sign → Outcome (Order × List Sign)
  | [] => pure (.greedy, [])
  | s :: ahead =>
    if s.isPlain '?' then do
      settled ahead
      return (.lazy, ahead)
    else if s.isPlain '+' then do
      settled ahead
      return (.possessive, ahead)
    else pure (.greedy, s :: ahead)

/-- Puts a quantifier behind the latest part. As a template a pattern can have none. -/
def Reading.quantify (r : Reading) (offset least : Nat) (most : Option Nat) (ahead : List Sign) :
    Outcome (Reading × List Sign) :=
  match r.draft.items with
  | [] => fail .nothingToRepeat offset
  | i :: items =>
    match i.role with
    | .place => fail .nothingToRepeat offset
    | .repeated => fail .multipleRepeat offset
    | .repeatable => do
      let (order, ahead) ← readOrder ahead
      let whole : Item :=
        { node := order.copies least most i.node
          width := i.width.copies least most
          role := .repeated
          fault :=
            if r.flags.contains .template then some (.templateRepeat order.operator) else i.fault }
      return ({ r with draft := { r.draft with items := whole :: items } }, ahead)

/-- Reads a brace: a quantifier if it has the form of one, and otherwise a character. -/
def Reading.readBrace (r : Reading) (offset : Nat) (ahead : List Sign) :
    Outcome (Reading × List Sign) :=
  if ahead.head?.any (·.isPlain '}') then pure (r.pushChar '{', ahead)
  else do
    let (lo, hi, closed, behind) := readBounds ahead
    settled behind
    if !closed then return (r.pushChar '{', ahead)
    let least ← readCopies lo
    let most ← if hi.isEmpty then pure none else some <$> readCopies hi
    if most.any (· < least) then fail .crossedBounds (offset + 1)
    r.quantify offset least most behind

/-- Passes over the rest of a line. The number returned counts the signs used. -/
def skipLine (ahead : List Sign) : Outcome Nat := do
  let used := (ahead.takeWhile fun s => !s.isPlain '\n' && s.kind != .dangling).length
  settled (ahead.drop used)
  settled (ahead.drop (used + 1))
  return min (used + 1) ahead.length

/-- A condition has its two alternatives already. -/
def Reading.hasBothBranches (r : Reading) : Bool :=
  match r.frames with
  | ⟨.condition _, _, _, _, _⟩ :: _ => !r.draft.branches.isEmpty
  | _ => false

/-- Reads the construct that starts with a sign. The number returned counts the signs used of those
ahead. -/
def Reading.readSign (size : Nat) (s : Sign) (ahead : List Sign) (r : Reading) :
    Outcome (Reading × Nat) :=
  let upTo (res : Outcome (Reading × List Sign)) : Outcome (Reading × Nat) := do
    let (r', behind) ← res
    return (r', ahead.length - behind.length)
  match s.kind with
  | .dangling => fail .danglingEscape s.offset
  | .code lead digits => do
    settled ahead
    return (r.pushCode (← readCode s lead digits), 0)
  | .escape c => do
    settled ahead
    r.readEscape size s c ahead
  | .plain ')' =>
    match r.frames with
    | [] => do
      r.checkAlphabet
      fail .unbalancedParenthesis s.offset
    | f :: outer => do
      settled ahead
      return (r.closeFrame f outer, 0)
  | .plain '|' => do
    if r.hasBothBranches then fail .manyBranches s.offset
    settled ahead
    return ({ r with draft := r.draft.nextBranch }, 0)
  | .plain c => do
    settled ahead
    let verbose := r.flags.contains .verbose
    if verbose && Category.space.holds .ascii c then return (r, 0)
    if verbose && c = '#' then return (r, ← skipLine ahead)
    let multiline := r.flags.contains .multiline
    match c with
    | '.' =>
      return (r.pushClass (if r.flags.contains .dotAll then [] else [.single '\n']) true, 0)
    | '^' => return (r.pushAnchor (if multiline then .lineStart else .textStart), 0)
    | '$' => return (r.pushAnchor (if multiline then .lineEnd else .lastLineEnd), 0)
    | '(' => upTo (r.readGroup size s.offset ahead)
    | '*' => upTo (r.quantify s.offset 0 none ahead)
    | '+' => upTo (r.quantify s.offset 1 none ahead)
    | '?' => upTo (r.quantify s.offset 0 (some 1) ahead)
    | '{' => upTo (r.readBrace s.offset ahead)
    | '[' =>
      let inverted := ahead.head?.any (·.isPlain '^')
      let extra := if inverted then 1 else 0
      settled (ahead.drop extra)
      let (members, used) ←
        readMembers r.flags.alphabet s.offset size 0 [] (ahead.drop extra)
      return (r.pushClass members inverted, used + extra)
    | c => return (r.pushChar c, 0)

/-- The walk over the signs. The counter is the part of a construct still to be passed over. -/
def Reading.walk (size : Nat) : (skip : Nat) → List Sign → Reading → Outcome Reading
  | _, [], r => pure r
  | skip + 1, _ :: ahead, r => Reading.walk size skip ahead r
  | 0, s :: ahead, r => do
    let (r', used) ← r.readSign size s ahead
    Reading.walk size used ahead r'

end TexReflow.Pattern

namespace TexReflow

def Pattern.parse (source : Text) : Except Pattern.Error Pattern := do
  let r ← Pattern.Reading.walk source.length 0 (Pattern.Sign.scan source) {}
  return ⟨source, ← r.root⟩

end TexReflow
