import TexReflow.Text.Basic
import TexReflow.Text.Printable

/-!
# Quoted texts

The form in which messages show a text: between quotation marks, with every character that is not
printable written as an escape.
-/

namespace TexReflow.Text

/-- The double mark is used only for a text that holds the single one and not the double one. -/
def quoteMark (t : Text) : Char :=
  if t.contains '\'' && !t.contains '"' then '"' else '\''

/-- A number in lower-case hexadecimal, padded with zeros to the given width. -/
def hex (width n : Nat) : Text := (Nat.toDigits 16 n).leftpad width '0'

def quoteChar (mark c : Char) : Text :=
  if c = mark || c = '\\' then ['\\', c]
  else if c = '\t' then ['\\', 't']
  else if c = '\n' then ['\\', 'n']
  else if c = '\r' then ['\\', 'r']
  else if isPrintable c then [c]
  else if c.toNat < 0x100 then '\\' :: 'x' :: hex 2 c.toNat
  else if c.toNat < 0x10000 then '\\' :: 'u' :: hex 4 c.toNat
  else '\\' :: 'U' :: hex 8 c.toNat

def quoted (t : Text) : Text :=
  let mark := quoteMark t
  mark :: (t.flatMap (quoteChar mark) ++ [mark])

def shown (t : Text) : String := String.ofList t.quoted

end TexReflow.Text
