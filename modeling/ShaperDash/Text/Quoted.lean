import ShaperDash.Text.Printable

/-!
# Quoted text

A text between quotation marks in which whatever could not be read off a line is written as an
escape: quotation marks, backslashes, line ends, controls, and marks that would join their
neighbour.
-/

namespace ShaperDash

/-- The escape that names a character by its code point. -/
def codeEscape (c : Char) : List Char :=
  '\\' :: 'u' :: '{' :: (Nat.toDigits 16 c.toNat ++ ['}'])

/-- One character of a quoted text; an apostrophe is escaped if `apostrophe` says so. -/
def quotedChar (apostrophe : Bool) (c : Char) : List Char :=
  if c = '\x00' then ['\\', '0']
  else if c = '\t' then ['\\', 't']
  else if c = '\r' then ['\\', 'r']
  else if c = '\n' then ['\\', 'n']
  else if c = '\\' then ['\\', '\\']
  else if c = '"' then ['\\', '"']
  else if c = '\'' && apostrophe then ['\\', '\'']
  else if extendsCluster c then codeEscape c
  else if isPrintable c then [c]
  else codeEscape c

/-- The text between quotation marks. -/
def quoted (apostrophe : Bool) (cs : List Char) : List Char :=
  '"' :: (cs.flatMap (quotedChar apostrophe) ++ ['"'])

end ShaperDash
