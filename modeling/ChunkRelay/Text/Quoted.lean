import ChunkRelay.Text.Hex
import ChunkRelay.Text.Printable

/-!
# Quoted names

A name between double quotes. A quote and a backslash stand behind a backslash, the usual blanks have
letters of their own, and a character without a look of its own is written by number.
-/

set_option autoImplicit false

namespace ChunkRelay.Text

def quotedChar (c : Char) : List Char :=
  if c = '\x00' then ['\\', '0']
  else if c = '\t' then ['\\', 't']
  else if c = '\r' then ['\\', 'r']
  else if c = '\n' then ['\\', 'n']
  else if c = '"' ∨ c = '\\' then ['\\', c]
  else if isPrintable c then [c]
  else ['\\', 'u', '\x7b'] ++ (paddedHex 1 c.toNat).toList ++ ['\x7d']

def quoted (name : String) : String :=
  String.ofList ('"' :: name.toList.flatMap quotedChar ++ ['"'])

end ChunkRelay.Text
