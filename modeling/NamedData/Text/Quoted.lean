/-
Quoted text: a text between double quotes in which every character can be seen.

The quote itself and the backslash are escaped by a backslash, tab, line feed, carriage return
and NUL by a letter or digit, and every other character that does not print, or that would join
the character before it, by its code point in hexadecimal between braces.
-/
import NamedData.Text.CharacterClass
import NamedData.Text.Hex

namespace NamedData.Text

/-- Whether a character is shown by its code point. -/
def needsCodePoint (c : Char) : Bool :=
  if 0x20 ≤ c.toNat ∧ c.toNat < 0x7F then false
  else inRanges extending c.toNat || inRanges nonPrinting c.toNat

/-- A character as it stands between the quotes `delimiter`. -/
def escapeChar (delimiter c : Char) : List Char :=
  if c = delimiter ∨ c = '\\' then ['\\', c]
  else if c = '\t' then ['\\', 't']
  else if c = '\n' then ['\\', 'n']
  else if c = '\r' then ['\\', 'r']
  else if c = '\x00' then ['\\', '0']
  else if needsCodePoint c then ['\\', 'u', '\x7b'] ++ Hex.ofNat c.toNat ++ ['\x7d']
  else [c]

/-- A text in double quotes. -/
def quoted (s : String) : String :=
  String.ofList (['"'] ++ s.toList.flatMap (escapeChar '"') ++ ['"'])

/-- A character in single quotes. -/
def quotedChar (c : Char) : String :=
  String.ofList (['\''] ++ escapeChar '\'' c ++ ['\''])

end NamedData.Text
