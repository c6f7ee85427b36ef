/-
JSON values written as text, without spaces.

In a string the quote, the backslash and the control characters are escaped, five of them by a
letter and the others by four hexadecimal digits; every other character stands for itself.
-/
import NamedData.Json.Value
import NamedData.Text.Hex

namespace NamedData.Json

/-- A character as it stands inside a string. -/
def escapeChar (c : Char) : List Char :=
  if c = '"' then ['\\', '"']
  else if c = '\\' then ['\\', '\\']
  else if c = '\x08' then ['\\', 'b']
  else if c = '\x0c' then ['\\', 'f']
  else if c = '\n' then ['\\', 'n']
  else if c = '\r' then ['\\', 'r']
  else if c = '\t' then ['\\', 't']
  else if c.toNat < 32 then
    ['\\', 'u', '0', '0', Hex.lowerDigit (c.toNat / 16), Hex.lowerDigit (c.toNat % 16)]
  else [c]

/-- A string between its quotes. -/
def stringChars (s : String) : List Char :=
  '"' :: s.toList.flatMap escapeChar ++ ['"']

mutual

/-- The characters of a value. -/
def chars : Json → List Char
  | .null => ['n', 'u', 'l', 'l']
  | .bool true => ['t', 'r', 'u', 'e']
  | .bool false => ['f', 'a', 'l', 's', 'e']
  | .natural n => Text.decimal n
  | .otherNumber text => text
  | .string s => stringChars s
  | .array items => '[' :: itemChars items
  | .object members => '\x7b' :: memberChars members

/-- The items of an array, separated by commas, and the closing bracket. -/
def itemChars : List Json → List Char
  | [] => [']']
  | j :: rest => chars j ++ moreItemChars rest

/-- Further items, each after a comma, and the closing bracket. -/
def moreItemChars : List Json → List Char
  | [] => [']']
  | j :: rest => ',' :: chars j ++ moreItemChars rest

/-- The members of an object, separated by commas, and the closing brace. -/
def memberChars : List (String × Json) → List Char
  | [] => ['\x7d']
  | (k, v) :: rest => stringChars k ++ ':' :: chars v ++ moreMemberChars rest

/-- Further members, each after a comma, and the closing brace. -/
def moreMemberChars : List (String × Json) → List Char
  | [] => ['\x7d']
  | (k, v) :: rest => ',' :: stringChars k ++ ':' :: chars v ++ moreMemberChars rest

end

/-- The text of a value. -/
def text (j : Json) : String := String.ofList j.chars

end NamedData.Json
