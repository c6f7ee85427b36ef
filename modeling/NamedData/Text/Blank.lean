/-
Blank characters, and texts cut at blanks or at separators.

* `isBlank` — the characters with the Unicode property White_Space;
* `trim` — a text without the blanks at both its ends;
* `pieces` — the parts of a text between the separators.
-/

namespace NamedData.Text

/-- Whether a character is white space: the ASCII blanks, next line, no-break space and the
spaces and separators of typography. -/
def isBlank (c : Char) : Bool :=
  let n := c.toNat
  (0x09 ≤ n && n ≤ 0x0D) || n == 0x20 || n == 0x85 || n == 0xA0 || n == 0x1680 ||
    (0x2000 ≤ n && n ≤ 0x200A) || n == 0x2028 || n == 0x2029 || n == 0x202F || n == 0x205F ||
    n == 0x3000

/-- The text without the blanks in front. -/
def trimStart (cs : List Char) : List Char := cs.dropWhile isBlank

/-- The text without the blanks at both ends. -/
def trim (cs : List Char) : List Char := (trimStart (trimStart cs).reverse).reverse

/-- The parts between the separators; a text without one is a single part. -/
def pieces (separator : Char) : List Char → List (List Char)
  | [] => [[]]
  | c :: rest =>
    if c = separator then [] :: pieces separator rest
    else
      match pieces separator rest with
      | [] => [[c]]
      | first :: others => (c :: first) :: others

/-- The text after a given beginning, when it has it. -/
def afterStart? : List Char → List Char → Option (List Char)
  | [], cs => some cs
  | _ :: _, [] => none
  | p :: ps, c :: cs => if p = c then afterStart? ps cs else none

end NamedData.Text
