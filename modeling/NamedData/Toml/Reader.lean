/-
TOML documents read into values, after version 1.0 of the format.

A document is a sequence of lines; each holds a key and a value, a header, or nothing, and may end
in a comment. Arrays may go over several lines, tables between braces may not.

* `readValue` — one value;
* `parse?` — a whole document, as a table.
-/
import NamedData.Toml.Value
import NamedData.Text.Decimal
import NamedData.Text.Hex
import NamedData.Time.Calendar

namespace NamedData.Toml

open Text

/-! ### Characters -/

/-- Whether a character may stand in a comment or a literal text: not a control, the tab apart. -/
def isPlain (c : Char) : Bool :=
  c = '\t' || (0x20 ≤ c.toNat && c.toNat ≠ 0x7F)

/-- Whether a character may stand in a key without quotes. -/
def isBare (c : Char) : Bool := c.isAlphanum || c = '_' || c = '-'

/-- The text without blanks in front. -/
def skipBlanks (cs : List Char) : List Char := cs.dropWhile fun c => c = ' ' || c = '\t'

/-- The text after a line end, if it begins with one. -/
def afterNewline? : List Char → Option (List Char)
  | '\n' :: rest => some rest
  | '\r' :: '\n' :: rest => some rest
  | _ => none

/-- The text without a comment in front, if there is one. -/
def skipComment : List Char → List Char
  | '#' :: rest => rest.dropWhile isPlain
  | cs => cs

/-- The text after the end of a line, which may be blanks and a comment; the end of the document
ends a line too. -/
def endLine? (cs : List Char) : Option (List Char) :=
  match skipComment (skipBlanks cs) with
  | [] => some []
  | cs => afterNewline? cs

/-- The text without blanks, line ends and comments in front. The first number bounds the
recursion; the length of the text is enough. -/
def skipLines : Nat → List Char → List Char
  | 0, cs => cs
  | fuel + 1, cs =>
    let cs := skipComment (skipBlanks cs)
    match afterNewline? cs with
    | some rest => skipLines fuel rest
    | none => cs

/-! ### Texts -/

/-- The character with a code point written as hexadecimal digits. -/
def charOfHex? (digits : List Char) : Option Char := do
  let values ← digits.mapM Hex.digitValue?
  let n := values.foldl (fun n d => n * 16 + d) 0
  if h : n.isValidChar then some (Char.ofNatAux n h) else none

/-- Reads what follows a backslash: the character and the rest. -/
def readEscape : List Char → Option (Char × List Char)
  | 'b' :: rest => some ('\x08', rest)
  | 't' :: rest => some ('\t', rest)
  | 'n' :: rest => some ('\n', rest)
  | 'f' :: rest => some ('\x0c', rest)
  | 'r' :: rest => some ('\r', rest)
  | '"' :: rest => some ('"', rest)
  | '\\' :: rest => some ('\\', rest)
  | 'u' :: rest =>
    if rest.length < 4 then none else (charOfHex? (rest.take 4)).map fun c => (c, rest.drop 4)
  | 'U' :: rest =>
    if rest.length < 8 then none else (charOfHex? (rest.take 8)).map fun c => (c, rest.drop 8)
  | _ => none

/-- Reads a text in double quotes from after the opening one. -/
def readBasic : Nat → List Char → Option (List Char × List Char)
  | 0, _ => none
  | _, [] => none
  | fuel + 1, c :: rest =>
    if c = '"' then some ([], rest)
    else if c = '\\' then do
      let (e, rest) ← readEscape rest
      let (cs, after) ← readBasic fuel rest
      return (e :: cs, after)
    else if isPlain c then do
      let (cs, after) ← readBasic fuel rest
      return (c :: cs, after)
    else none

/-- Reads a text in single quotes from after the opening one. -/
def readLiteral (cs : List Char) : Option (List Char × List Char) :=
  match cs.dropWhile fun c => isPlain c && c ≠ '\'' with
  | '\'' :: after => some (cs.takeWhile fun c => isPlain c && c ≠ '\'', after)
  | _ => none

/-- Whether a backslash and blanks end the line, so that the text goes on at the next mark. -/
def continuesLine (cs : List Char) : Bool := (afterNewline? (skipBlanks cs)).isSome

/-- The text without blanks and line ends in front. -/
def skipSpace : Nat → List Char → List Char
  | 0, cs => cs
  | fuel + 1, cs =>
    match afterNewline? (skipBlanks cs) with
    | some rest => skipSpace fuel rest
    | none => skipBlanks cs

/-- Reads a text of several lines from after its three opening quotes and the line end that may
follow them. Up to two quotes may stand before the three that close it. -/
def readLines (quote : Char) : Nat → List Char → Option (List Char × List Char)
  | 0, _ => none
  | _, [] => none
  | fuel + 1, c :: rest =>
    if c = quote then
      let run := 1 + (rest.takeWhile (· = quote)).length
      if run < 3 then do
        let (cs, after) ← readLines quote fuel (rest.drop (run - 1))
        return (List.replicate run quote ++ cs, after)
      else if run ≤ 5 then some (List.replicate (run - 3) quote, rest.drop (run - 1))
      else none
    else if c = '\\' && quote = '"' then
      if continuesLine rest then readLines quote fuel (skipSpace rest.length rest)
      else do
        let (e, rest) ← readEscape rest
        let (cs, after) ← readLines quote fuel rest
        return (e :: cs, after)
    else
      match afterNewline? (c :: rest) with
      | some rest => do
        let (cs, after) ← readLines quote fuel rest
        return ('\n' :: cs, after)
      | none =>
        if isPlain c then do
          let (cs, after) ← readLines quote fuel rest
          return (c :: cs, after)
        else none

/-- The text without one line end in front, if there is one. -/
def skipNewline (cs : List Char) : List Char := (afterNewline? cs).getD cs

/-- Reads a text of any of the four forms, if there is one in front. -/
def readText? : List Char → Option (Option (List Char × List Char))
  | '"' :: '"' :: '"' :: rest => some (readLines '"' (rest.length + 1) (skipNewline rest))
  | '\'' :: '\'' :: '\'' :: rest => some (readLines '\'' (rest.length + 1) (skipNewline rest))
  | '"' :: rest => some (readBasic (rest.length + 1) rest)
  | '\'' :: rest => some (readLiteral rest)
  | _ => none

/-! ### Keys -/

/-- Reads one part of a key. -/
def readSimpleKey : List Char → Option (String × List Char)
  | '"' :: rest =>
    (readBasic (rest.length + 1) rest).map fun (cs, after) => (String.ofList cs, after)
  | '\'' :: rest => (readLiteral rest).map fun (cs, after) => (String.ofList cs, after)
  | cs =>
    let name := cs.takeWhile isBare
    if name.isEmpty then none else some (String.ofList name, cs.dropWhile isBare)

/-- Reads a key of one or several parts, with the blanks around it. -/
def readKey : Nat → List Char → Option (List String × List Char)
  | 0, _ => none
  | fuel + 1, cs => do
    let (part, rest) ← readSimpleKey (skipBlanks cs)
    match skipBlanks rest with
    | '.' :: rest => do
      let (parts, after) ← readKey fuel rest
      return (part :: parts, after)
    | after => return ([part], after)

/-- How deep arrays and tables may nest, and how many parts a key may have, plus one. -/
def depthLimit : Nat := 80

/-! ### Numbers and dates -/

/-- Takes digits off the front, with single underscores between them. -/
def readSpaced (isDigit : Char → Bool) : List Char → List Char × List Char
  | [] => ([], [])
  | [c] => if isDigit c then ([c], []) else ([], [c])
  | c :: '_' :: d :: rest =>
    if isDigit c then
      if isDigit d then
        let (digits, after) := readSpaced isDigit (d :: rest)
        (c :: digits, after)
      else ([c], '_' :: d :: rest)
    else ([], c :: '_' :: d :: rest)
  | c :: rest =>
    if isDigit c then
      let (digits, after) := readSpaced isDigit rest
      (c :: digits, after)
    else ([], c :: rest)

/-- Takes a sign off the front: whether it is a minus. -/
def readSign : List Char → Bool × List Char
  | '-' :: rest => (true, rest)
  | '+' :: rest => (false, rest)
  | cs => (false, cs)

/-- Takes the whole part of a number off the front: no zero may stand before other digits. -/
def readWhole (cs : List Char) : Option (List Char × List Char) :=
  let (digits, after) := readSpaced Char.isDigit cs
  if digits.isEmpty then none
  else if digits.head? = some '0' && 1 < digits.length then none
  else some (digits, after)

/-- Reads a whole number in another base after its mark, if it fits 64 bits with a sign. -/
def readBased (base : Nat) (cs : List Char) : Option (Toml × List Char) := do
  let isDigit := fun c => match Hex.digitValue? c with
    | some d => decide (d < base)
    | none => false
  let (digits, after) := readSpaced isDigit cs
  let values ← digits.mapM Hex.digitValue?
  if digits.isEmpty then none
  else if values.foldl (fun n d => n * base + d) 0 < 2 ^ 63 then return (.number digits, after)
  else none

/-- Takes an exponent off the front, if there is one. -/
def readExponent : List Char → Option (Option Int × List Char)
  | [] => some (none, [])
  | c :: rest =>
    if c = 'e' || c = 'E' then
      let (negative, rest) := readSign rest
      let (digits, after) := readSpaced Char.isDigit rest
      let n : Int := digitsValue digits
      if digits.isEmpty then none else some (some (if negative then -n else n), after)
    else some (none, c :: rest)

/-- Takes a fraction off the front, if there is one: its digits. -/
def readFraction : List Char → Option (Option (List Char) × List Char)
  | '.' :: rest =>
    let (digits, after) := readSpaced Char.isDigit rest
    if digits.isEmpty then none else some (some digits, after)
  | cs => some (none, cs)

/-- Reads a number in base ten. A whole number has to fit 64 bits with its sign, and a number with
a fraction or an exponent must not be too large for double precision. -/
def readDecimal (cs : List Char) : Option (Toml × List Char) := do
  let (negative, unsigned) := readSign cs
  let (whole, rest) ← readWhole unsigned
  let (fraction, rest) ← readFraction rest
  let (exponent, after) ← readExponent rest
  let number := Toml.number (cs.take (cs.length - after.length))
  if fraction.isNone && exponent.isNone then
    let limit := if negative then 2 ^ 63 else 2 ^ 63 - 1
    if digitsValue whole ≤ limit then return (number, after) else none
  else
    let decimals := fraction.getD []
    if negative || isFiniteDouble (whole ++ decimals) (exponent.getD 0 - decimals.length) then
      return (number, after)
    else none

/-- Reads a number of any form. -/
def readNumber (cs : List Char) : Option (Toml × List Char) :=
  match (readSign cs).2 with
  | 'i' :: 'n' :: 'f' :: after => some (.number ['i', 'n', 'f'], after)
  | 'n' :: 'a' :: 'n' :: after => some (.number ['n', 'a', 'n'], after)
  | _ =>
    match cs with
    | '0' :: 'x' :: rest => readBased 16 rest
    | '0' :: 'o' :: rest => readBased 8 rest
    | '0' :: 'b' :: rest => readBased 2 rest
    | _ => readDecimal cs

/-- Takes a number of exactly this many digits off the front. -/
def readFixed (count : Nat) (cs : List Char) : Option (Nat × List Char) :=
  let digits := cs.take count
  if digits.length = count && digits.all Char.isDigit then
    some (digitsValue digits, cs.drop count)
  else none

/-- Takes two digits off the front, for a number up to a limit. -/
def readTwo (least greatest : Nat) (cs : List Char) : Option (Nat × List Char) := do
  let (n, after) ← readFixed 2 cs
  if least ≤ n ∧ n ≤ greatest then return (n, after) else none

/-- Takes a mark off the front. -/
def readMark (mark : Char) : List Char → Option (List Char)
  | [] => none
  | c :: rest => if c = mark then some rest else none

/-- Takes a time of day off the front. -/
def readTime (cs : List Char) : Option (List Char) := do
  let (_, cs) ← readTwo 0 23 cs
  let cs ← readMark ':' cs
  let (_, cs) ← readTwo 0 59 cs
  let cs ← readMark ':' cs
  let (_, cs) ← readTwo 0 60 cs
  match cs with
  | '.' :: rest => (Text.readDigits rest).map Prod.snd
  | _ => return cs

/-- Takes an offset from universal time off the front. -/
def readOffset : List Char → Option (List Char)
  | 'Z' :: rest => some rest
  | 'z' :: rest => some rest
  | c :: rest =>
    if c = '+' || c = '-' then do
      let (_, cs) ← readTwo 0 23 rest
      let cs ← readMark ':' cs
      let (_, cs) ← readTwo 0 59 cs
      return cs
    else none
  | [] => none

/-- Takes a date off the front. -/
def readDate (cs : List Char) : Option (List Char) := do
  let (year, cs) ← readFixed 4 cs
  let cs ← readMark '-' cs
  let (month, cs) ← readTwo 1 12 cs
  let cs ← readMark '-' cs
  let (day, cs) ← readTwo 1 31 cs
  if Calendar.isValid ⟨year, month, day⟩ then return cs else none

/-- Takes the time off the front that may follow a date. -/
def readTimeOfDate : List Char → List Char
  | [] => []
  | c :: rest =>
    if c = 'T' || c = 't' || c = ' ' then
      match readTime rest with
      | some after => (readOffset after).getD after
      | none => c :: rest
    else c :: rest

/-- Reads a date, a time of day, or both. -/
def readMoment (cs : List Char) : Option (Toml × List Char) := do
  let after ← match readDate cs with
    | some rest => some (readTimeOfDate rest)
    | none => readTime cs
  return (.date (cs.take (cs.length - after.length)), after)

/-! ### Values -/

mutual

/-- Reads a value that may hold arrays and tables nested less than `depth` deep. The first number
bounds the recursion; four times the length of the text is enough. -/
def readValue : Nat → Nat → List Char → Option (Toml × List Char)
  | 0, _, _ => none
  | fuel + 1, depth, cs =>
    match readText? cs with
    | some result => result.map fun (text, after) => (.string (String.ofList text), after)
    | none =>
      match cs with
      | 't' :: 'r' :: 'u' :: 'e' :: after => some (.boolean true, after)
      | 'f' :: 'a' :: 'l' :: 's' :: 'e' :: after => some (.boolean false, after)
      | '[' :: rest =>
        if depth ≤ 1 then none
        else (readItems fuel (depth - 1) rest).map fun (items, after) => (.array items, after)
      | '\x7b' :: rest =>
        if depth ≤ 1 then none
        else do
          let (pairs, after) ← readPairs fuel (depth - 1) (skipBlanks rest)
          let members ← insertAll? .inline [] pairs
          return (.table .inline members, after)
      | _ => (readMoment cs).orElse fun _ => readNumber cs

/-- Reads the items of an array from after its opening bracket or a comma. -/
def readItems : Nat → Nat → List Char → Option (List Toml × List Char)
  | 0, _, _ => none
  | fuel + 1, depth, cs =>
    match skipLines cs.length cs with
    | ']' :: after => some ([], after)
    | cs => do
      let (item, rest) ← readValue fuel depth cs
      match skipLines rest.length rest with
      | ',' :: rest => do
        let (items, after) ← readItems fuel depth rest
        return (item :: items, after)
      | ']' :: after => return ([item], after)
      | _ => none

/-- Reads the members of a table between braces from after the opening one. -/
def readPairs : Nat → Nat → List Char → Option (List (List String × Toml) × List Char)
  | 0, _, _ => none
  | _, _, '\x7d' :: after => some ([], after)
  | fuel + 1, depth, cs => readMorePairs fuel depth cs

/-- Reads members of a table, with commas between them, and the closing brace. -/
def readMorePairs : Nat → Nat → List Char → Option (List (List String × Toml) × List Char)
  | 0, _, _ => none
  | fuel + 1, depth, cs => do
    let (pair, rest) ← readPair fuel depth cs
    match skipBlanks rest with
    | ',' :: rest => do
      let (pairs, after) ← readMorePairs fuel depth rest
      return (pair :: pairs, after)
    | '\x7d' :: after => return ([pair], after)
    | _ => none

/-- Reads a key, an equals sign and a value. -/
def readPair : Nat → Nat → List Char → Option ((List String × Toml) × List Char)
  | 0, _, _ => none
  | fuel + 1, depth, cs => do
    let (key, rest) ← readKey (depthLimit - 1) cs
    let rest ← readMark '=' rest
    let (value, after) ← readValue fuel depth (skipBlanks rest)
    return ((key, value), after)

end

/-! ### Documents -/

/-- Reads a header from after its opening bracket: the path, and whether there are two brackets. -/
def readHeader : List Char → Option ((List String × Bool) × List Char)
  | '[' :: rest => do
    let (path, rest) ← readKey (depthLimit - 1) rest
    let rest ← readMark ']' rest
    let after ← readMark ']' rest
    return ((path, true), after)
  | cs => do
    let (path, rest) ← readKey (depthLimit - 1) cs
    let after ← readMark ']' rest
    return ((path, false), after)

/-- Reads the lines of a document: the values before any header, and the sections. -/
def readLinesOf : Nat → List Char → Option (List (List String × Toml) × List Section)
  | 0, _ => none
  | fuel + 1, cs =>
    match skipLines cs.length cs with
    | [] => some ([], [])
    | '[' :: rest => do
      let ((path, isArray), rest) ← readHeader rest
      let rest ← endLine? rest
      let (values, sections) ← readLinesOf fuel rest
      return ([], ⟨path, isArray, values⟩ :: sections)
    | cs => do
      let (pair, rest) ← readPair (4 * cs.length) depthLimit cs
      let rest ← endLine? rest
      let (values, sections) ← readLinesOf fuel rest
      return (pair :: values, sections)

/-- The table that a document given as characters stands for. A byte order mark in front of it
is passed over. -/
def ofChars? (cs : List Char) : Option Toml := do
  let cs := match cs with
    | '\uFEFF' :: rest => rest
    | _ => cs
  let (values, sections) ← readLinesOf (cs.length + 1) cs
  document? values sections

/-- The table that a document stands for. -/
def parse? (s : String) : Option Toml := ofChars? s.toList

end NamedData.Toml
