/-
JSON text read into values.

The grammar is the standard one, with three limits: arrays and objects nest at most 127 deep, a
number has to lie in the range of double precision, and an escaped surrogate has to come with its
partner. Nothing but blanks may follow the value.

* `readString` — the rest of a string after its opening quote;
* `readNumber` — a number, and whether it is one of the naturals that fit 64 bits;
* `parse?` — the value of a whole text.
-/
import NamedData.Json.Number
import NamedData.Json.Value
import NamedData.Text.Hex

namespace NamedData.Json

/-- Whether a character may stand between the parts of a JSON text. -/
def isBlank (c : Char) : Bool := c = ' ' || c = '\t' || c = '\n' || c = '\r'

/-- The text without blanks in front. -/
def skipBlanks (cs : List Char) : List Char := cs.dropWhile isBlank

/-- The character that a backslash and this letter stand for. -/
def unescape? : Char → Option Char
  | '"' => some '"'
  | '\\' => some '\\'
  | '/' => some '/'
  | 'b' => some '\x08'
  | 'f' => some '\x0c'
  | 'n' => some '\n'
  | 'r' => some '\r'
  | 't' => some '\t'
  | _ => none

/-- The number that four hexadecimal digits stand for. -/
def fourDigits? (a b c d : Char) : Option Nat := do
  let a ← Hex.digitValue? a
  let b ← Hex.digitValue? b
  let c ← Hex.digitValue? c
  let d ← Hex.digitValue? d
  return ((a * 16 + b) * 16 + c) * 16 + d

/-- Whether a code unit is the first half of a surrogate pair. -/
def isHighSurrogate (n : Nat) : Bool := 0xD800 ≤ n && n ≤ 0xDBFF

/-- Whether a code unit is the second half of a surrogate pair. -/
def isLowSurrogate (n : Nat) : Bool := 0xDC00 ≤ n && n ≤ 0xDFFF

/-- The character that a surrogate pair stands for. -/
def pairChar (high low : Nat) : Char :=
  Char.ofNat (0x10000 + (high - 0xD800) * 0x400 + (low - 0xDC00))

/-- Reads a string from after its opening quote: its characters and what follows it. -/
def readString : List Char → Option (List Char × List Char)
  | [] => none
  | '"' :: rest => some ([], rest)
  | '\\' :: 'u' :: a :: b :: c :: d :: '\\' :: 'u' :: e :: f :: g :: h :: rest => do
    let n ← fourDigits? a b c d
    if isHighSurrogate n then
      let m ← fourDigits? e f g h
      if isLowSurrogate m then
        let (cs, after) ← readString rest
        return (pairChar n m :: cs, after)
      else none
    else if isLowSurrogate n then none
    else
      let (cs, after) ← readString ('\\' :: 'u' :: e :: f :: g :: h :: rest)
      return (Char.ofNat n :: cs, after)
  | '\\' :: 'u' :: a :: b :: c :: d :: rest => do
    let n ← fourDigits? a b c d
    if isHighSurrogate n || isLowSurrogate n then none
    else
      let (cs, after) ← readString rest
      return (Char.ofNat n :: cs, after)
  | '\\' :: e :: rest => do
    let c ← unescape? e
    let (cs, after) ← readString rest
    return (c :: cs, after)
  | c :: rest =>
    if c.toNat < 32 || c = '\\' then none
    else do
      let (cs, after) ← readString rest
      return (c :: cs, after)

/-- Reads a fraction, if there is one: its digits. -/
def readFraction : List Char → Option (Option (List Char) × List Char)
  | '.' :: rest => (Text.readDigits rest).map fun (digits, after) => (some digits, after)
  | cs => some (none, cs)

/-- Reads the sign of an exponent: whether it is negative. -/
def readSign : List Char → Bool × List Char
  | '-' :: rest => (true, rest)
  | '+' :: rest => (false, rest)
  | cs => (false, cs)

/-- Reads an exponent, if there is one. -/
def readExponent : List Char → Option (Option Int × List Char)
  | [] => some (none, [])
  | c :: rest =>
    if c = 'e' || c = 'E' then do
      let (negative, rest) := readSign rest
      let (digits, after) ← Text.readDigits rest
      let n : Int := Text.digitsValue digits
      return (some (if negative then -n else n), after)
    else some (none, c :: rest)

/-- Reads a number. -/
def readNumber (cs : List Char) : Option (Json × List Char) := do
  let (negative, unsigned) := match cs with
    | '-' :: rest => (true, rest)
    | _ => (false, cs)
  let (whole, rest) ← Text.readDigits unsigned
  if whole.head? = some '0' && 1 < whole.length then none
  else
    let (fraction, rest) ← readFraction rest
    let (exponent, after) ← readExponent rest
    let value := Text.digitsValue whole
    if !negative && fraction.isNone && exponent.isNone && value < 2 ^ 64 then
      return (.natural value, after)
    else
      if (Scaled.ofDigits whole (fraction.getD []) (exponent.getD 0)).isFinite then
        return (.otherNumber (cs.take (cs.length - after.length)), after)
      else none

mutual

/-- Reads a value that may hold arrays and objects nested less than `depth` deep. The first
number bounds the recursion; twice the length of the text is enough. -/
def readValue : Nat → Nat → List Char → Option (Json × List Char)
  | 0, _, _ => none
  | _, _, [] => none
  | fuel + 1, depth, c :: rest =>
    if c = '"' then (readString rest).map fun (s, after) => (.string (String.ofList s), after)
    else if c = '[' then
      if depth ≤ 1 then none
      else (readItems fuel (depth - 1) (skipBlanks rest)).map fun (js, after) => (.array js, after)
    else if c = '\x7b' then
      if depth ≤ 1 then none
      else
        (readMembers fuel (depth - 1) (skipBlanks rest)).map fun (ms, after) => (.object ms, after)
    else
      match c :: rest with
      | 'n' :: 'u' :: 'l' :: 'l' :: after => some (.null, after)
      | 't' :: 'r' :: 'u' :: 'e' :: after => some (.bool true, after)
      | 'f' :: 'a' :: 'l' :: 's' :: 'e' :: after => some (.bool false, after)
      | cs => readNumber cs

/-- Reads the items of an array from after its opening bracket. -/
def readItems : Nat → Nat → List Char → Option (List Json × List Char)
  | 0, _, _ => none
  | _, _, ']' :: after => some ([], after)
  | fuel + 1, depth, cs => do
    let (first, rest) ← readValue fuel depth cs
    let (others, after) ← readMoreItems fuel depth (skipBlanks rest)
    return (first :: others, after)

/-- Reads further items of an array, each after a comma, and the closing bracket. -/
def readMoreItems : Nat → Nat → List Char → Option (List Json × List Char)
  | 0, _, _ => none
  | _, _, ']' :: after => some ([], after)
  | fuel + 1, depth, ',' :: rest => do
    let (next, rest) ← readValue fuel depth (skipBlanks rest)
    let (others, after) ← readMoreItems fuel depth (skipBlanks rest)
    return (next :: others, after)
  | _, _, _ => none

/-- Reads the members of an object from after its opening brace. -/
def readMembers : Nat → Nat → List Char → Option (List (String × Json) × List Char)
  | 0, _, _ => none
  | _, _, '\x7d' :: after => some ([], after)
  | fuel + 1, depth, cs => do
    let (first, rest) ← readMember fuel depth cs
    let (others, after) ← readMoreMembers fuel depth (skipBlanks rest)
    return (first :: others, after)

/-- Reads further members of an object, each after a comma, and the closing brace. -/
def readMoreMembers : Nat → Nat → List Char → Option (List (String × Json) × List Char)
  | 0, _, _ => none
  | _, _, '\x7d' :: after => some ([], after)
  | fuel + 1, depth, ',' :: rest => do
    let (next, rest) ← readMember fuel depth (skipBlanks rest)
    let (others, after) ← readMoreMembers fuel depth (skipBlanks rest)
    return (next :: others, after)
  | _, _, _ => none

/-- Reads a name, a colon and a value. -/
def readMember : Nat → Nat → List Char → Option ((String × Json) × List Char)
  | 0, _, _ => none
  | fuel + 1, depth, '"' :: rest => do
    let (name, rest) ← readString rest
    match skipBlanks rest with
    | ':' :: rest =>
      let (value, after) ← readValue fuel depth (skipBlanks rest)
      return ((String.ofList name, value), after)
    | _ => none
  | _, _, _ => none

end

/-- How deep arrays and objects may nest, plus one. -/
def depthLimit : Nat := 128

/-- The value of a text given as characters. -/
def ofChars? (cs : List Char) : Option Json :=
  match readValue (3 * cs.length + 3) depthLimit (skipBlanks cs) with
  | some (j, rest) => if (skipBlanks rest).isEmpty then some j else none
  | none => none

/-- The value of a text. -/
def parse? (s : String) : Option Json := ofChars? s.toList

end NamedData.Json
