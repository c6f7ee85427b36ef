/-
Dumps: byte strings to be inspected, given raw or as annotated hexadecimal text.

In hexadecimal text, white space of ASCII is ignored and a number sign starts a comment that runs
to the end of its line.

* `ofHexText` — the bytes of such a text;
* `frames` — the elements that a dump is made of, with their offsets.
-/
import NamedData.Block
import NamedData.Text.Hex
import NamedData.Text.Quoted

namespace NamedData

/-- What is wrong with a dump. -/
inductive DumpError where
  /-- The text is not hexadecimal. -/
  | hex (cause : Hex.DigitError)
  /-- What begins at this offset is not a whole element. -/
  | framing (offset : Nat) (cause : TlvError)
deriving DecidableEq, Repr

/-- The wording of what is wrong with hexadecimal digits. -/
def Hex.DigitError.message : Hex.DigitError → String
  | .oddLength => "Odd number of digits"
  | .invalidDigit code index =>
    "Invalid character " ++ Text.quotedChar (Char.ofNat code.toNat) ++ " at position " ++
      Text.natText index

/-- The wording of what is wrong with a dump. -/
def DumpError.message : DumpError → String
  | .hex cause => "Invalid hex input: " ++ cause.message
  | .framing offset cause =>
    "Malformed TLV at offset " ++ Text.natText offset ++ ": " ++ cause.message

namespace Dump

/-- Whether a byte is white space of ASCII: space, tab, line feed, form feed or carriage return. -/
def isBlank (b : UInt8) : Bool := b == 32 || b == 9 || b == 10 || b == 12 || b == 13

/-- The bytes of a text outside comments and white space; the flag says whether the text begins
inside a comment. -/
def significant : Bool → Bytes → Bytes
  | _, [] => []
  | true, b :: rest => significant (b != 10) rest
  | false, b :: rest =>
    if b = 35 then significant true rest
    else if isBlank b then significant false rest
    else b :: significant false rest

/-- The bytes that a hexadecimal text stands for. -/
def ofHexText (text : Bytes) : Except DumpError Bytes :=
  match Hex.decode (significant false text) with
  | .ok bs => .ok bs
  | .error e => .error (.hex e)

/-- The elements that `bs` is made of, where `offset` is where it begins in the whole dump. -/
def framesFrom (offset : Nat) (bs : Bytes) : Except DumpError (List (Nat × Element)) :=
  if bs.isEmpty then .ok []
  else
    match _h : Element.decodeFirst bs with
    | .error e => .error (.framing offset e)
    | .ok (e, rest) => (framesFrom (offset + e.size) rest).map ((offset, e) :: ·)
termination_by bs.length
decreasing_by exact Element.decodeFirst_rest_lt _h

/-- The elements that a dump is made of, with the offsets where they begin. -/
def frames (bs : Bytes) : Except DumpError (List (Nat × Element)) := framesFrom 0 bs

end Dump

end NamedData
