/-
What can be wrong with an element, or with an element that should be a name or an exclude filter.

Each error is a cause; `TlvError.message` is the one place where it gets its wording.
-/
import NamedData.Text.Decimal

namespace NamedData

open Text

/-- Why an element is not a name. -/
inductive NameError where
  /-- The element has another type number. -/
  | wrongType (actual : UInt64)
  /-- A child is not a name component. -/
  | unsupportedComponent (type : UInt64)
deriving DecidableEq, Repr

/-- Why an element is not an exclude filter. -/
inductive ExcludeError where
  /-- The element has another type number. -/
  | wrongType (actual : UInt64)
  /-- The filter has no entry. -/
  | empty
  /-- Two open ranges follow one another. -/
  | adjacentAny
  /-- An entry is neither a component nor an open range. -/
  | unexpectedElement (type : UInt64)
deriving DecidableEq, Repr

/-- What is wrong with an element or with what it holds. -/
inductive TlvError where
  /-- Fewer bytes are left than a number or a value takes. -/
  | truncated (expected actual : Nat)
  /-- Bytes are left over after a whole element. -/
  | trailingBytes (count : Nat)
  /-- An integer value has a length other than 1, 2, 4 or 8. -/
  | invalidInteger (length : Nat)
  /-- A child that has to be there is absent. -/
  | missingElement (type : UInt64)
  /-- The element is not a name. -/
  | invalidName (cause : NameError)
  /-- The element is not an exclude filter. -/
  | invalidExclude (cause : ExcludeError)
deriving DecidableEq, Repr

/-- The wording of a name error. -/
def NameError.message : NameError → String
  | .wrongType actual => "expected TLV type 7, got " ++ wordText actual
  | .unsupportedComponent type => "unsupported component type " ++ wordText type

/-- The wording of an exclude error. -/
def ExcludeError.message : ExcludeError → String
  | .wrongType actual => "expected TLV type 16, got " ++ wordText actual
  | .empty => "empty Exclude"
  | .adjacentAny => "two adjacent Any markers"
  | .unexpectedElement type => "unexpected element type " ++ wordText type

/-- The wording of an element error. -/
def TlvError.message : TlvError → String
  | .truncated expected actual =>
    "Truncated TLV: expected " ++ natText expected ++ " bytes, got " ++ natText actual
  | .trailingBytes count => "Trailing bytes after TLV element: " ++ natText count
  | .invalidInteger length => "Invalid NonNegativeInteger length: " ++ natText length
  | .missingElement type => "Missing TLV element " ++ wordText type
  | .invalidName cause => "Invalid Name: " ++ cause.message
  | .invalidExclude cause => "Invalid Exclude: " ++ cause.message

end NamedData
