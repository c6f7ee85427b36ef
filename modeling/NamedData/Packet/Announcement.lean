/-
Announcements: a name, a nonce and a lifetime.

The nonce is four bytes, least significant first. Older senders write it as an integer, which is
read too. A lifetime of four seconds is the default and is left out.

Setting the nonce of an announcement that has its encoding does not drop the encoding if the first
nonce in it takes four bytes: those are overwritten.

* `length_nonceBytes`, `readNonce_nonceBytes` — a nonce takes four bytes and reads back from them;
* `patchNonce?` — an encoding with another nonce, if it has room for one.
-/
import NamedData.Record.Form
import NamedData.Name.Uri
import NamedData.Time.Duration

namespace NamedData

/-- An announcement of data under a name. -/
structure Announcement where
  /-- The name that is announced. -/
  name : Name := {}
  /-- The number that tells announcements apart. -/
  nonce : Option UInt32 := none
  /-- How long the announcement holds. -/
  timeout : Duration := Duration.ofMillis 4000
deriving DecidableEq, Repr

namespace Announcement

/-- The lifetime that is left out. -/
def defaultTimeout : Duration := Duration.ofMillis 4000

/-- An announcement of a name with a nonce and, if given, a lifetime of whole milliseconds. -/
def create (name : Name) (nonce : UInt32) (timeout : Option Duration) : Announcement where
  name := name
  nonce := some nonce
  timeout := (timeout.map Duration.wholeMillis).getD defaultTimeout

/-- A nonce as it travels: four bytes, least significant first. -/
def nonceBytes (n : UInt32) : Bytes := (bigEndian 4 n.toNat).reverse

/-- The nonce that an element's value stands for. -/
def readNonce (value : Bytes) : Except PacketError UInt32 :=
  if value.length = 4 then .ok (UInt32.ofNat (ofBigEndian value.reverse))
  else
    match NonNegativeInteger.decode value with
    | .error e => .error (.element .announcement e)
    | .ok n =>
      if n.toNat < 2 ^ 32 then .ok (UInt32.ofNat n.toNat)
      else .error (.invalidValue .announcement "Nonce" n)

@[simp] theorem length_nonceBytes (n : UInt32) : (nonceBytes n).length = 4 := by
  simp [nonceBytes]

theorem readNonce_nonceBytes (n : UInt32) : readNonce (nonceBytes n) = .ok n := by
  have := n.toNat_lt
  rw [readNonce, if_pos (length_nonceBytes n), nonceBytes, List.reverse_reverse,
    ofBigEndian_bigEndian, Nat.mod_eq_of_lt (by omega)]
  simp

/-- The nonce in the first child that is one, if there is one. -/
def findNonce (children : List Element) : Except PacketError (Option UInt32) :=
  match Lookup.first? TypeNumber.nonce children with
  | none => .ok none
  | some e => (readNonce e.value).map some

instance : Record Announcement where
  kind := .announcement
  expectedType := TypeNumber.announcement
  writtenType := TypeNumber.announcement
  initial := {}
  fields a :=
    [a.name.layout] ++
      (match a.nonce with
        | some n => [Layout.byteArray TypeNumber.nonce (nonceBytes n)]
        | none => []) ++
      (if a.timeout = defaultTimeout then []
        else [Layout.integer TypeNumber.timeout a.timeout.wireMillis])
  read children := do
    let kind := Kind.announcement
    let name ← Lookup.name kind children
    let nonce ← findNonce children
    let timeout ← Lookup.integer? kind TypeNumber.timeout children
    return ⟨name, nonce, (timeout.map Duration.ofMillis).getD defaultTimeout⟩

/-- The encoding with another nonce, if the first nonce in it takes four bytes. -/
def patchNonce? (wire : Block) (nonce : UInt32) : Option Block :=
  match wire.findWithOffset? TypeNumber.nonce with
  | none => none
  | some (offset, e) =>
    if e.value.length = 4 then
      (wire.patch (offset + e.valueOffset) (nonceBytes nonce)).toOption
    else none

/-- The announcement with a nonce. -/
def withNonce (nonce : UInt32) (c : Cached Announcement) : Cached Announcement where
  fields := { c.fields with nonce := some nonce }
  wire? := c.wire?.bind fun wire => patchNonce? wire nonce

/-- The announcement with a nonce if it had none: the one that was drawn for it. -/
def ensureNonce (draw : UInt32) (c : Cached Announcement) : Cached Announcement :=
  match c.fields.nonce with
  | some _ => c
  | none => withNonce draw c

/-- The announcement with another nonce if it had one: the first of the draws that differs. -/
def refreshNonce (draws : List UInt32) (c : Cached Announcement) : Cached Announcement :=
  match c.fields.nonce with
  | none => c
  | some old =>
    match draws.find? (· ≠ old) with
    | some nonce => withNonce nonce c
    | none => c

/-- A change to an announcement. -/
inductive Edit where
  | setName (name : Name)
  | setTimeout (timeout : Duration)
  | setNonce (nonce : UInt32)
  | ensureNonce (draw : UInt32)
  | refreshNonce (draws : List UInt32)
deriving DecidableEq, Repr

/-- The announcement after a change. A lifetime is cut to whole milliseconds. -/
def Edit.apply : Edit → Cached Announcement → Cached Announcement
  | .setName name, c => c.edit fun a => { a with name := name }
  | .setTimeout timeout, c => c.edit fun a => { a with timeout := timeout.wholeMillis }
  | .setNonce nonce, c => withNonce nonce c
  | .ensureNonce draw, c => Announcement.ensureNonce draw c
  | .refreshNonce draws, c => Announcement.refreshNonce draws c

instance : Editable Announcement Edit := ⟨Edit.apply⟩

instance : Form Announcement where
  members a :=
    [("name", a.name.toJson), ("nonce", .orNull (fun n => .natural n.toNat) a.nonce),
      ("timeout", a.timeout.toJson)]
  ofJson? j := do
    match ← j.fields? ["name", "nonce", "timeout"] with
    | [name, nonce, timeout] =>
      let nonce ← Json.optional (Json.natBelow? (2 ^ 32)) nonce
      return ⟨← Json.required Name.ofJson? name, nonce.map UInt32.ofNat,
        ← Json.required Duration.ofJson? timeout⟩
    | _ => none
  text? a := some <|
    a.name.uri ++ parameters
      ((if a.timeout = defaultTimeout then []
        else [("ndn.AnnouncementTimeout", Text.natText a.timeout.millis)]) ++
      (match a.nonce with
        | some n => [("ndn.Nonce", Text.natText n.toNat)]
        | none => []))
  name? a := some a.name
  matches? a name := some (a.name.isPrefixOf name)

end Announcement

end NamedData
