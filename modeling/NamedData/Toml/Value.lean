/-
TOML values, and tables put together from the parts of a document.

A table can be opened in several ways, and the way decides what may still be added to it: a header
opens it for good, a header of a table inside it or a dotted key only makes room for it.

* `descend` — changes the table at the end of a path, making room for the tables on the way;
* `insert?` — adds a value under a dotted key.
-/

namespace NamedData

/-- How a table came to be. -/
inductive TableStyle where
  /-- By a header of its own, or as the whole document. -/
  | header
  /-- By the header of a table inside it. -/
  | implied
  /-- By a dotted key. -/
  | dotted
  /-- Between braces, as a value. -/
  | inline
deriving DecidableEq, Repr

/-- A TOML value. Of a number or a date only the text is kept. -/
inductive Toml where
  | string (s : String)
  | boolean (b : Bool)
  | number (text : List Char)
  | date (text : List Char)
  | array (items : List Toml)
  /-- A table, with its members in order. -/
  | table (style : TableStyle) (members : List (String × Toml))
  /-- Tables that each were opened by a header with two brackets. -/
  | tables (items : List Toml)
deriving Repr

namespace Toml

/-- The members of a table, in order. -/
abbrev Members := List (String × Toml)

/-- The members with the value under a key replaced or, if there is none, added. -/
def put (members : Members) (key : String) (value : Toml) : Members :=
  if members.any fun m => m.1 == key then
    members.map fun m => if m.1 == key then (key, value) else m
  else members ++ [(key, value)]

/-- The table with the members at the end of a path changed. A table that is missing on the way is
made, by dots or by a header. Dots do not reach into a table that has a header, and nothing
reaches into a value; of several tables under one key the last is meant. -/
def descend (byDots : Bool) (change : TableStyle → Members → Option (TableStyle × Members)) :
    List String → TableStyle → Members → Option (TableStyle × Members)
  | [], style, members => change style members
  | key :: rest, style, members =>
    match members.lookup key with
    | none => do
      let (inner, innerMembers) ←
        descend byDots change rest (if byDots then .dotted else .implied) []
      return (style, put members key (.table inner innerMembers))
    | some (.table .inline _) => none
    | some (.table inner innerMembers) =>
      if byDots && inner = .header then none
      else do
        let (inner, innerMembers) ← descend byDots change rest inner innerMembers
        return (style, put members key (.table inner innerMembers))
    | some (.tables items) =>
      match items.getLast? with
      | some (.table inner innerMembers) => do
        let (inner, innerMembers) ← descend byDots change rest inner innerMembers
        return (style, put members key (.tables (items.dropLast ++ [.table inner innerMembers])))
      | _ => none
    | some _ => none

/-- The members of a table with a value added under a dotted key. A table made by dots takes
values by dots only, and no other table takes them so. -/
def insert? (style : TableStyle) (members : Members) (path : List String) (value : Toml) :
    Option Members := do
  let key ← path.getLast?
  let way := path.dropLast
  let add := fun (inner : TableStyle) (members : Members) =>
    if (inner = .dotted) = way.isEmpty then none
    else if members.any fun m => m.1 == key then none
    else some (inner, members ++ [(key, value)])
  let (_, members) ← descend true add way style members
  return members

/-- The members of a table with several values added, each under a dotted key. -/
def insertAll? (style : TableStyle) (members : Members) :
    List (List String × Toml) → Option Members
  | [] => some members
  | (path, value) :: rest => do
    let members ← insert? style members path value
    insertAll? style members rest

/-- What follows a header: the path it names, whether it has two brackets, and the values under
it. -/
structure Section where
  path : List String
  isArray : Bool
  values : List (List String × Toml)
deriving Repr

/-- The document with a section added. A header with one bracket opens a table that does not exist
or for which there is only room; one with two brackets adds a table to those under the key. -/
def addSection? (document : Members) (part : Section) : Option Members := do
  let key ← part.path.getLast?
  let open? := fun (style : TableStyle) (members : Members) =>
    if part.isArray then
      match members.lookup key with
      | none => do
        let inner ← insertAll? .header [] part.values
        return (style, put members key (.tables [.table .header inner]))
      | some (.tables items) => do
        let inner ← insertAll? .header [] part.values
        return (style, put members key (.tables (items ++ [.table .header inner])))
      | some _ => none
    else
      match members.lookup key with
      | none => do
        let inner ← insertAll? .header [] part.values
        return (style, put members key (.table .header inner))
      | some (.table .implied room) => do
        let inner ← insertAll? .header room part.values
        return (style, put members key (.table .header inner))
      | some _ => none
  let (_, document) ← descend false open? part.path.dropLast .header document
  return document

/-- The document made of values before any header and of sections. -/
def document? (values : List (List String × Toml)) (sections : List Section) : Option Toml := do
  let members ← insertAll? .header [] values
  let members ← sections.foldlM addSection? members
  return .table .header members

end Toml

end NamedData
