/-!
Values of TOML documents, and how tables grow.

A table may be spelled out in several places of a document. Which ones are allowed depends on how
the table came to be, so each table keeps that: `defineTable` follows a header and `assign` follows
a key. Both give nothing where the document would define the same thing twice.
-/

namespace NeighborGraph.Toml

/-- How a table came to be. -/
inductive TableOrigin where
  /-- On the way to a table with a header. -/
  | implied
  /-- By a header of its own. -/
  | headed
  /-- On the way to a value with a dotted key. -/
  | dotted
  /-- As a value between braces; such a table is complete. -/
  | inline
  deriving DecidableEq

/-- A value. -/
inductive Value where
  | text (value : String)
  | integer (value : Int)
  | floating (value : Float)
  /-- A number out of range, or one that lacks digits or has other characters among them. It is
  refused where it is looked at, not where it stands. -/
  | valueless
  | boolean (value : Bool)
  | list (items : List Value)
  | table (origin : TableOrigin) (members : List (String × Value))

namespace Value

mutual

/-- Every number in the value is in range and written in full. -/
def isReadable : Value → Bool
  | valueless => false
  | list items => areReadable items
  | table _ members => areReadableMembers members
  | _ => true

/-- All items of a list are readable. -/
def areReadable : List Value → Bool
  | [] => true
  | item :: rest => item.isReadable && areReadable rest

/-- All members of a table are readable. -/
def areReadableMembers : List (String × Value) → Bool
  | [] => true
  | (_, member) :: rest => member.isReadable && areReadableMembers rest

end

end Value

/-- The members of a table, in order; no key comes twice. -/
abbrev Members := List (String × Value)

namespace Members

/-- The members with the value of a key changed; the change gets nothing for a new key. -/
def alter (key : String) (change : Option Value → Option Value) : Members → Option Members
  | [] => (change none).map fun value => [(key, value)]
  | (other, value) :: rest =>
    if other = key then (change (some value)).map fun value => (key, value) :: rest
    else (alter key change rest).map ((other, value) :: ·)

/-- The members with a table that a header names. A table may have one header, and none if it is
an inline table or made by dotted keys. -/
def defineTable : List String → Members → Option Members
  | [], _ => none
  | [key], members => members.alter key fun
    | none => some (.table .headed [])
    | some (.table .implied inner) => some (.table .headed inner)
    | some _ => none
  | key :: rest, members => members.alter key fun
    | none => (defineTable rest []).map (.table .implied)
    | some (.table .inline _) => none
    | some (.table origin inner) => (defineTable rest inner).map (.table origin)
    | some _ => none

/-- The members with a value for a dotted key. The tables on the way must be new, made by dotted
keys or implied by headers; those that were implied count as made by the key. -/
def assign (value : Value) : List String → Members → Option Members
  | [], _ => none
  | [key], members => members.alter key fun
    | none => some value
    | some _ => none
  | key :: rest, members => members.alter key fun
    | none => (assign value rest []).map (.table .dotted)
    | some (.table .dotted inner) => (assign value rest inner).map (.table .dotted)
    | some (.table .implied inner) => (assign value rest inner).map (.table .dotted)
    | some _ => none

/-- The members with a value for a dotted key inside the table that a path leads to. -/
def assignIn (path key : List String) (value : Value) (members : Members) : Option Members :=
  match path with
  | [] => members.assign value key
  | name :: rest => members.alter name fun
    | some (.table origin inner) => (assignIn rest key value inner).map (.table origin)
    | _ => none

end Members

end NeighborGraph.Toml
