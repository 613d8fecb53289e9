import QueryDsl.Clause.Decode
import QueryDsl.Request.Basic
import QueryDsl.Text.Quoted

/-!
# Decoding search requests

`Request.ofJson` reads a request from an object with the keys `q` (or `freeText`), `filters`, `ids`, `size` and
`from`, all of them optional and possibly null, or from an array of these values in that order. Entries are taken one
by one into a `Draft`, and the first one that does not fit decides the error; identifiers are checked next, and the
filters are decoded last.
-/

namespace QueryDsl

/-- The parts of a request. -/
inductive RequestKey where
  | text
  | filters
  | ids
  | size
  | offset
  deriving DecidableEq, Repr

namespace RequestKey

/-- The parts in the order of the array form. -/
def all : List RequestKey := [text, filters, ids, size, offset]

/-- The name of a part in messages. -/
def name : RequestKey → String
  | text => "q"
  | filters => "filters"
  | ids => "ids"
  | size => "size"
  | offset => "from"

/-- The part that a key of an object means. -/
def ofKey? (key : String) : Option RequestKey :=
  if key = "freeText" then some text else all.find? fun k => k.name == key

end RequestKey

/-! ## Values of parts -/

/-- How a message names a value that does not fit. -/
def describeValue : Json → String
  | .null => "null"
  | .bool b => "boolean `" ++ toString b ++ "`"
  | .num (.int n) => "integer `" ++ String.ofList (Json.integerText n.value) ++ "`"
  | .num (.float x) => "floating point `" ++ String.ofList (Json.doubleLayout.text x) ++ "`"
  | .str s => "string " ++ Text.quoted s
  | .arr _ => "sequence"
  | .obj _ => "map"

/-- The error about a value of the wrong type. -/
def invalidType (v : Json) (expected : String) : QueryError :=
  .invalidRequest ("invalid type: " ++ describeValue v ++ ", expected " ++ expected)

/-- A value that may be null. -/
def nullable (read : Json → Except QueryError α) : Json → Except QueryError (Option α)
  | .null => .ok none
  | v => (read v).map some

/-- A text. -/
def decodeText (v : Json) : Except QueryError String :=
  match v with
  | .str s => .ok s
  | _ => .error (invalidType v "a string")

/-- A list. -/
def decodeList (v : Json) : Except QueryError (List Json) :=
  match v with
  | .arr xs => .ok xs
  | _ => .error (invalidType v "a sequence")

/-- An unsigned word. -/
def decodeWord (v : Json) : Except QueryError UInt64 :=
  match v with
  | .num (.int n) =>
    match n.toWord? with
    | some w => .ok w
    | none => .error (.invalidRequest ("invalid value: " ++ describeValue v ++ ", expected u64"))
  | _ => .error (invalidType v "u64")

/-! ## Drafts -/

/-- The parts that have been met so far. A part that was null has been met too. -/
structure Draft where
  text : Option (Option String) := none
  filters : Option (Option (List Json)) := none
  ids : Option (Option (List Json)) := none
  size : Option (Option UInt64) := none
  offset : Option (Option UInt64) := none

namespace Draft

/-- Whether a part has been met. -/
def has (d : Draft) : RequestKey → Bool
  | .text => d.text.isSome
  | .filters => d.filters.isSome
  | .ids => d.ids.isSome
  | .size => d.size.isSome
  | .offset => d.offset.isSome

/-- Takes the value of a part. -/
def set (d : Draft) (key : RequestKey) (v : Json) : Except QueryError Draft :=
  match key with
  | .text => (nullable decodeText v).map fun x => { d with text := some x }
  | .filters => (nullable decodeList v).map fun x => { d with filters := some x }
  | .ids => (nullable decodeList v).map fun x => { d with ids := some x }
  | .size => (nullable decodeWord v).map fun x => { d with size := some x }
  | .offset => (nullable decodeWord v).map fun x => { d with offset := some x }

/-- The error about a key that is no part of a request. -/
def unknownKey (key : String) : QueryError :=
  .invalidRequest ("unknown field `" ++ key ++
    "`, expected one of `freeText`, `q`, `filters`, `ids`, `size`, `from`")

/-- Takes the members of an object in order. Each part may come once, under whichever key. -/
def addMembers (d : Draft) : Members → Except QueryError Draft
  | [] => .ok d
  | (key, v) :: rest =>
    match RequestKey.ofKey? key with
    | none => .error (unknownKey key)
    | some part =>
      if d.has part then
        .error (.invalidRequest ("duplicate field `" ++ part.name ++ "`"))
      else
        match d.set part v with
        | .error e => .error e
        | .ok d => addMembers d rest

/-- Takes the elements of an array, one for each of the parts. -/
def addElements (d : Draft) : List RequestKey → List Json → Except QueryError Draft
  | key :: keys, v :: rest =>
    match d.set key v with
    | .error e => .error e
    | .ok d => addElements d keys rest
  | _, _ => .ok d

/-- The draft that an object or an array makes. -/
def ofJson (v : Json) : Except QueryError Draft :=
  match v with
  | .obj members => addMembers {} members
  | .arr elements =>
    match addElements {} RequestKey.all elements with
    | .error e => .error e
    | .ok d =>
      if elements.length ≤ RequestKey.all.length then .ok d
      else
        .error (.invalidRequest ("invalid length " ++ toString elements.length ++
          ", expected fewer elements in array"))
  | _ => .error (invalidType v "struct RawRequest")

end Draft

/-! ## Requests -/

/-- Identifiers are strings and numbers. -/
def isIdentifier : Json → Bool
  | .str _ => true
  | .num _ => true
  | _ => false

/-- Refuses a list with a value that is no identifier. -/
def checkIds (ids : List Json) : Except QueryError Unit :=
  match ids.find? fun id => !isIdentifier id with
  | none => .ok ()
  | some id => .error (.invalidRequest ("ids must be strings or numbers, found " ++ id.compact))

/-- The filters that the values of a list describe. -/
def decodeFilters : List Json → Except QueryError (List Filter)
  | [] => .ok []
  | v :: vs =>
    match Filter.ofJson v with
    | .error e => .error e
    | .ok f => (decodeFilters vs).map (f :: ·)

namespace Request

/-- The request that a draft describes. A part that is absent or null is empty. -/
def ofDraft (d : Draft) : Except QueryError Request := do
  let ids := d.ids.join.getD []
  checkIds ids
  let filters ← decodeFilters (d.filters.join.getD [])
  return ⟨d.text.join.getD "", filters, ids, d.size.join, d.offset.join⟩

/-- The request that a JSON value describes. -/
def ofJson (v : Json) : Except QueryError Request :=
  match Draft.ofJson v with
  | .error e => .error e
  | .ok d => ofDraft d

/-- The request that a JSON text describes. -/
def parse (s : String) : Except QueryError Request :=
  match Json.parse s with
  | .error e => .error (.invalidRequest e.message)
  | .ok v => ofJson v

end Request

end QueryDsl
