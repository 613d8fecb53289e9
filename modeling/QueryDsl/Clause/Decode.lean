import QueryDsl.Clause.Basic
import QueryDsl.Error
import QueryDsl.Json.Printer
import QueryDsl.Json.Reader

/-!
# Decoding filter clauses

`Filter.ofJson` reads a filter from a JSON object such as `{"type": "exists", "field": "owner", "not": true}`. The
stages come one after the other, and the first that fails decides the error: the kind, keys that mean nothing, the
negation, absent fields, and last the types of the fields.
-/

namespace QueryDsl

/-- The members of a JSON object. -/
abbrev Members := List (String × Json)

/-! ## Keys with two spellings -/

/-- The first of some keys that an object has, with its value. -/
def firstPresent? (members : Members) : List String → Option (String × Json)
  | [] => none
  | key :: keys =>
    match members.lookup key with
    | some v => some (key, v)
    | none => firstPresent? members keys

/-- The keys under which a clause may name its kind, the preferred one first. -/
def kindKeys : List String := ["type", "kind"]

/-- The keys under which a clause may be negated, the preferred one first. -/
def negationKeys : List String := ["not", "negate"]

/-- What stands for the kind in an error about a clause that does not tell its kind. -/
def unknownKind : String := "<unknown>"

/-! ## Stages -/

/-- The kind with a given name. -/
def ClauseKind.ofName (name : String) : Except QueryError ClauseKind :=
  match ofName? name with
  | some kind => .ok kind
  | none => .error (.unsupportedKind name)

/-- The kind of a clause, and the key under which it is named. -/
def decodeKind (members : Members) : Except QueryError (String × ClauseKind) :=
  match firstPresent? members kindKeys with
  | none => .error (.missingField unknownKind "type")
  | some (key, v) =>
    match v.str? with
    | none => .error (.invalidField unknownKind key "a string")
    | some name => (ClauseKind.ofName name).map (key, ·)

/-- Refuses a clause with a key that is neither one of the given ones nor a field of its kind. -/
def checkKeys (kind : ClauseKind) (used : List String) (members : Members) : Except QueryError Unit :=
  match members.find? fun m => !(used.contains m.1 || kind.requiredFields.contains m.1) with
  | none => .ok ()
  | some (key, _) => .error (.unknownField kind.name key)

/-- Whether a clause is negated. Null counts as absent. -/
def decodeNegation (kind : ClauseKind) : Option (String × Json) → Except QueryError Bool
  | none => .ok false
  | some (_, .null) => .ok false
  | some (_, .bool b) => .ok b
  | some (key, _) => .error (.invalidField kind.name key "a boolean")

/-- The value of a field. Null counts as absent. -/
def fieldValue (kind : ClauseKind) (members : Members) (field : String) : Except QueryError Json :=
  match members.lookup field with
  | none => .error (.missingField kind.name field)
  | some .null => .error (.missingField kind.name field)
  | some v => .ok v

/-- Refuses a clause that lacks one of the given fields. -/
def checkPresent (kind : ClauseKind) (members : Members) : List String → Except QueryError Unit
  | [] => .ok ()
  | field :: fields =>
    match fieldValue kind members field with
    | .error e => .error e
    | .ok _ => checkPresent kind members fields

/-- The value of a field as one of the expected type. -/
def typedField (kind : ClauseKind) (members : Members) (field expected : String) (view : Json → Option α) :
    Except QueryError α :=
  match fieldValue kind members field with
  | .error e => .error e
  | .ok v =>
    match view v with
    | none => .error (.invalidField kind.name field expected)
    | some a => .ok a

/-- A coordinate of a point. -/
def coordinate (coordinates : Members) (name : String) : Except QueryError Json :=
  match coordinates.lookup name with
  | none => .error (.missingField ClauseKind.geoDistance.name ("point." ++ name))
  | some .null => .error (.missingField ClauseKind.geoDistance.name ("point." ++ name))
  | some v => .ok v

/-- A point has its two coordinates and nothing else. -/
def decodePoint (coordinates : Members) : Except QueryError GeoPoint := do
  let lat ← coordinate coordinates "lat"
  let lon ← coordinate coordinates "lon"
  match coordinates.find? fun m => m.1 != "lat" && m.1 != "lon" with
  | none => .ok ⟨lat, lon⟩
  | some (key, _) => .error (.unknownField ClauseKind.geoDistance.name ("point." ++ key))

/-- The clause of a kind, its fields taken in the order in which they are required. -/
def decodeClause (kind : ClauseKind) (members : Members) : Except QueryError Clause :=
  match kind with
  | .term => do
    let field ← typedField kind members "field" "a string" Json.str?
    let value ← fieldValue kind members "term"
    return .term field value
  | .terms => do
    let field ← typedField kind members "field" "a string" Json.str?
    let values ← typedField kind members "terms" "an array" Json.arr?
    return .terms field values
  | .range => do
    let field ← typedField kind members "field" "a string" Json.str?
    let lower ← fieldValue kind members "from"
    let upper ← fieldValue kind members "to"
    let includeLower ← typedField kind members "include_lower" "a boolean" Json.bool?
    let includeUpper ← typedField kind members "include_upper" "a boolean" Json.bool?
    return .range field ⟨lower, upper, includeLower, includeUpper⟩
  | .geoDistance => do
    let field ← typedField kind members "field" "a string" Json.str?
    let distance ← typedField kind members "distance" "a number" Json.num?
    let unit ← typedField kind members "unit" "a string" Json.str?
    let coordinates ← typedField kind members "point" "an object" Json.obj?
    let point ← decodePoint coordinates
    return .geoDistance field distance unit point
  | .docType => do
    let value ← typedField kind members "value" "a string" Json.str?
    return .docType value
  | .fieldExists => do
    let field ← typedField kind members "field" "a string" Json.str?
    return .fieldExists field
  | .fieldMissing => do
    let field ← typedField kind members "field" "a string" Json.str?
    return .fieldMissing field

/-! ## Filters -/

namespace Filter

/-- The filter that the members of an object describe. -/
def ofMembers (members : Members) : Except QueryError Filter := do
  let (kindKey, kind) ← decodeKind members
  let negation := firstPresent? members negationKeys
  checkKeys kind (kindKey :: negation.toList.map Prod.fst) members
  let negate ← decodeNegation kind negation
  checkPresent kind members kind.requiredFields
  let clause ← decodeClause kind members
  return ⟨clause, negate⟩

/-- The filter that a JSON value describes. -/
def ofJson (v : Json) : Except QueryError Filter :=
  match v with
  | .obj members => ofMembers members
  | _ => .error (.invalidRequest ("filter clause must be an object, found " ++ v.compact))

/-- The filter that a JSON text describes. -/
def parse (s : String) : Except QueryError Filter :=
  match Json.parse s with
  | .error e => .error (.invalidRequest e.message)
  | .ok v => ofJson v

end Filter

end QueryDsl
