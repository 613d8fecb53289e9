import QueryDsl.Clause.Decode

/-!
# The form of clause objects

What an object must be like to describe a clause of a kind, said by look-ups alone: the keys that are chosen
(`Members.kindKey`, `Members.negationKey`), the keys that mean something (`Members.Known`), the fields that are there
(`Members.Present`), and the fields that hold what they should (`Members.Fits`). An object that has all of it is
`Members.Accepted`.

`FieldFault` says what is wrong with the value of a field, and by which error; `PointFault` does so for a point.
`Members.Carries` says where the values of a clause stand.
-/

namespace QueryDsl

/-! ## Types of fields -/

/-- The types that fields may ask for. -/
inductive FieldType where
  | text
  | number
  | flag
  | list
  | object

namespace FieldType

/-- How an error names a type. -/
def expected : FieldType → String
  | text => "a string"
  | number => "a number"
  | flag => "a boolean"
  | list => "an array"
  | object => "an object"

/-- The values of a type. -/
def Holds : FieldType → Json → Prop
  | text, v => ∃ s, v = .str s
  | number, v => ∃ n, v = .num n
  | flag, v => ∃ b, v = .bool b
  | list, v => ∃ xs, v = .arr xs
  | object, v => ∃ ms, v = .obj ms

end FieldType

/-- The type that a field asks for. The fields `term`, `from` and `to` hold any value. -/
def fieldType? (field : String) : Option FieldType :=
  match field with
  | "field" | "unit" | "value" => some .text
  | "distance" => some .number
  | "include_lower" | "include_upper" => some .flag
  | "terms" => some .list
  | "point" => some .object
  | _ => none

/-! ## Objects -/

namespace Members

/-- The first of two keys if it is there, else the second. -/
def choose (ms : Members) (preferred other : String) : String :=
  if (ms.lookup preferred).isSome then preferred else other

/-- The key that names the kind. -/
def kindKey (ms : Members) : String := ms.choose "type" "kind"

/-- The key that may negate the clause. -/
def negationKey (ms : Members) : String := ms.choose "not" "negate"

/-- The object is of a kind. -/
def Names (ms : Members) (kind : ClauseKind) : Prop := ms.lookup ms.kindKey = some (.str kind.name)

/-- A key means something in a clause of a kind. -/
def Known (ms : Members) (kind : ClauseKind) (key : String) : Prop :=
  key = ms.kindKey ∨ key = ms.negationKey ∨ key ∈ kind.requiredFields

/-- The negation is absent, null or a boolean. -/
def NegationFits (ms : Members) : Prop :=
  ∀ v, ms.lookup ms.negationKey = some v → v = .null ∨ ∃ b, v = .bool b

/-- A field is there and not null. -/
def Present (ms : Members) (field : String) : Prop := ∃ v, ms.lookup field = some v ∧ v ≠ .null

/-- The object is a point: its keys are `lat` and `lon`, and neither is null. -/
def IsPoint (ms : Members) : Prop :=
  ms.Present "lat" ∧ ms.Present "lon" ∧ ∀ m ∈ ms, m.1 = "lat" ∨ m.1 = "lon"

end Members

/-- What is wrong with the coordinates of a point: `lat` is missing, else `lon` is, else there is another key. -/
inductive PointFault (ms : Members) : QueryError → Prop
  | noLatitude : ¬ ms.Present "lat" → PointFault ms (.missingField "geo_distance" "point.lat")
  | noLongitude : ms.Present "lat" → ¬ ms.Present "lon" →
      PointFault ms (.missingField "geo_distance" "point.lon")
  | strayCoordinate {before after : Members} {m : String × Json} : ms.Present "lat" → ms.Present "lon" →
      ms = before ++ m :: after → (∀ b ∈ before, b.1 = "lat" ∨ b.1 = "lon") → ¬ (m.1 = "lat" ∨ m.1 = "lon") →
      PointFault ms (.unknownField "geo_distance" ("point." ++ m.1))

/-- A value is of the type that a field asks for, and a point if the field is `point`. -/
def FieldFits (field : String) (v : Json) : Prop :=
  (∀ type, fieldType? field = some type → type.Holds v) ∧ ∀ ms : Members, field = "point" → v = .obj ms → ms.IsPoint

/-- What is wrong with the value of a field. -/
inductive FieldFault (kind : ClauseKind) : String → Json → QueryError → Prop
  | wrongType {field : String} {v : Json} {type : FieldType} : fieldType? field = some type → ¬ type.Holds v →
      FieldFault kind field v (.invalidField kind.name field type.expected)
  | badPoint {ms : Members} {e : QueryError} : PointFault ms e → FieldFault kind "point" (.obj ms) e

namespace Members

/-- A field is there, is not null, and holds what it should. -/
def Fits (ms : Members) (field : String) : Prop := ∃ v, ms.lookup field = some v ∧ v ≠ .null ∧ FieldFits field v

/-- The object describes a clause of a kind: it names the kind, every key means something, the negation is a flag, and
every required field holds what it should. -/
structure Accepted (ms : Members) (kind : ClauseKind) : Prop where
  names : ms.Names kind
  known : ∀ m ∈ ms, ms.Known kind m.1
  negation : ms.NegationFits
  fields : ∀ field ∈ kind.requiredFields, ms.Fits field

/-- The values of a clause stand under its own fields. -/
def Carries (ms : Members) : Clause → Prop
  | .term field value => ms.lookup "field" = some (.str field) ∧ ms.lookup "term" = some value
  | .terms field values => ms.lookup "field" = some (.str field) ∧ ms.lookup "terms" = some (.arr values)
  | .range field bounds =>
    ms.lookup "field" = some (.str field) ∧ ms.lookup "from" = some bounds.lower ∧
      ms.lookup "to" = some bounds.upper ∧ ms.lookup "include_lower" = some (.bool bounds.includeLower) ∧
      ms.lookup "include_upper" = some (.bool bounds.includeUpper)
  | .geoDistance field distance unit point =>
    ms.lookup "field" = some (.str field) ∧ ms.lookup "distance" = some (.num distance) ∧
      ms.lookup "unit" = some (.str unit) ∧ ∃ coordinates, ms.lookup "point" = some (.obj coordinates) ∧
        coordinates.lookup "lat" = some point.lat ∧ coordinates.lookup "lon" = some point.lon
  | .docType value => ms.lookup "value" = some (.str value)
  | .fieldExists field => ms.lookup "field" = some (.str field)
  | .fieldMissing field => ms.lookup "field" = some (.str field)

theorem Fits.present {ms : Members} {field : String} (h : ms.Fits field) : ms.Present field := by
  obtain ⟨v, hv, hn, -⟩ := h
  exact ⟨v, hv, hn⟩

end Members

end QueryDsl
