import QueryDsl.Json.Basic

/-!
# Filter clauses

A clause is one condition on a document, of one of seven kinds; a filter is a clause that may be negated. The values
in a clause are arbitrary JSON and are never changed.
-/

namespace QueryDsl

/-! ## Kinds -/

/-- The kinds of clauses. -/
inductive ClauseKind where
  | term
  | terms
  | range
  | geoDistance
  | docType
  | fieldExists
  | fieldMissing
  deriving DecidableEq, Repr

namespace ClauseKind

/-- Every kind, in the order in which they are listed. -/
def all : List ClauseKind := [term, terms, range, geoDistance, docType, fieldExists, fieldMissing]

/-- The name of a kind in a request and in a fragment. -/
def name : ClauseKind → String
  | term => "term"
  | terms => "terms"
  | range => "range"
  | geoDistance => "geo_distance"
  | docType => "type"
  | fieldExists => "exists"
  | fieldMissing => "missing"

/-- The fields that a clause of a kind must have, in the order in which they are checked. -/
def requiredFields : ClauseKind → List String
  | term => ["field", "term"]
  | terms => ["field", "terms"]
  | range => ["field", "from", "to", "include_lower", "include_upper"]
  | geoDistance => ["field", "distance", "unit", "point"]
  | docType => ["value"]
  | fieldExists => ["field"]
  | fieldMissing => ["field"]

/-- The kind with a given name. -/
def ofName? (name : String) : Option ClauseKind := all.find? fun kind => kind.name == name

/-- Each kind is found by its name. -/
theorem ofName?_name (kind : ClauseKind) : ofName? kind.name = some kind := by
  cases kind <;> decide

/-- Kinds with one name are the same. -/
theorem name_inj {kind other : ClauseKind} (h : kind.name = other.name) : kind = other := by
  have hfound := ofName?_name kind
  rw [h, ofName?_name] at hfound
  exact (Option.some.inj hfound).symm

/-- No kind is named like the negation wrap. -/
theorem name_ne_not (kind : ClauseKind) : kind.name ≠ "not" := by
  cases kind <;> decide

end ClauseKind

/-! ## Clauses -/

/-- A place on the map. -/
structure GeoPoint where
  lat : Json
  lon : Json

/-- The ends of a range, and whether each of them belongs to it. -/
structure Bounds where
  lower : Json
  upper : Json
  includeLower : Bool
  includeUpper : Bool

/-- A condition on a document. -/
inductive Clause where
  /-- The field has the value. -/
  | term (field : String) (value : Json)
  /-- The field has one of the values. -/
  | terms (field : String) (values : List Json)
  /-- The field lies between two bounds. -/
  | range (field : String) (bounds : Bounds)
  /-- The field lies within a distance of a place. -/
  | geoDistance (field : String) (distance : Number) (unit : String) (point : GeoPoint)
  /-- The document is of the type. -/
  | docType (value : String)
  /-- The document has the field. -/
  | fieldExists (field : String)
  /-- The document lacks the field. -/
  | fieldMissing (field : String)

namespace Clause

/-- The kind of a clause. -/
def kind : Clause → ClauseKind
  | term .. => .term
  | terms .. => .terms
  | range .. => .range
  | geoDistance .. => .geoDistance
  | docType .. => .docType
  | fieldExists .. => .fieldExists
  | fieldMissing .. => .fieldMissing

/-- Equality of clauses, with the values in them equal as JSON. -/
def same : Clause → Clause → Bool
  | term f v, term g w => f == g && v.same w
  | terms f vs, terms g ws => f == g && Json.sameElements vs ws
  | range f a, range g b =>
    f == g && a.lower.same b.lower && a.upper.same b.upper && a.includeLower == b.includeLower
      && a.includeUpper == b.includeUpper
  | geoDistance f d u p, geoDistance g e v q =>
    f == g && d.same e && u == v && p.lat.same q.lat && p.lon.same q.lon
  | docType s, docType t => s == t
  | fieldExists f, fieldExists g => f == g
  | fieldMissing f, fieldMissing g => f == g
  | _, _ => false

end Clause

/-! ## Filters -/

/-- A clause, or its negation. -/
structure Filter where
  clause : Clause
  negate : Bool := false

namespace Filter

/-- The kind of the clause. -/
def kind (f : Filter) : ClauseKind := f.clause.kind

/-- The negation of the clause, also where it is negated already. -/
def negated (f : Filter) : Filter := { f with negate := true }

/-- Equality of filters, with the values in them equal as JSON. -/
def same (f g : Filter) : Bool := f.clause.same g.clause && f.negate == g.negate

end Filter

end QueryDsl
