import QueryDsl.Clause.Basic

/-!
# Fragments of filter clauses

The fragment of a clause is the JSON by which the search engine knows it: an object whose one key is the name of the
kind. A negated clause has the fragment of the clause under the key `not`.
-/

namespace QueryDsl

/-- A fragment under the key `not`. -/
def negateFragment (fragment : Json) : Json := .single "not" fragment

namespace Clause

/-- What a range fragment says about its field. -/
def boundsJson (b : Bounds) : Json :=
  .obj [("from", b.lower), ("to", b.upper), ("include_lower", .bool b.includeLower),
    ("include_upper", .bool b.includeUpper)]

/-- What a distance fragment says about its field. -/
def pointJson (p : GeoPoint) : Json := .obj [("lat", p.lat), ("lon", p.lon)]

/-- What stands under the name of the kind. The field of a distance clause shares an object with `distance` and
`unit`, and takes the place of the one whose name it has. -/
def body : Clause → Json
  | term field value => .single field value
  | terms field values => .single field (.arr values)
  | range field bounds => .single field (boundsJson bounds)
  | geoDistance field distance unit point =>
    .obj (Json.put field (pointJson point) [("distance", .num distance), ("unit", .str unit)])
  | docType value => .single "value" (.str value)
  | fieldExists field => .single "field" (.str field)
  | fieldMissing field => .single "field" (.str field)

/-- The fragment of a clause. -/
def fragment (c : Clause) : Json := .single c.kind.name c.body

end Clause

/-- The fragment of a filter. -/
def Filter.fragment (f : Filter) : Json :=
  if f.negate then negateFragment f.clause.fragment else f.clause.fragment

end QueryDsl
