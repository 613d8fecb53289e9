import QueryDsl.Clause.Fragment
import QueryDsl.Document.Query
import QueryDsl.Request.Decode

/-!
# From requests to queries

Identifiers win over everything else; without them, filters and text decide the shape. The page does not matter.
-/

namespace QueryDsl

/-- The query for a request. -/
def Request.query (r : Request) : Query :=
  if !r.ids.isEmpty then .ids r.ids
  else if !r.filters.isEmpty then
    .filtered (r.filters.map Filter.fragment) (if r.text = "" then none else some r.text)
  else if r.text = "" then .matchAll
  else .queryString r.text

section Shapes

variable {r : Request}

theorem Request.query_of_ids (h : r.ids ≠ []) : r.query = .ids r.ids := by
  simp [query, h]

theorem Request.query_of_filters (hids : r.ids = []) (h : r.filters ≠ []) :
    r.query = .filtered (r.filters.map Filter.fragment) (if r.text = "" then none else some r.text) := by
  simp [query, hids, h]

theorem Request.query_of_text (hids : r.ids = []) (hfilters : r.filters = []) :
    r.query = if r.text = "" then .matchAll else .queryString r.text := by
  simp [query, hids, hfilters]

end Shapes

/-- The query for the request that a JSON value describes. -/
def Query.ofJson (v : Json) : Except QueryError Query := (Request.ofJson v).map Request.query

end QueryDsl
