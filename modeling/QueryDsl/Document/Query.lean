import QueryDsl.Json.Basic

/-!
# Queries and their documents

A query has one of four shapes. Its document is the JSON that the search engine is sent (`Query.toJson`).
-/

namespace QueryDsl

/-- The shapes of a query. -/
inductive Query where
  /-- Every document. -/
  | matchAll
  /-- The documents with the identifiers. -/
  | ids (values : List Json)
  /-- The documents that match a text. -/
  | queryString (text : String)
  /-- The documents that meet every filter and, if there is one, match the text. -/
  | filtered (fragments : List Json) (text : Option String)

namespace Query

/-- The name of the shape. -/
def shape : Query → String
  | matchAll => "match_all"
  | ids _ => "ids"
  | queryString _ => "query_string"
  | filtered _ _ => "filtered"

/-- A query that gives every document the same score. -/
def constantScore (query : Json) : Json := .single "constant_score" (.single "query" query)

/-- A query for a text. -/
def textQuery (text : String) : Json := .single "query_string" (.single "query" (.str text))

/-- The document of a query. -/
def toJson : Query → Json
  | matchAll => constantScore (.single "match_all" (.obj []))
  | ids values => constantScore (.single "ids" (.single "values" (.arr values)))
  | queryString text => constantScore (textQuery text)
  | filtered fragments text =>
    let filter := ("filter", Json.single "and" (.arr fragments))
    .single "filtered" (.obj (filter :: (text.map fun t => ("query", textQuery t)).toList))

/-- Equality of queries, with the values in them equal as JSON. -/
def same : Query → Query → Bool
  | matchAll, matchAll => true
  | ids vs, ids ws => Json.sameElements vs ws
  | queryString s, queryString t => s == t
  | filtered fs s, filtered gs t => Json.sameElements fs gs && s == t
  | _, _ => false

end Query

end QueryDsl
