import QueryDsl.Document.Compile

/-!
# Search bodies

The body of a search is the document of a query with the page that is asked for.
-/

namespace QueryDsl

/-- A query and a page of its answer. -/
structure SearchBody where
  query : Query
  size : Option UInt64
  offset : Option UInt64

namespace SearchBody

/-- The body for a request. -/
def ofRequest (r : Request) : SearchBody := ⟨r.query, r.size, r.offset⟩

/-- The body for the request that a JSON value describes. -/
def ofJson (v : Json) : Except QueryError SearchBody := (Request.ofJson v).map ofRequest

/-- A member that holds a word, if there is one. -/
def wordMember (key : String) (word : Option UInt64) : List (String × Json) :=
  (word.map fun w => (key, Json.num (.int (.ofWord w)))).toList

/-- The JSON of a body: the query, then the size and the offset where they are set. -/
def toJson (b : SearchBody) : Json :=
  .obj (("query", b.query.toJson) :: (wordMember "size" b.size ++ wordMember "from" b.offset))

/-- Equality of bodies, with the values in them equal as JSON. -/
def same (a b : SearchBody) : Bool := a.query.same b.query && a.size == b.size && a.offset == b.offset

end SearchBody

end QueryDsl
