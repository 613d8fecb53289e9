import QueryDsl.Clause.Basic

/-!
# Search requests

A request asks for documents by free text, by filters or by identifiers, and for a page of the answer. It is built
from the empty request by setting its parts; filters are added one by one and keep their order.
-/

namespace QueryDsl

/-- What is searched for, and which page of it. An empty text means none. -/
structure Request where
  text : String := ""
  filters : List Filter := []
  ids : List Json := []
  size : Option UInt64 := none
  offset : Option UInt64 := none

namespace Request

/-- The request for everything. -/
def empty : Request := {}

/-- Sets the free text. -/
def withText (r : Request) (text : String) : Request := { r with text }

/-- Adds a filter behind the others. -/
def addFilter (r : Request) (f : Filter) : Request := { r with filters := r.filters ++ [f] }

/-- Replaces the identifiers. -/
def withIds (r : Request) (ids : List Json) : Request := { r with ids }

/-- Sets the number of documents on a page. -/
def withSize (r : Request) (size : UInt64) : Request := { r with size := some size }

/-- Sets the number of documents before the page. -/
def withOffset (r : Request) (offset : UInt64) : Request := { r with offset := some offset }

/-- Whether two lists of filters are equal, place by place. -/
def sameFilters : List Filter → List Filter → Bool
  | [], [] => true
  | f :: fs, g :: gs => f.same g && sameFilters fs gs
  | _, _ => false

/-- Equality of requests, with the values in them equal as JSON. -/
def same (r s : Request) : Bool :=
  r.text == s.text && sameFilters r.filters s.filters && Json.sameElements r.ids s.ids && r.size == s.size
    && r.offset == s.offset

end Request

end QueryDsl
