import QueryDsl.Request.Decode

/-!
# Histories of requests

A history is a list of steps, each of which sets a part of a request, starts anew, or reads something from a text. A
step that fails leaves the request as it was.
-/

namespace QueryDsl

/-- One change of a request. -/
inductive Step where
  | setText (text : String)
  | addFilter (f : Filter)
  /-- Adds the filter that a JSON text describes. -/
  | readFilter (text : String)
  | setIds (ids : List Json)
  | setSize (size : UInt64)
  | setOffset (offset : UInt64)
  /-- Starts again from the empty request. -/
  | reset
  /-- Starts again from the request that a JSON text describes. -/
  | load (text : String)

namespace Step

/-- The request after a step. -/
def apply (r : Request) : Step → Except QueryError Request
  | setText text => .ok (r.withText text)
  | addFilter f => .ok (r.addFilter f)
  | readFilter text => (Filter.parse text).map r.addFilter
  | setIds ids => .ok (r.withIds ids)
  | setSize size => .ok (r.withSize size)
  | setOffset offset => .ok (r.withOffset offset)
  | reset => .ok .empty
  | load text => Request.parse text

/-- The request after a step, or the one before it if the step fails. -/
def applyOrKeep (r : Request) (s : Step) : Request :=
  match s.apply r with
  | .ok r => r
  | .error _ => r

end Step

namespace Request

/-- The request after a history. -/
def run (r : Request) (steps : List Step) : Request := steps.foldl Step.applyOrKeep r

/-- What each step of a history gives: the request after it, or the error that it fails with. -/
def trace (r : Request) : List Step → List (Except QueryError Request)
  | [] => []
  | s :: steps => s.apply r :: trace (s.applyOrKeep r) steps

end Request

end QueryDsl
