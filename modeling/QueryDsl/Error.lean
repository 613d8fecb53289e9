/-!
# Errors of the query language

What can be wrong with a filter clause or with a request, and how it is worded (`QueryError.message`).
-/

namespace QueryDsl

/-- Why a clause or a request is refused. -/
inductive QueryError where
  /-- The clause names a kind that does not exist. -/
  | unsupportedKind (kind : String)
  /-- A field that the kind requires is absent or null. -/
  | missingField (kind field : String)
  /-- A field holds a value of the wrong type. -/
  | invalidField (kind field expected : String)
  /-- The clause has a key that means nothing for its kind. -/
  | unknownField (kind field : String)
  /-- The request itself is refused, for the reason given. -/
  | invalidRequest (reason : String)
  deriving DecidableEq, Repr

/-- The wording of an error. -/
def QueryError.message : QueryError → String
  | .unsupportedKind kind => "Unsupported filter clause kind: " ++ kind
  | .missingField kind field => "Malformed " ++ kind ++ " clause: missing field `" ++ field ++ "`"
  | .invalidField kind field expected =>
    "Malformed " ++ kind ++ " clause: field `" ++ field ++ "` must be " ++ expected
  | .unknownField kind field => "Unknown field `" ++ field ++ "` in " ++ kind ++ " clause"
  | .invalidRequest reason => "Invalid query request: " ++ reason

end QueryDsl
