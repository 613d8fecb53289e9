import QueryDsl.Regex.Meaning
import QueryDsl.Regex.Pattern
import QueryDsl.Regex.Size
import QueryDsl.Regex.Words

/-!
# Regular expressions of patterns

A pattern is read, its meaning is taken, and what cannot be matched is refused (`Regex.ofPattern`): expressions whose
automata are too big, and conditions on words of all scripts.
-/

namespace QueryDsl.Regex

/-- Why a pattern cannot be used. -/
inductive PatternError where
  | fault (f : Fault)
  | tooBig
  /-- The pattern asks for words of all scripts. -/
  | unicodeWords
  deriving DecidableEq, Repr

/-- The wording of an error about a pattern. -/
def PatternError.message (pattern : List Char) : PatternError → String
  | fault f => f.describe pattern
  | tooBig => "Compiled regex exceeds size limit of " ++ toString greatestSize ++ " bytes."
  | unicodeWords => "error building NFA"

/-- The expression that a pattern means in the mode without flags. -/
def meaningOf (pattern : List Char) : Except Fault Regex := do
  let node ← Node.ofPattern pattern
  let (r, _) ← node.meaning {}
  return r

/-- The expression of a pattern. What is searched for by words needs no automaton. The forward automaton is built first,
so it is refused before conditions on words of all scripts are. -/
def ofPattern (pattern : List Char) : Except PatternError Regex :=
  match meaningOf pattern with
  | .error f => .error (.fault f)
  | .ok r =>
    if r.amountsToWords then .ok r
    else if !r.fits .forward then .error .tooBig
    else if r.asksUnicodeWords then .error .unicodeWords
    else if !r.fits .backward then .error .tooBig
    else .ok r

end QueryDsl.Regex
