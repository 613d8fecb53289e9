import QueryDsl.Regex.Place
import QueryDsl.Text.Blank

/-!
# Reading a pattern

A cursor is what is left of a pattern and the place where that begins. In the loose mode white space and comments are
skipped between the parts of a pattern (`Cursor.skip`). A step passes one character and what may be skipped behind it,
so it leaves less text (`Cursor.length_step_lt`).
-/

namespace QueryDsl.Regex

/-- What is left of a pattern, and where it begins. -/
structure Cursor where
  rest : List Char
  place : Place
  /-- White space and comments do not count. -/
  loose : Bool

namespace Cursor

/-- The whole of a pattern. -/
def ofPattern (pattern : List Char) : Cursor := ⟨pattern, Place.first, false⟩

/-- The span at the cursor that holds no character. -/
def point (c : Cursor) : Span := Span.point c.place

/-- Passes one character. -/
def advance (c : Cursor) : Cursor :=
  match c.rest with
  | [] => c
  | x :: rest => { c with rest := rest, place := c.place.next x }

/-- Passing a character leaves less text, unless there is none. -/
theorem length_advance_lt {c : Cursor} {x : Char} {rest : List Char} (h : c.rest = x :: rest) :
    c.advance.rest.length < c.rest.length := by
  simp [advance, h]

/-- The span of the next character. -/
def charSpan (c : Cursor) : Span := ⟨c.place, c.advance.place⟩

/-- What is left behind white space and comments, and where it begins. A comment reaches from a number sign to the end
of its line. -/
def skipFrom : Bool → Place → List Char → List Char × Place
  | _, place, [] => ([], place)
  | inComment, place, x :: rest =>
    if inComment then skipFrom (x != '\n') (place.next x) rest
    else if Text.isWhiteSpace x then skipFrom false (place.next x) rest
    else if x = '#' then skipFrom true (place.next x) rest
    else (x :: rest, place)

/-- Skipping leaves no more than there was. -/
theorem length_skipFrom_le (inComment : Bool) (place : Place) (cs : List Char) :
    (skipFrom inComment place cs).1.length ≤ cs.length := by
  fun_induction skipFrom inComment place cs <;> grind

/-- Passes white space and comments in the loose mode. -/
def skip (c : Cursor) : Cursor :=
  if c.loose then
    let (rest, place) := skipFrom false c.place c.rest
    { c with rest := rest, place := place }
  else c

/-- Passes one character and what may be skipped behind it. -/
def step (c : Cursor) : Cursor := c.advance.skip

/-- A step leaves less text, unless there is none. -/
theorem length_step_lt {c : Cursor} {x : Char} {rest : List Char} (h : c.rest = x :: rest) :
    c.step.rest.length < c.rest.length := by
  have := length_skipFrom_le false (c.place.next x) rest
  unfold step skip advance
  grind

/-- Passes a text, if it comes next. -/
def advanceOver? (text : List Char) (c : Cursor) : Option Cursor :=
  match text with
  | [] => some c
  | x :: text => if c.rest.head? = some x then advanceOver? text c.advance else none

/-- The character behind the next one. In the loose mode white space does not count, and neither does a number sign in
front of the character; a text of nothing else keeps its first character. -/
def second? (c : Cursor) : Option Char :=
  let behind := c.rest.tail
  if c.loose then
    let solid := match behind.dropWhile Text.isWhiteSpace with
      | '#' :: more => more.dropWhile Text.isWhiteSpace
      | solid => solid
    solid.head?.or behind.head?
  else behind.head?

end Cursor

end QueryDsl.Regex
