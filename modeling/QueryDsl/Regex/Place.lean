/-!
# Places in a pattern

Lines and columns are counted from one, columns in characters. A span reaches from its first place to the place behind
its last character, so a span without characters starts where it stops.
-/

namespace QueryDsl.Regex

/-- A place in a text. -/
structure Place where
  line : Nat
  column : Nat
  deriving DecidableEq, Repr

namespace Place

/-- The place of the first character. -/
def first : Place := ⟨1, 1⟩

/-- The place behind a character. -/
def next (p : Place) (c : Char) : Place :=
  if c = '\n' then ⟨p.line + 1, 1⟩ else ⟨p.line, p.column + 1⟩

/-- Whether a place lies before another one. -/
def isBefore (p q : Place) : Bool := p.line < q.line || (p.line == q.line && p.column < q.column)

end Place

/-- A part of a text. -/
structure Span where
  start : Place
  stop : Place
  deriving DecidableEq, Repr

namespace Span

/-- The span at a place that holds no character. -/
def point (p : Place) : Span := ⟨p, p⟩

/-- Whether the span starts and stops on one line. -/
def isOneLine (s : Span) : Bool := s.start.line == s.stop.line

/-- Whether a span comes before another one: by its start, then by its stop. -/
def isBefore (s t : Span) : Bool := s.start.isBefore t.start || (s.start == t.start && s.stop.isBefore t.stop)

end Span

end QueryDsl.Regex
