import QueryDsl.Regex.Place
import QueryDsl.Text.Split

/-!
# Faults of a pattern

A pattern that has no meaning has a fault: what is wrong (`Complaint`), and the span that it is about. Some complaints
are about two spans, as that a name is given twice.

`Fault.describe` shows the pattern with carets under the spans. A pattern of several lines is shown between rules and
with line numbers, and a span over several lines is named instead of marked.
-/

namespace QueryDsl.Regex

/-- How many levels of groups, classes, repetitions, sequences and alternatives a pattern may have. -/
def greatestDepth : Nat := 250

/-- What is wrong with a pattern. -/
inductive Complaint where
  /-- An escape stands in a class that means no character. -/
  | badClassEscape
  /-- A range of characters ends before it begins. -/
  | reversedClassRange
  /-- An end of a range is no character. -/
  | badClassRangeEnd
  | openClass
  | badDecimal
  | emptyHex
  | badHex
  | badHexDigit
  | endInEscape
  | unknownEscape
  | danglingNegation
  | repeatedFlag
  | repeatedNegation
  | endInFlags
  | unknownFlag
  | repeatedGroupName
  | emptyGroupName
  | badGroupName
  | endInGroupName
  | openGroup
  | unopenedGroup
  | tooDeep
  /-- The greatest number of repetitions is less than the least one. -/
  | reversedCount
  | emptyCount
  | openCount
  | nothingToRepeat
  | openWordBoundary
  | unknownWordBoundary
  | endInWordBoundary
  | badProperty
  | backreference
  | lookAround
  /-- Part of the pattern could match bytes that are no text. -/
  | beyondText
  /-- Part of the pattern needs the Unicode mode, which is off. -/
  | unicodeOff
  | unknownProperty
  | unknownPropertyValue
  /-- A class of digits, blanks or word characters of all scripts is wanted, and there is none. -/
  | noUnicodeClass
  /-- Letters of both cases of all scripts are wanted, and there is no table of them. -/
  | noUnicodeCase
  deriving DecidableEq, Repr

/-- The wording of a complaint. -/
def Complaint.message : Complaint → String
  | badClassEscape => "invalid escape sequence found in character class"
  | reversedClassRange => "invalid character class range, the start must be <= the end"
  | badClassRangeEnd => "invalid range boundary, must be a literal"
  | openClass => "unclosed character class"
  | badDecimal => "decimal literal invalid"
  | emptyHex => "hexadecimal literal empty"
  | badHex => "hexadecimal literal is not a Unicode scalar value"
  | badHexDigit => "invalid hexadecimal digit"
  | endInEscape => "incomplete escape sequence, reached end of pattern prematurely"
  | unknownEscape => "unrecognized escape sequence"
  | danglingNegation => "dangling flag negation operator"
  | repeatedFlag => "duplicate flag"
  | repeatedNegation => "flag negation operator repeated"
  | endInFlags => "expected flag but got end of regex"
  | unknownFlag => "unrecognized flag"
  | repeatedGroupName => "duplicate capture group name"
  | emptyGroupName => "empty capture group name"
  | badGroupName => "invalid capture group character"
  | endInGroupName => "unclosed capture group name"
  | openGroup => "unclosed group"
  | unopenedGroup => "unopened group"
  | tooDeep => "exceed the maximum number of nested parentheses/brackets (" ++ toString greatestDepth ++ ")"
  | reversedCount => "invalid repetition count range, the start must be <= the end"
  | emptyCount => "repetition quantifier expects a valid decimal"
  | openCount => "unclosed counted repetition"
  | nothingToRepeat => "repetition operator missing expression"
  | openWordBoundary => "special word boundary assertion is either unclosed or contains an invalid character"
  | unknownWordBoundary =>
    "unrecognized special word boundary assertion, valid choices are: start, end, start-half or end-half"
  | endInWordBoundary =>
    "found either the beginning of a special word boundary or a bounded repetition on a \\b with an opening brace, "
      ++ "but no closing brace"
  | badProperty => "invalid Unicode character class"
  | backreference => "backreferences are not supported"
  | lookAround => "look-around, including look-ahead and look-behind, is not supported"
  | beyondText => "pattern can match invalid UTF-8"
  | unicodeOff => "Unicode not allowed here"
  | unknownProperty => "Unicode property not found"
  | unknownPropertyValue => "Unicode property value not found"
  | noUnicodeClass => "Unicode-aware Perl class not found (make sure the unicode-perl feature is enabled)"
  | noUnicodeCase =>
    "Unicode-aware case insensitivity matching is not available (make sure the unicode-case feature is enabled)"

/-- A complaint about a part of a pattern, and perhaps about an earlier part too. -/
structure Fault where
  complaint : Complaint
  span : Span
  earlier : Option Span := none
  deriving DecidableEq, Repr

/-- Refuses a part of a pattern. -/
def refuse (complaint : Complaint) (span : Span) : Except Fault α := .error ⟨complaint, span, none⟩

namespace Fault

/-- The spans that the fault is about, in the order of the text. -/
def spans (f : Fault) : List Span :=
  match f.earlier with
  | none => [f.span]
  | some s => if s.isBefore f.span then [s, f.span] else [f.span, s]

/-- Carets under spans of one line, from a column on, counted from zero. A span without characters has one caret. -/
def carets : Nat → List Span → List Char
  | _, [] => []
  | column, s :: rest =>
    let left := s.start.column - 1
    let width := max 1 (s.stop.column - s.start.column)
    List.replicate (left - column) ' ' ++ List.replicate width '^' ++ carets (max left column + width) rest

/-- What stands before a line: its number if numbers have a width, else four blanks. -/
def margin (width number : Nat) : List Char :=
  if width = 0 then [' ', ' ', ' ', ' ']
  else
    let digits := (toString number).toList
    List.replicate (width - digits.length) ' ' ++ digits ++ [':', ' ']

/-- The lines of a pattern from a number on, each with the carets under it. -/
def markedLines (spans : List Span) (width : Nat) : Nat → List (List Char) → List (List Char)
  | _, [] => []
  | number, line :: rest =>
    let marks := spans.filter fun s => s.isOneLine && s.start.line == number
    let shown := margin width number ++ line ++ ['\n']
    let under := List.replicate (margin width number).length ' ' ++ carets 0 marks ++ ['\n']
    (if marks = [] then shown else shown ++ under) :: markedLines spans width (number + 1) rest

/-- A span over several lines, in words. -/
def across (s : Span) : String :=
  "on line " ++ toString s.start.line ++ " (column " ++ toString s.start.column ++ ") through line "
    ++ toString s.stop.line ++ " (column " ++ toString (s.stop.column - 1) ++ ")\n"

/-- The pattern with the places of the fault, and what is wrong. -/
def describe (f : Fault) (pattern : List Char) : String :=
  let wording := "error: " ++ f.complaint.message
  if pattern.contains '\n' then
    let count := (pattern.splitOn '\n').length
    let rule := String.ofList (List.replicate 79 '~') ++ "\n"
    let shown := markedLines f.spans (toString count).length 1 (Text.lines pattern)
    let notes := (f.spans.filter fun s => !s.isOneLine).map across
    "regex parse error:\n" ++ rule ++ String.ofList shown.flatten ++ rule ++ String.join notes ++ wording
  else
    "regex parse error:\n" ++ String.ofList (markedLines f.spans 0 1 (Text.lines pattern)).flatten ++ wording

end Fault

end QueryDsl.Regex
