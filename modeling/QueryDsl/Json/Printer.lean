import QueryDsl.Json.Basic
import QueryDsl.Binary64.Layout

/-!
# The text of a JSON value

One printer for both styles: compact text has no character between tokens, indented text has one element or member
per line and a space after each colon (`Style`). Strings escape the quote, the backslash and the control characters
below U+0020, and nothing else.
-/

namespace QueryDsl.Json

/-! ## Strings -/

/-- A control character by its number, in four hexadecimal digits. -/
def controlEscape (c : Char) : List Char :=
  let digits := Nat.toDigits 16 c.toNat
  '\\' :: 'u' :: List.replicate (4 - digits.length) '0' ++ digits

/-- A character as it is written inside a string. -/
def escapedChar (c : Char) : List Char :=
  match c with
  | '"' => ['\\', '"']
  | '\\' => ['\\', '\\']
  | '\n' => ['\\', 'n']
  | '\r' => ['\\', 'r']
  | '\t' => ['\\', 't']
  | '\x08' => ['\\', 'b']
  | '\x0c' => ['\\', 'f']
  | c => if c.toNat < 0x20 then controlEscape c else [c]

/-- A string between quotes. -/
def stringText (s : String) : List Char :=
  '"' :: s.toList.flatMap escapedChar ++ ['"']

/-! ## Numbers -/

/-- Doubles from a hundred-thousandth to below ten to the sixteenth are written positionally. -/
def doubleLayout : Layout := ⟨-5, 15⟩

/-- An integer in decimal. -/
def integerText (n : Int) : List Char :=
  (if n < 0 then ['-'] else []) ++ Nat.toDigits 10 n.natAbs

/-- The text of a number. -/
def numberText : Number → List Char
  | .int n => integerText n.value
  | .float x => doubleLayout.text x

/-! ## Values -/

/-- How a value is spread over lines: not at all, or with a given depth of indentation. -/
inductive Style where
  | compact
  | indented (depth : Nat)

namespace Style

/-- The style of what an array or an object contains. -/
def nested : Style → Style
  | compact => compact
  | indented depth => indented (depth + 1)

/-- The start of a new line, two spaces for each level. -/
def lineBreak : Style → List Char
  | compact => []
  | indented depth => '\n' :: List.replicate (2 * depth) ' '

/-- What separates a key from its value. -/
def colon : Style → List Char
  | compact => [':']
  | indented _ => [':', ' ']

end Style

mutual

/-- The text of a value whose first line is already begun. -/
def text : Json → Style → List Char
  | .null, _ => ['n', 'u', 'l', 'l']
  | .bool true, _ => ['t', 'r', 'u', 'e']
  | .bool false, _ => ['f', 'a', 'l', 's', 'e']
  | .num n, _ => numberText n
  | .str s, _ => stringText s
  | .arr [], _ => ['[', ']']
  | .arr (x :: xs), style =>
    '[' :: style.nested.lineBreak ++ text x style.nested ++ elementsText xs style.nested ++ style.lineBreak ++ [']']
  | .obj [], _ => ['{', '}']
  | .obj ((key, v) :: rest), style =>
    '{' :: style.nested.lineBreak ++ stringText key ++ style.nested.colon ++ text v style.nested
      ++ membersText rest style.nested ++ style.lineBreak ++ ['}']

/-- The text of the elements after the first, each after its comma. -/
def elementsText : List Json → Style → List Char
  | [], _ => []
  | x :: xs, style => ',' :: style.lineBreak ++ text x style ++ elementsText xs style

/-- The text of the members after the first, each after its comma. -/
def membersText : List (String × Json) → Style → List Char
  | [], _ => []
  | (key, v) :: rest, style =>
    ',' :: style.lineBreak ++ stringText key ++ style.colon ++ text v style ++ membersText rest style

end

/-- The text of a value without any layout. -/
def compact (v : Json) : String := String.ofList (v.text .compact)

/-- The text of a value over several lines. -/
def pretty (v : Json) : String := String.ofList (v.text (.indented 0))

end QueryDsl.Json
