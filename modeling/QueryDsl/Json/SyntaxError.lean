/-!
# Syntax errors of JSON texts

A reader that fails leaves a `Fault`: what is wrong, the text that was still to be read, and how many bytes of it the
reported place lies ahead. `SyntaxError.locate` turns it into a line and a column. Columns count bytes; a place never
lies beyond the end of the text.
-/

namespace QueryDsl.Json

/-- What is wrong with a text. -/
inductive Cause where
  | endInValue
  | endInList
  | endInObject
  | endInString
  | expectedValue
  | expectedIdent
  | expectedColon
  | expectedListSeparator
  | expectedMemberSeparator
  | trailingComma
  | trailingCharacters
  | keyNotString
  | invalidNumber
  | numberOutOfRange
  | invalidEscape
  | loneSurrogate
  | unpairedSurrogate
  | controlCharacter
  | recursionLimit
  deriving DecidableEq, Repr

/-- The wording of a cause. -/
def Cause.message : Cause → String
  | .endInValue => "EOF while parsing a value"
  | .endInList => "EOF while parsing a list"
  | .endInObject => "EOF while parsing an object"
  | .endInString => "EOF while parsing a string"
  | .expectedValue => "expected value"
  | .expectedIdent => "expected ident"
  | .expectedColon => "expected `:`"
  | .expectedListSeparator => "expected `,` or `]`"
  | .expectedMemberSeparator => "expected `,` or `\x7d`"
  | .trailingComma => "trailing comma"
  | .trailingCharacters => "trailing characters"
  | .keyNotString => "key must be a string"
  | .invalidNumber => "invalid number"
  | .numberOutOfRange => "number out of range"
  | .invalidEscape => "invalid escape"
  | .loneSurrogate => "lone leading surrogate in hex escape"
  | .unpairedSurrogate => "unexpected end of hex escape"
  | .controlCharacter => "control character (\\u0000-\\u001F) found while parsing a string"
  | .recursionLimit => "recursion limit exceeded"

/-- A failed reading: the cause, the text that was left, and how many bytes of it lie before the reported place. -/
structure Fault where
  cause : Cause
  rest : List Char
  ahead : Nat
  deriving DecidableEq, Repr

/-- What a reader gives for the front of a text: a value and the text that is left, or a fault. -/
abbrev Reading (α : Type) := Except Fault (α × List Char)

/-- A fault at the next character. -/
def faultAt (cause : Cause) (rest : List Char) : Except Fault α := .error ⟨cause, rest, 1⟩

/-- A fault right after what was read. -/
def faultAfter (cause : Cause) (rest : List Char) : Except Fault α := .error ⟨cause, rest, 0⟩

/-- The number of bytes of a text in UTF-8. -/
def byteLength (cs : List Char) : Nat := cs.foldl (fun n c => n + c.utf8Size) 0

/-- A fault with its place in the whole text. -/
structure SyntaxError where
  cause : Cause
  line : Nat
  column : Nat
  deriving DecidableEq, Repr

namespace SyntaxError

/-- The line and the column after `bytes` bytes of a text, counted on from a line and a column. -/
def place : List Char → Nat → Nat → Nat → Nat × Nat
  | [], _, line, column => (line, column)
  | c :: cs, bytes, line, column =>
    if bytes < c.utf8Size then (line, column + bytes)
    else if c = '\n' then place cs (bytes - 1) (line + 1) 0
    else place cs (bytes - c.utf8Size) line (column + c.utf8Size)

/-- The error that a fault is in the text that was read from. -/
def locate (whole : List Char) (fault : Fault) : SyntaxError :=
  let (line, column) := place whole (byteLength whole - byteLength fault.rest + fault.ahead) 1 0
  ⟨fault.cause, line, column⟩

/-- The wording of the error, with its place. -/
def message (e : SyntaxError) : String :=
  e.cause.message ++ " at line " ++ toString e.line ++ " column " ++ toString e.column

end SyntaxError

end QueryDsl.Json
