import QueryDsl.Regex.Cursor
import QueryDsl.Regex.Node

/-!
# Escapes

What follows a backslash (`Node.readEscape`): a character by name, by number or as itself, a class, or a condition on a
place. Every reader is given a cursor at the backslash or at the letter behind it and gives the cursor behind what it
read.
-/

namespace QueryDsl.Regex

/-! ## Characters by number -/

/-- The value of a hexadecimal digit of either case. -/
def hexDigit? (c : Char) : Option Nat :=
  if '0' ≤ c ∧ c ≤ '9' then some (c.toNat - '0'.toNat)
  else if 'a' ≤ c ∧ c ≤ 'f' then some (c.toNat - 'a'.toNat + 10)
  else if 'A' ≤ c ∧ c ≤ 'F' then some (c.toNat - 'A'.toNat + 10)
  else none

/-- The number that some digits write in base sixteen. -/
def hexValue (digits : List Nat) : Nat := digits.foldl (fun n d => 16 * n + d) 0

/-- The character with a given number. Surrogates and greater numbers have none. -/
def charOf? (n : Nat) : Option Char :=
  if n < 0xd800 ∨ (0xdfff < n ∧ n < 0x110000) then some (Char.ofNat n) else none

/-- So many hexadecimal digits. -/
def readHexDigits : Nat → Cursor → Except Fault (List Nat × Cursor)
  | 0, c => .ok ([], c)
  | n + 1, c =>
    match c.rest with
    | [] => refuse .endInEscape c.point
    | x :: _ =>
      match hexDigit? x with
      | none => refuse .badHexDigit c.charSpan
      | some d => do
        let (digits, c) ← readHexDigits n c.step
        return (d :: digits, c)

/-- The hexadecimal digits up to a closing brace, and the cursor at the brace. The brace that is open begins at
`brace`. -/
def readBracedDigits (brace : Place) (c : Cursor) : Except Fault (List Nat × Cursor) :=
  match _h : c.rest with
  | [] => refuse .endInEscape ⟨brace, c.place⟩
  | x :: _ =>
    if x = '\x7d' then .ok ([], c)
    else
      match hexDigit? x with
      | none => refuse .badHexDigit c.charSpan
      | some d => do
        let (digits, c) ← readBracedDigits brace c.step
        return (d :: digits, c)
termination_by c.rest.length
decreasing_by exact Cursor.length_step_lt ‹_›

/-- How many digits a number has behind its letter, where it is not in braces. -/
def digitCount (letter : Char) : Nat :=
  if letter = 'x' then 2 else if letter = 'u' then 4 else 8

/-- A character by number. The cursor is at the letter, and the escape begins at `start`. -/
def readHex (start : Place) (letter : Char) (c : Cursor) : Except Fault (Literal × Cursor) := do
  let c := c.step
  match c.rest with
  | '\x7b' :: _ =>
    let (digits, close) ← readBracedDigits c.place c.step
    let behind := close.step
    if digits = [] then refuse .emptyHex ⟨c.place, behind.place⟩
    else
      match charOf? (hexValue digits) with
      | some x => .ok (⟨⟨start, behind.place⟩, x, false⟩, behind)
      | none => refuse .badHex ⟨c.advance.place, close.place⟩
  | _ =>
    let (digits, behind) ← readHexDigits (digitCount letter) c
    match charOf? (hexValue digits) with
    | some x => .ok (⟨⟨start, behind.place⟩, x, letter == 'x'⟩, behind)
    | none => refuse .badHex ⟨c.place, behind.place⟩

/-! ## Classes by property -/

/-- The characters up to a closing brace, and the cursor at the brace. -/
def readBraced (c : Cursor) : Except Fault (List Char × Cursor) :=
  match _h : c.rest with
  | [] => refuse .endInEscape c.point
  | x :: _ =>
    if x = '\x7d' then .ok ([], c)
    else do
      let (name, c) ← readBraced c.step
      return (x :: name, c)
termination_by c.rest.length
decreasing_by exact Cursor.length_step_lt ‹_›

/-- What the text between braces asks for. -/
def PropertyQuery.ofText (text : List Char) : PropertyQuery :=
  if text.contains ':' || text.contains '=' then .valued else .named text

/-- A class by property. The cursor is at the letter. -/
def readProperty (c : Cursor) : Except Fault (PropertyQuery × Cursor) :=
  let c := c.step
  match c.rest with
  | [] => refuse .endInEscape c.point
  | '\x7b' :: _ => do
    let (text, close) ← readBraced c.step
    return (.ofText text, close.advance)
  | x :: _ => if x = '\\' then refuse .badProperty c.charSpan else .ok (.named [x], c.step)

/-! ## Word boundaries -/

/-- The characters in the names of word boundaries. -/
def isBoundaryChar (c : Char) : Bool := ('A' ≤ c && c ≤ 'Z') || ('a' ≤ c && c ≤ 'z') || c == '-'

/-- The characters of a name of a word boundary, and the cursor behind them. -/
def spanBoundaryName (c : Cursor) : List Char × Cursor :=
  match _h : c.rest with
  | [] => ([], c)
  | x :: _ =>
    if isBoundaryChar x then
      let (name, behind) := spanBoundaryName c.step
      (x :: name, behind)
    else ([], c)
termination_by c.rest.length
decreasing_by exact Cursor.length_step_lt ‹_›

/-- The word boundary with a given name. -/
def Assertion.ofName? (name : String) : Option Assertion :=
  if name = "start" then some .wordStart
  else if name = "end" then some .wordEnd
  else if name = "start-half" then some .wordStartHalf
  else if name = "end-half" then some .wordEndHalf
  else none

/-- The word boundary whose name follows in braces, or none if the braces are about a number of repetitions. The cursor
is at the brace, and the escape begins at `start`. -/
def readBoundary (start : Place) (c : Cursor) : Except Fault (Option Assertion × Cursor) :=
  let inner := c.step
  match inner.rest with
  | [] => refuse .endInWordBoundary ⟨start, inner.place⟩
  | x :: _ =>
    if isBoundaryChar x then
      let (name, close) := spanBoundaryName inner
      if close.rest.head? = some '\x7d' then
        match Assertion.ofName? (String.ofList name) with
        | some kind => .ok (some kind, close.advance)
        | none => refuse .unknownWordBoundary ⟨inner.place, close.place⟩
      else refuse .openWordBoundary ⟨c.place, close.place⟩
    else .ok (none, c)

/-! ## Escapes -/

/-- The class with a given letter, and whether it is negated. -/
def LetterClass.ofLetter? : Char → Option (LetterClass × Bool)
  | 'd' => some (digit, false)
  | 's' => some (space, false)
  | 'w' => some (word, false)
  | 'D' => some (digit, true)
  | 'S' => some (space, true)
  | 'W' => some (word, true)
  | _ => none

/-- Whether an escaped character stands for itself: it is an ASCII character, but no letter, digit or angle bracket. -/
def isEscapable (c : Char) : Bool := c.toNat < 128 && !c.isAlphanum && c != '<' && c != '>'

/-- The character with a name of one letter. -/
def namedChar? : Char → Option Char
  | 'a' => some '\x07'
  | 'f' => some '\x0c'
  | 't' => some '\t'
  | 'n' => some '\n'
  | 'r' => some '\r'
  | 'v' => some '\x0b'
  | _ => none

/-- The condition with a given letter. -/
def Assertion.ofLetter? : Char → Option Assertion
  | 'A' => some textStart
  | 'z' => some textEnd
  | 'b' => some wordBoundary
  | 'B' => some notWordBoundary
  | '<' => some wordStart
  | '>' => some wordEnd
  | _ => none

namespace Node

/-- A condition by letter, behind its letter. That of a word boundary may be followed by its name. -/
def readAssertion (start : Place) (kind : Assertion) (c : Cursor) : Except Fault (Node × Cursor) :=
  if kind = .wordBoundary ∧ c.rest.head? = some '\x7b' then do
    let (named, behind) ← readBoundary start c
    return (.assertion ⟨start, behind.place⟩ (named.getD kind), behind)
  else .ok (.assertion ⟨start, c.place⟩ kind, c)

/-- What a letter behind a backslash means. The cursor is at the letter, and the escape begins at `start`. -/
def readEscaped (start : Place) (x : Char) (c : Cursor) : Except Fault (Node × Cursor) :=
  let behind := c.advance
  let span : Span := ⟨start, behind.place⟩
  if x.isDigit then refuse .backreference span
  else if x = 'x' ∨ x = 'u' ∨ x = 'U' then do
    let (l, behind) ← readHex start x c
    return (.literal l, behind)
  else if x = 'p' ∨ x = 'P' then do
    let (query, behind) ← readProperty c
    return (.property ⟨start, behind.place⟩ query, behind)
  else
    match LetterClass.ofLetter? x, namedChar? x, Assertion.ofLetter? x with
    | some (kind, negated), _, _ => .ok (.letters span kind negated, behind)
    | _, some y, _ => .ok (.literal ⟨span, y, false⟩, behind)
    | _, _, some kind => readAssertion start kind behind
    | _, _, _ => if isEscapable x then .ok (.literal ⟨span, x, false⟩, behind) else refuse .unknownEscape span

/-- An escape. The cursor is at the backslash. -/
def readEscape (c : Cursor) : Except Fault (Node × Cursor) :=
  let letter := c.advance
  match letter.rest with
  | [] => refuse .endInEscape ⟨c.place, letter.place⟩
  | x :: _ => readEscaped c.place x letter

end Node

end QueryDsl.Regex
