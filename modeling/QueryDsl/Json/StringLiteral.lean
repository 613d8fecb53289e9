import QueryDsl.Json.SyntaxError

/-!
# String literals

The characters of a string up to its closing quote (`StringLiteral.read`). An escape by number names a code point in
four hexadecimal digits; a code point beyond U+FFFF is written as a high and a low surrogate, and neither of them may
stand alone.
-/

namespace QueryDsl.Json.StringLiteral

/-- The value of a hexadecimal digit of either case. -/
def hexValue? (c : Char) : Option Nat :=
  if '0' ≤ c ∧ c ≤ '9' then some (c.toNat - '0'.toNat)
  else if 'a' ≤ c ∧ c ≤ 'f' then some (c.toNat - 'a'.toNat + 10)
  else if 'A' ≤ c ∧ c ≤ 'F' then some (c.toNat - 'A'.toNat + 10)
  else none

/-- The number that four hexadecimal digits write. -/
def hexNumber? (a b c d : Char) : Option Nat := do
  return 4096 * (← hexValue? a) + 256 * (← hexValue? b) + 16 * (← hexValue? c) + (← hexValue? d)

/-- Four hexadecimal digits. Where fewer than four bytes are left the string ends too early; otherwise four bytes are
passed over whether or not they are digits. -/
def readHex (cs : List Char) : Reading Nat :=
  match cs with
  | a :: b :: c :: d :: rest =>
    match hexNumber? a b c d with
    | some n => .ok (n, rest)
    | none => .error ⟨.invalidEscape, cs, 4⟩
  | _ => if byteLength cs < 4 then faultAfter .endInString [] else .error ⟨.invalidEscape, cs, 4⟩

/-- A number that is the first half of a surrogate pair. -/
def isHighSurrogate (n : Nat) : Bool := 0xd800 ≤ n && n < 0xdc00

/-- A number that is the second half of a surrogate pair. -/
def isLowSurrogate (n : Nat) : Bool := 0xdc00 ≤ n && n < 0xe000

/-- The character that a surrogate pair stands for. -/
def pairedChar (high low : Nat) : Char := Char.ofNat (0x10000 + 0x400 * (high - 0xd800) + (low - 0xdc00))

/-- The second half of a pair, with its backslash and letter. -/
def readLowSurrogate (high : Nat) (cs : List Char) : Except Fault (Char × List Char) :=
  match cs with
  | [] => faultAfter .endInString []
  | ['\\'] => faultAfter .endInString []
  | '\\' :: 'u' :: rest => do
    let (low, rest) ← readHex rest
    if isLowSurrogate low then .ok (pairedChar high low, rest) else faultAfter .loneSurrogate rest
  | '\\' :: rest => faultAt .unpairedSurrogate rest
  | _ => faultAt .unpairedSurrogate cs

/-- The character of an escape by number, after the letter. -/
def readCodePoint (cs : List Char) : Except Fault (Char × List Char) := do
  let (n, rest) ← readHex cs
  if isLowSurrogate n then faultAfter .loneSurrogate rest
  else if isHighSurrogate n then readLowSurrogate n rest
  else .ok (Char.ofNat n, rest)

/-- The character of an escape by letter. -/
def letterEscape? (c : Char) : Option Char :=
  match c with
  | '"' => some '"'
  | '\\' => some '\\'
  | '/' => some '/'
  | 'b' => some '\x08'
  | 'f' => some '\x0c'
  | 'n' => some '\n'
  | 'r' => some '\r'
  | 't' => some '\t'
  | _ => none

/-- The character of an escape, after the backslash. -/
def readEscape (cs : List Char) : Reading Char :=
  match cs with
  | [] => faultAfter .endInString []
  | c :: rest =>
    match letterEscape? c with
    | some d => .ok (d, rest)
    | none => if c = 'u' then readCodePoint rest else faultAt .invalidEscape cs

/-- The characters up to the closing quote, after those in `done`, which are in reverse. The number bounds how many
are left. -/
def readChars : Nat → List Char → List Char → Reading String
  | 0, _, _ => faultAfter .endInString []
  | _ + 1, _, [] => faultAfter .endInString []
  | n + 1, done, c :: rest =>
    if c = '"' then .ok (String.ofList done.reverse, rest)
    else if c = '\\' then
      match readEscape rest with
      | .ok (d, rest) => readChars n (d :: done) rest
      | .error fault => .error fault
    else if c.toNat < 0x20 then faultAt .controlCharacter (c :: rest)
    else readChars n (c :: done) rest

/-- The string whose opening quote stands before the text. -/
def read (cs : List Char) : Reading String := readChars cs.length [] cs

end QueryDsl.Json.StringLiteral
