import QueryDsl.Json.Numeral
import QueryDsl.Json.StringLiteral

/-!
# Reading JSON texts

`Json.parse` reads a whole text as one value. Arrays and objects may be nested up to `greatestDepth` levels. The
readers of elements and members are given the reader of a value, so that the recursion is on the levels that are left.
-/

namespace QueryDsl.Json

/-- How many levels of arrays and objects a text may have. -/
def greatestDepth : Nat := 127

/-- The characters that may stand between tokens. -/
def isBlank (c : Char) : Bool := c == ' ' || c == '\n' || c == '\r' || c == '\t'

/-- The text from its first token on. -/
def skipBlank (cs : List Char) : List Char := cs.dropWhile isBlank

/-- No token begins with a blank. -/
theorem head?_skipBlank {cs : List Char} {c : Char} (h : (skipBlank cs).head? = some c) : isBlank c = false := by
  have := List.head?_dropWhile_not isBlank cs
  simp only [skipBlank] at h
  simpa [h] using this

/-- Only blanks are skipped. -/
theorem exists_append_skipBlank (cs : List Char) :
    ∃ blanks, cs = blanks ++ skipBlank cs ∧ ∀ c ∈ blanks, isBlank c :=
  ⟨cs.takeWhile isBlank, List.takeWhile_append_dropWhile.symm, List.all_eq_true.1 List.all_takeWhile⟩

/-- The rest of a word whose first letter is read. -/
def readWord (value : Json) : List Char → List Char → Reading Json
  | [], cs => .ok (value, cs)
  | _ :: _, [] => faultAfter .endInValue []
  | w :: word, c :: cs => if w = c then readWord value word cs else faultAt .expectedIdent (c :: cs)

/-! ## Arrays -/

/-- Elements up to the closing bracket, after those in `done`, which are in reverse. The number bounds how many are
left. -/
def readElements (item : List Char → Reading Json) : Nat → List Json → List Char → Reading Json
  | 0, _, _ => faultAfter .endInValue []
  | n + 1, done, cs =>
    match item cs with
    | .error fault => .error fault
    | .ok (v, rest) =>
      match skipBlank rest with
      | [] => faultAfter .endInList []
      | ']' :: rest => .ok (.arr (v :: done).reverse, rest)
      | ',' :: rest =>
        match skipBlank rest with
        | ']' :: rest => faultAt .trailingComma (']' :: rest)
        | rest => readElements item n (v :: done) rest
      | rest => faultAt .expectedListSeparator rest

/-- An array whose opening bracket is read. -/
def readArray (item : List Char → Reading Json) (cs : List Char) : Reading Json :=
  match skipBlank cs with
  | [] => faultAfter .endInList []
  | ']' :: rest => .ok (.arr [], rest)
  | cs => readElements item (cs.length + 1) [] cs

/-! ## Objects -/

/-- A member whose key begins the text. -/
def readMember (item : List Char → Reading Json) (cs : List Char) : Except Fault ((String × Json) × List Char) :=
  match cs with
  | '"' :: rest => do
    let (key, rest) ← StringLiteral.read rest
    match skipBlank rest with
    | [] => faultAfter .endInObject []
    | ':' :: rest => do
      let (v, rest) ← item rest
      return ((key, v), rest)
    | rest => faultAt .expectedColon rest
  | _ => faultAt .keyNotString cs

/-- Members up to the closing brace, set one after the other on top of `done`. The number bounds how many are left. -/
def readMembers (item : List Char → Reading Json) : Nat → List (String × Json) → List Char → Reading Json
  | 0, _, _ => faultAfter .endInValue []
  | n + 1, done, cs =>
    match readMember item cs with
    | .error fault => .error fault
    | .ok ((key, v), rest) =>
      match skipBlank rest with
      | [] => faultAfter .endInObject []
      | '}' :: rest => .ok (.obj (put key v done), rest)
      | ',' :: rest =>
        match skipBlank rest with
        | [] => faultAfter .endInValue []
        | '}' :: rest => faultAt .trailingComma ('}' :: rest)
        | rest => readMembers item n (put key v done) rest
      | rest => faultAt .expectedMemberSeparator rest

/-- An object whose opening brace is read. -/
def readObject (item : List Char → Reading Json) (cs : List Char) : Reading Json :=
  match skipBlank cs with
  | [] => faultAfter .endInObject []
  | '}' :: rest => .ok (.obj [], rest)
  | cs => readMembers item (cs.length + 1) [] cs

/-! ## Values -/

/-- The value at the front of a text, with so many levels left. -/
def readValue (depth : Nat) (cs : List Char) : Reading Json :=
  match skipBlank cs with
  | [] => faultAfter .endInValue []
  | 'n' :: rest => readWord .null ['u', 'l', 'l'] rest
  | 't' :: rest => readWord (.bool true) ['r', 'u', 'e'] rest
  | 'f' :: rest => readWord (.bool false) ['a', 'l', 's', 'e'] rest
  | '"' :: rest => (StringLiteral.read rest).map fun (s, rest) => (.str s, rest)
  | '[' :: rest =>
    match depth with
    | 0 => faultAt .recursionLimit ('[' :: rest)
    | depth + 1 => readArray (readValue depth) rest
  | '{' :: rest =>
    match depth with
    | 0 => faultAt .recursionLimit ('{' :: rest)
    | depth + 1 => readObject (readValue depth) rest
  | c :: rest =>
    if c = '-' ∨ c.isDigit then (Numeral.read (c :: rest)).map fun (n, rest) => (.num n, rest)
    else faultAt .expectedValue (c :: rest)

/-- The value that a text consists of, with blanks around it. -/
def readDocument (cs : List Char) : Except Fault Json :=
  match readValue greatestDepth cs with
  | .error fault => .error fault
  | .ok (v, rest) =>
    match skipBlank rest with
    | [] => .ok v
    | rest => faultAt .trailingCharacters rest

/-- Reads a text as one value. -/
def parse (s : String) : Except SyntaxError Json :=
  (readDocument s.toList).mapError (SyntaxError.locate s.toList)

end QueryDsl.Json
