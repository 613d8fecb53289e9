import QueryDsl.Regex.Cursor
import QueryDsl.Regex.Node

/-!
# Reading repetition operators

An operator behind a part says how often it is repeated: a sign, or numbers in braces. A question mark behind the
operator asks for few rounds first.
-/

namespace QueryDsl.Regex

/-- The number of rounds that a sign asks for. -/
def Rounds.ofSign? : Char → Option Rounds
  | '?' => some ⟨0, some 1, true⟩
  | '*' => some ⟨0, none, true⟩
  | '+' => some ⟨1, none, true⟩
  | _ => none

/-- The rounds with few of them first if a question mark comes next, and the cursor behind it. -/
def Rounds.readGreed (rounds : Rounds) (c : Cursor) : Rounds × Cursor :=
  if c.rest.head? = some '?' then ({ rounds with greedy := false }, c.advance) else (rounds, c)

/-! ## Numbers -/

/-- The greatest number of rounds that can be written. -/
def greatestCount : Nat := 4294967295

/-- Passes white space. -/
def skipWhite (c : Cursor) : Cursor :=
  match _h : c.rest with
  | [] => c
  | x :: _ => if Text.isWhiteSpace x then skipWhite c.step else c
termination_by c.rest.length
decreasing_by exact Cursor.length_step_lt ‹_›

/-- The digits that come next, and the cursor behind them. -/
def spanDigits (c : Cursor) : List Char × Cursor :=
  match _h : c.rest with
  | [] => ([], c)
  | x :: _ =>
    if x.isDigit then
      let (digits, behind) := spanDigits c.step
      (x :: digits, behind)
    else ([], c)
termination_by c.rest.length
decreasing_by exact Cursor.length_step_lt ‹_›

/-- The number that some digits write in base ten. -/
def decimalValue (digits : List Char) : Nat := digits.foldl (fun n d => 10 * n + (d.toNat - '0'.toNat)) 0

/-- A number with white space around it, or what is wrong with it, and the cursor behind it in both cases. -/
def readCount (c : Cursor) : Except Fault Nat × Cursor :=
  let first := skipWhite c
  let (digits, behind) := spanDigits first
  let span : Span := ⟨first.place, behind.place⟩
  let value :=
    if digits = [] then refuse .emptyCount span
    else if decimalValue digits ≤ greatestCount then .ok (decimalValue digits)
    else refuse .badDecimal span
  (value, skipWhite behind)

/-- The least and the greatest number of rounds, and the cursor at what should be the closing brace. The open brace
begins at `brace`. A pattern that ends is at fault before a number that is wrong. -/
def readLimits (brace : Place) (c : Cursor) : Except Fault (Rounds × Cursor) :=
  let unclosed (c : Cursor) : Except Fault (Rounds × Cursor) := refuse .openCount ⟨brace, c.place⟩
  if c.rest = [] then unclosed c
  else
    let (least, c) := readCount c
    match c.rest with
    | [] => unclosed c
    | ',' :: _ =>
      let c := c.step
      match c.rest with
      | [] => unclosed c
      | '\x7d' :: _ => do return (⟨← least, none, true⟩, c)
      | _ => do
        let least ← least
        let (most, c) := readCount c
        return (⟨least, some (← most), true⟩, c)
    | _ => do
      let least ← least
      return (⟨least, some least, true⟩, c)

/-- An operator in braces. The cursor is at the opening brace. -/
def readCounted (c : Cursor) : Except Fault (Rounds × Cursor) := do
  let (rounds, close) ← readLimits c.place c.step
  if close.rest.head? = some '\x7d' then
    let (rounds, behind) := rounds.readGreed close.step
    match rounds.most with
    | some most =>
      if most < rounds.least then refuse .reversedCount ⟨c.place, behind.place⟩ else return (rounds, behind)
    | none => return (rounds, behind)
  else refuse .openCount ⟨c.place, close.place⟩

end QueryDsl.Regex
