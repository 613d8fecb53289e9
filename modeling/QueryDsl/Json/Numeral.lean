import QueryDsl.Json.Basic
import QueryDsl.Json.SyntaxError

/-!
# Numerals

A numeral is split into its sign, its whole digits, its fraction and its exponent (`Numeral.read`), and its value is
taken from these parts (`Numeral.value`).

A plain numeral that fits a word of 64 bits is an integer; every other one is a double. The digits of a double are
taken into a word as long as they fit (`Numeral.absorb`); the word is then scaled by a rounded power of ten, so the
result may be a neighbour of the double nearest to the numeral.
-/

namespace QueryDsl.Json

/-- The exponent of a numeral: its sign and its digits. -/
structure WrittenExponent where
  negative : Bool
  digits : List Char
  deriving DecidableEq, Repr

/-- The parts of a numeral. A fraction or an exponent that is written has a digit. -/
structure Numeral where
  negative : Bool
  whole : List Char
  fraction : Option (List Char)
  exponent : Option WrittenExponent
  deriving DecidableEq, Repr

namespace Numeral

/-! ## Reading the parts -/

/-- The longest front of a text that consists of digits, and the rest. -/
def spanDigits (cs : List Char) : List Char × List Char := (cs.takeWhile Char.isDigit, cs.dropWhile Char.isDigit)

/-- No character is lost. -/
theorem spanDigits_append (cs : List Char) : (spanDigits cs).1 ++ (spanDigits cs).2 = cs :=
  List.takeWhile_append_dropWhile

/-- The front holds digits only. -/
theorem isDigit_of_mem_spanDigits {cs : List Char} : ∀ c ∈ (spanDigits cs).1, c.isDigit := by
  intro c hc
  exact List.all_eq_true.1 List.all_takeWhile c hc

/-- Digits, of which there is at least one. -/
def readDigits (cs : List Char) : Reading (List Char) :=
  match cs with
  | [] => faultAfter .endInValue []
  | c :: _ => if c.isDigit then .ok (spanDigits cs) else faultAt .invalidNumber cs

/-- The whole digits. A leading zero stands alone. -/
def readWhole (cs : List Char) : Reading (List Char) :=
  match cs with
  | '0' :: rest =>
    match rest with
    | c :: _ => if c.isDigit then faultAt .invalidNumber rest else .ok (['0'], rest)
    | [] => .ok (['0'], rest)
  | _ => readDigits cs

/-- The fraction, if a point follows. -/
def readFraction (cs : List Char) : Reading (Option (List Char)) :=
  match cs with
  | '.' :: rest => (readDigits rest).map fun (digits, rest) => (some digits, rest)
  | _ => .ok (none, cs)

/-- The digits of an exponent with their sign. -/
def readSignedDigits (cs : List Char) : Reading WrittenExponent :=
  match cs with
  | '-' :: rest => (readDigits rest).map fun (digits, rest) => (⟨true, digits⟩, rest)
  | '+' :: rest => (readDigits rest).map fun (digits, rest) => (⟨false, digits⟩, rest)
  | _ => (readDigits cs).map fun (digits, rest) => (⟨false, digits⟩, rest)

/-- The exponent, if its letter follows. -/
def readExponent (cs : List Char) : Reading (Option WrittenExponent) :=
  match cs with
  | c :: rest =>
    if c = 'e' ∨ c = 'E' then (readSignedDigits rest).map fun (e, rest) => (some e, rest)
    else .ok (none, cs)
  | [] => .ok (none, [])

/-- The sign, if it is written. -/
def readSign (cs : List Char) : Bool × List Char :=
  match cs with
  | '-' :: rest => (true, rest)
  | _ => (false, cs)

/-- The parts of the numeral at the front of a text. -/
def readParts (cs : List Char) : Except Fault (Numeral × List Char) := do
  let (negative, rest) := readSign cs
  let (whole, rest) ← readWhole rest
  let (fraction, rest) ← readFraction rest
  let (exponent, rest) ← readExponent rest
  return (⟨negative, whole, fraction, exponent⟩, rest)

/-! ## Values -/

/-- The value of a digit. -/
def digitValue (c : Char) : Nat := c.toNat - '0'.toNat

/-- Takes digits into a number up to the first one with which it would exceed the bound. Gives the number and the
digits that are left. -/
def absorb (bound : Nat) : Nat → List Char → Nat × List Char
  | n, [] => (n, [])
  | n, c :: cs =>
    if 10 * n + digitValue c ≤ bound then absorb bound (10 * n + digitValue c) cs else (n, c :: cs)

/-- The greatest significand. -/
def greatestWord : Nat := 18446744073709551615

/-- The greatest exponent that is taken as written. -/
def greatestExponent : Nat := 2147483647

/-- The digits that make the significand, and the power of ten by which the numeral exceeds it. Whole digits that do
not fit count as zeros, fraction digits that do not fit are dropped. -/
def significand (n : Numeral) : Nat × Int :=
  let (whole, dropped) := absorb greatestWord 0 n.whole
  let fraction := n.fraction.getD []
  let (all, unused) := absorb greatestWord whole fraction
  (all, (dropped.length : Int) - ((fraction.length : Int) - (unused.length : Int)))

/-- A magnitude times a power of ten, one rounding for each factor. Exponents below the range of doubles are taken in
steps of 308. -/
def scale (m : Magnitude) (exponent : Int) : Option Magnitude :=
  if exponent.natAbs ≤ 308 then do
    let power ← Magnitude.ofNat (Nat.pow 10 exponent.natAbs)
    if 0 ≤ exponent then m.mul power else m.div power
  else if m = Magnitude.zero then some m
  else if 0 < exponent then none
  else do
    let power ← Magnitude.ofNat (Nat.pow 10 308)
    let smaller ← m.div power
    scale smaller (exponent + 308)
termination_by (-exponent).toNat

/-- A double from a significand and a power of ten, or none if it is out of range. -/
def double (negative : Bool) (significand : Nat) (exponent : Int) : Option Number := do
  let m ← Magnitude.ofNat significand
  let scaled ← scale m exponent
  return .float ⟨negative, scaled⟩

/-- The integer of a plain numeral, where it fits. A negative zero is no integer. -/
def integer? (n : Numeral) : Option Integer :=
  match n.fraction, n.exponent with
  | none, none =>
    match absorb greatestWord 0 n.whole with
    | (value, []) =>
      if n.negative then
        if value = 0 then none else Integer.ofInt? (-value)
      else
        Integer.ofInt? value
    | _ => none
  | _, _ => none

/-- The value of a numeral that is followed by `rest`. An exponent with too many digits leaves zero where the
significand is zero or the exponent is negative, else the fault lies behind the first digit too many. -/
def value (n : Numeral) (rest : List Char) : Except Fault Number :=
  match n.integer? with
  | some i => .ok (.int i)
  | none =>
    let (significand, shift) := n.significand
    let written := n.exponent.getD ⟨false, []⟩
    match absorb greatestExponent 0 written.digits with
    | (exponent, []) =>
      let signed : Int := if written.negative then -exponent else exponent
      match double n.negative significand (shift + signed) with
      | some x => .ok x
      | none => faultAfter .numberOutOfRange rest
    | (_, _ :: unread) =>
      if significand = 0 ∨ written.negative then .ok (.float ⟨n.negative, Magnitude.zero⟩)
      else faultAfter .numberOutOfRange (unread ++ rest)

/-- The number at the front of a text. -/
def read (cs : List Char) : Except Fault (Number × List Char) := do
  let (numeral, rest) ← readParts cs
  let number ← numeral.value rest
  return (number, rest)

end Numeral

end QueryDsl.Json
