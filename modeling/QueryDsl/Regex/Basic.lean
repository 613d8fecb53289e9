import QueryDsl.Regex.CharSet
import QueryDsl.Regex.Node

/-!
# Regular expressions

A regular expression over characters, with conditions on the place between two characters. The places of a text are the
starts of its characters and its end. What an expression matches is a relation between places: it leads from one place
to another one if it matches the text between them (`Regex.moves`).

Sets of places are numbers whose bits are the places, so one step of a search moves all places at once (`Moves.image`).
Repeated steps stop when they no longer change anything (`Moves.settle_eq_repeat`).
-/

namespace QueryDsl

namespace Regex

/-! ## Conditions on places -/

/-- Conditions on words, which are made of ASCII letters, digits and underscores. -/
inductive WordLook where
  /-- A word begins or ends here. -/
  | boundary
  /-- No word begins or ends here. -/
  | noBoundary
  /-- A word begins here. -/
  | wordStart
  /-- A word ends here. -/
  | wordEnd
  /-- No word character stands before. -/
  | notAfterWord
  /-- No word character stands behind. -/
  | notBeforeWord
  deriving DecidableEq, Repr

/-- Conditions on the place between two characters. -/
inductive Look where
  | textStart
  | textEnd
  /-- The text starts here, or a line feed stands before. -/
  | lineStart
  /-- The text ends here, or a line feed follows. -/
  | lineEnd
  /-- As `lineStart`, where a carriage return, perhaps with a line feed, ends a line too. -/
  | crlfStart
  /-- As `lineEnd`, where a carriage return, perhaps with a line feed, ends a line too. -/
  | crlfEnd
  | word (kind : WordLook)
  /-- A condition on words of all scripts, for which there is no test. -/
  | unicodeWord (kind : WordLook)
  deriving DecidableEq, Repr

/-- Whether a character belongs to a word. No character at all does not. -/
def isWordChar : Option Char → Bool
  | some c => NamedClass.word.chars.contains c
  | none => false

namespace WordLook

/-- Whether the condition holds between two characters, where there are characters. -/
def holds (before behind : Option Char) : WordLook → Bool
  | boundary => isWordChar before != isWordChar behind
  | noBoundary => isWordChar before == isWordChar behind
  | wordStart => !isWordChar before && isWordChar behind
  | wordEnd => isWordChar before && !isWordChar behind
  | notAfterWord => !isWordChar before
  | notBeforeWord => !isWordChar behind

end WordLook

namespace Look

/-- Whether the condition holds between two characters, where there are characters. -/
def holds (before behind : Option Char) : Look → Bool
  | textStart => before == none
  | textEnd => behind == none
  | lineStart => before == none || before == some '\n'
  | lineEnd => behind == none || behind == some '\n'
  | crlfStart => before == none || before == some '\n' || (before == some '\r' && behind != some '\n')
  | crlfEnd => behind == none || behind == some '\r' || (behind == some '\n' && before != some '\r')
  | word kind => kind.holds before behind
  | unicodeWord _ => false

end Look

end Regex

/-! ## Expressions -/

namespace Regex

/-- What a set was taken from where it was written. -/
inductive Alphabet where
  | characters
  | bytes
  deriving DecidableEq, Repr

end Regex

/-- A regular expression. -/
inductive Regex where
  /-- Matches nothing between its characters. -/
  | empty
  /-- Matches one text. -/
  | word (text : List Char)
  /-- Matches one character of a set. -/
  | chars (alphabet : Regex.Alphabet) (set : Regex.CharSet)
  /-- Matches a place. -/
  | look (condition : Regex.Look)
  /-- Matches what its body does, and marks it. -/
  | group (body : Regex)
  /-- Matches so many rounds of its body. -/
  | repeated (rounds : Regex.Rounds) (body : Regex)
  /-- Matches its parts one after the other. -/
  | concat (parts : List Regex)
  /-- Matches what one of its branches does. -/
  | alternation (branches : List Regex)

namespace Regex

/-! ## Relations between places -/

/-- A relation between the places of a text. Sets of places are numbers, whose lowest bit is the first place. -/
inductive Moves where
  /-- Each of some places leads to itself. -/
  | stay (places : Nat)
  /-- Each of some places leads to the next one. -/
  | forward (places : Nat)
  /-- One relation, and then another one. -/
  | next (first second : Moves)
  /-- Either of two relations. -/
  | either (left right : Moves)
  /-- So many rounds of a relation, and at most so many more. -/
  | rounds (body : Moves) (least more : Nat)

namespace Moves

/-! ### Places of a text -/

/-- All places. -/
def allPlaces : List Char → Nat
  | [] => 1
  | _ :: rest => 2 * allPlaces rest + 1

/-- The places in front of characters of a set. -/
def placesBefore (set : CharSet) : List Char → Nat
  | [] => 0
  | c :: rest => 2 * placesBefore set rest + (set.contains c).toNat

/-- The places where a condition holds. `before` is the character before the first place. -/
def placesWhere (condition : Look) (before : Option Char) : List Char → Nat
  | [] => (condition.holds before none).toNat
  | c :: rest => 2 * placesWhere condition (some c) rest + (condition.holds before (some c)).toNat

/-! ### Steps -/

/-- What a step makes of a value when it is taken so many times. No more steps are taken when one changes nothing. -/
def settle (step : Nat → Nat) : Nat → Nat → Nat
  | 0, x => x
  | n + 1, x =>
    let y := step x
    if y = x then x else settle step n y

/-- A step that changes nothing may be taken any number of times. -/
theorem repeat_of_fixed {step : Nat → Nat} {x : Nat} (h : step x = x) (n : Nat) : Nat.repeat step n x = x := by
  induction n with
  | zero => rfl
  | succ n ih => rw [Nat.repeat, ih, h]

/-- It does not matter whether a step is taken before the others or behind them. -/
theorem repeat_step (step : Nat → Nat) (n x : Nat) : Nat.repeat step n (step x) = step (Nat.repeat step n x) := by
  induction n with
  | zero => rfl
  | succ n ih => rw [Nat.repeat, ih, Nat.repeat]

/-- Stopping early gives what all the steps give. -/
theorem settle_eq_repeat (step : Nat → Nat) (n x : Nat) : settle step n x = Nat.repeat step n x := by
  induction n generalizing x with
  | zero => rfl
  | succ n ih =>
    unfold settle
    by_cases h : step x = x
    · simp [h, repeat_of_fixed h]
    · simp [h, ih, repeat_step, Nat.repeat]

/-- The places to which a relation leads from some places. -/
def image : Moves → Nat → Nat
  | stay places, x => x &&& places
  | forward places, x => 2 * (x &&& places)
  | next first second, x => image second (image first x)
  | either left right, x => image left x ||| image right x
  | rounds body least more, x => settle (fun y => y ||| image body y) more (settle (image body) least x)

end Moves

/-! ## Matching -/

/-- Where a word leads in a text. -/
def wordMoves (text : List Char) : List Char → Moves
  | [] => .stay (Moves.allPlaces text)
  | c :: rest => .next (.forward (Moves.placesBefore (.single c) text)) (wordMoves text rest)

mutual

/-- Where an expression leads in a text. Where the number of rounds has no bound, no more rounds than characters are
needed that do not stay in their place. -/
def moves (text : List Char) : Regex → Moves
  | empty => .stay (Moves.allPlaces text)
  | word w => wordMoves text w
  | chars _ set => .forward (Moves.placesBefore set text)
  | look condition => .stay (Moves.placesWhere condition none text)
  | group body => moves text body
  | repeated rounds body =>
    .rounds (moves text body) rounds.least
      (match rounds.most with
      | some most => most - rounds.least
      | none => text.length)
  | concat parts => sequenceMoves text parts
  | alternation branches => branchMoves text branches

/-- Where some expressions lead one after the other. -/
def sequenceMoves (text : List Char) : List Regex → Moves
  | [] => .stay (Moves.allPlaces text)
  | part :: rest => .next (moves text part) (sequenceMoves text rest)

/-- Where either of some expressions leads. -/
def branchMoves (text : List Char) : List Regex → Moves
  | [] => .stay 0
  | branch :: rest => .either (moves text branch) (branchMoves text rest)

end

/-- Whether an expression matches some part of a text: it leads from some place to some place. -/
def occursIn (r : Regex) (text : List Char) : Bool :=
  (r.moves text).image (Moves.allPlaces text) != 0

end Regex

end QueryDsl
