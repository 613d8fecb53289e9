import QueryDsl.Regex.Draft
import QueryDsl.Regex.Simplest

/-!
# The size of an automaton

An expression is matched by an automaton over the bytes of UTF-8, once forward and once backward, and an expression
whose automaton takes too much memory is refused (`Regex.fits`). The size does not depend on how an expression is
matched here; it bounds the numbers of rounds that a pattern may ask for.

`Regex.draft` says of which states the automaton consists. A branch is counted where its state is made, though it may
lead to a state that is made later.
-/

namespace QueryDsl.Regex

/-- The direction in which an automaton reads. -/
inductive Direction where
  | forward
  | backward
  deriving DecidableEq, Repr

/-- How much memory an automaton may take: ten mebibytes. -/
def greatestSize : Nat := 10485760

/-! ## Choices between words -/

namespace WordTree

/-- Words that end where others go on count once in front of these. -/
def withoutRepeatedEnd : List (List Nat) → List (List Nat)
  | [] :: [] :: rest => withoutRepeatedEnd ([] :: rest)
  | words => words

/-- The words between those that are at their end. -/
def betweenEnds : List (List Nat) → List (List (List Nat))
  | [] => [[]]
  | [] :: rest => [] :: betweenEnds rest
  | w :: rest =>
    match betweenEnds rest with
    | part :: parts => (w :: part) :: parts
    | [] => [[w]]

/-- What follows each first byte in some words that are not at their end. -/
def tails (words : List (List Nat)) : List (List (List Nat)) :=
  (words.filterMap List.head?).eraseDups.map fun first =>
    words.filterMap fun w => match w with
      | b :: rest => if b = first then some rest else none
      | [] => none

/-- The state that reads the first bytes of some words, if there are any. -/
def readState (tails : List (List (List Nat))) : Draft :=
  match tails with
  | [] => .states 0 0
  | [_] => .states 1 0
  | _ => .states 1 (transitionMemory tails.length)

/-- The states for a tree of words that have at most so many bytes. Words that end are tried in their turn, between the
words in front of them and those behind. -/
def draft : Nat → List (List Nat) → Draft
  | 0, _ => .states 0 0
  | n + 1, words =>
    let parts := (betweenEnds (withoutRepeatedEnd words)).map tails
    let reading := parts.filter fun part => !part.isEmpty
    let below := parts.flatten.filter fun rest => rest.any fun w => !w.isEmpty
    .all (below.map (draft n) ++ reading.map readState
      ++ [.states 1 (branchMemory (reading.length + parts.length - 1))])

end WordTree

/-- The words of some expressions that are all words. -/
def wordsOf? : List Regex → Option (List (List Char))
  | [] => some []
  | word text :: rest => (wordsOf? rest).map (text :: ·)
  | _ => none

/-! ## Expressions -/

/-- The states for the characters of a set. -/
def setDraft (direction : Direction) (set : CharSet) : Draft :=
  if set.isAscii then .states 2 (transitionMemory set.ranges.length)
  else
    match direction with
    | .forward => .forward (.ofSequences (byteSequences set))
    | .backward => .backward (byteSequences set)

/-- A state that branches to two others. -/
def forkDraft : Draft := .states 1 (branchMemory 2)

/-- The states for rounds of an expression, whose draft is `body`. `hasChars` says that each round matches a character;
else a loop has a state of its own behind it. -/
def roundsDraft (r : Rounds) (hasChars : Bool) (body : Draft) : Draft :=
  match r.least, r.most with
  | 0, some 1 => .all [forkDraft, body, .states 1 0]
  | 0, none => if hasChars then .next forkDraft body else .all [body, forkDraft, forkDraft, .states 1 0]
  | least, none => .next (.copies least body) forkDraft
  | least, some most =>
    let fixed := if least = 0 then .states 1 0 else .copies least body
    if least = most then fixed else .all [fixed, .states 1 0, .copies (most - least) (.next forkDraft body)]

/-- The states for a choice between drafts, which are made behind the first two of them. -/
def choiceDraft : List Draft → Draft
  | first :: second :: rest =>
    .all (first :: second :: .states 2 (branchMemory (rest.length + 2)) :: rest)
  | drafts => .all drafts

/-- The states for a choice between words. -/
def wordsDraft (direction : Direction) (words : List (List Char)) : Draft :=
  let words := words.map encodeText
  let words := match direction with
    | .forward => words
    | .backward => words.map List.reverse
  .next (.states 1 0) (WordTree.draft (words.foldl (fun n w => max n w.length) 0 + 1) words)

mutual

/-- The states for an expression. Forward, groups mark where they begin and end; backward, the last parts come first. -/
def draft (direction : Direction) : Regex → Draft
  | empty => .states 1 0
  | word text => .states (encodeText text).length 0
  | chars _ set => setDraft direction set
  | look _ => .states 1 0
  | group body =>
    match direction with
    | .forward => .all [.states 1 0, draft direction body, .states 1 0]
    | .backward => draft direction body
  | repeated rounds body => roundsDraft rounds ((leastLength body).any (0 < ·)) (draft direction body)
  | concat parts =>
    match direction with
    | .forward => .all (drafts direction parts)
    | .backward => .all (drafts direction parts).reverse
  | alternation branches =>
    match wordsOf? branches with
    | some words => wordsDraft direction words
    | none => choiceDraft (drafts direction branches)

/-- The states for each of some expressions. -/
def drafts (direction : Direction) : List Regex → List Draft
  | [] => []
  | r :: rest => draft direction r :: drafts direction rest

end

/-- The states of the whole automaton. It begins by passing any bytes, unless it can match at its start only, and ends
in a state of its own. Forward, it marks the whole match. -/
def wholeDraft (direction : Direction) (r : Regex) : Draft :=
  let anchored := match direction with
    | .forward => r.beginsWith .textStart
    | .backward => r.endsWith .textEnd
  let start : Draft := if anchored then .states 1 0 else .next forkDraft (.states 2 (transitionMemory 1))
  match direction with
  | .forward => .all [start, .states 1 0, r.draft direction, .states 2 0]
  | .backward => .all [start, r.draft direction, .states 1 0]

/-- Whether the automaton for an expression takes no more memory than it may. -/
def fits (direction : Direction) (r : Regex) : Bool :=
  ((r.wholeDraft direction).build greatestSize ⟨0, 0⟩).isSome

end QueryDsl.Regex
