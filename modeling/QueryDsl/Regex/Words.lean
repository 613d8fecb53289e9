import QueryDsl.Regex.Simplest
import QueryDsl.Regex.Utf8

/-!
# Expressions that amount to words

An expression without groups and conditions that matches a few short words only is searched for by these words
(`Regex.words?`), without an automaton, unless there is something better to search for: a rare byte or a long text that
all of them begin with, or less of each word where there are many of them (`Regex.amountsToWords`).
-/

namespace QueryDsl.Regex

/-- The bytes of a word. -/
abbrev ByteWord := List Nat

namespace ByteWord

/-! ## Lists of words -/

/-- The greatest number of characters of a set that are taken one by one. -/
def greatestSet : Nat := 10

/-- The greatest number of rounds that are followed. -/
def greatestRounds : Nat := 10

/-- The greatest number of bytes of a word. -/
def greatestLength : Nat := 100

/-- The greatest number of words. -/
def greatestCount : Nat := 250

/-- Words without neighbours that are equal, unless there are too many or one is too long. -/
def limited (words : List ByteWord) : Option (List ByteWord) :=
  if words.all fun w => w.length ≤ greatestLength then some words.eraseReps else none

/-- Words of either kind. -/
def either : Option (List ByteWord) → Option (List ByteWord) → Option (List ByteWord)
  | some as, some bs => if as.length + bs.length ≤ greatestCount then limited (as ++ bs) else none
  | _, _ => none

/-- Words that are followed by others. Where there are no words nothing follows, whatever it is. -/
def next : Option (List ByteWord) → Option (List ByteWord) → Option (List ByteWord)
  | some [], _ => some []
  | some as, some bs =>
    if as.length * bs.length ≤ greatestCount then limited (as.flatMap fun a => bs.map (a ++ ·)) else none
  | _, _ => none

/-- So many rounds of words behind others. -/
def rounds (once : Option (List ByteWord)) : Nat → Option (List ByteWord) → Option (List ByteWord)
  | 0, words => words
  | n + 1, words => rounds once n (next words once)

/-- The words of a list that is known to be empty. -/
def onlyIfNone : Option (List ByteWord) → Option (List ByteWord)
  | some [] => some []
  | _ => none

/-- The words of rounds of an expression, given those of one round. -/
def ofRounds (r : Rounds) (once : Option (List ByteWord)) : Option (List ByteWord) :=
  if r.least = 0 then
    let once := if r.most = some 1 then once else onlyIfNone once
    if r.greedy then either once (some [[]]) else either (some [[]]) once
  else
    let several := rounds once (min r.least greatestRounds) (some [[]])
    if r.most = some r.least ∧ r.least ≤ greatestRounds then several else onlyIfNone several

/-- The words of the characters of a set. -/
def ofSet (set : CharSet) : Option (List ByteWord) :=
  if greatestSet < set.ranges.foldl (fun n r => n + (r.2 + 1 - r.1)) 0 then none
  else some ((set.ranges.flatMap fun r => (List.range (r.2 + 1 - r.1)).map (r.1 + ·)).map encode)

end ByteWord

mutual

/-- The words that an expression matches, those that are preferred first, if it matches nothing else. -/
def words? : Regex → Option (List ByteWord)
  | empty => some [[]]
  | word text => ByteWord.limited [encodeText text]
  | chars _ set => ByteWord.ofSet set
  | look _ => none
  | group _ => none
  | repeated r body => ByteWord.ofRounds r (words? body)
  | concat parts => sequenceWords? (some [[]]) parts
  | alternation branches => branchWords? (some []) branches

/-- The words of some expressions one after the other, behind other words. -/
def sequenceWords? (done : Option (List ByteWord)) : List Regex → Option (List ByteWord)
  | [] => done
  | r :: rest => if done.isNone then none else sequenceWords? (ByteWord.next done (words? r)) rest

/-- The words of either of some expressions, behind other words. -/
def branchWords? (done : Option (List ByteWord)) : List Regex → Option (List ByteWord)
  | [] => done
  | r :: rest => if done.isNone then none else branchWords? (ByteWord.either done (words? r)) rest

end

/-! ## What is searched for -/

namespace ByteWord

/-- Leaves out the words that begin with an earlier one, which is always found first. -/
def firstFound (found : List ByteWord) : List ByteWord → List ByteWord
  | [] => found.reverse
  | w :: rest => if found.any (·.isPrefixOf w) then firstFound found rest else firstFound (w :: found) rest

/-- How many bytes two words have in common at their beginnings. -/
def sharedLength : ByteWord → ByteWord → Nat
  | a :: as, b :: bs => if a = b then sharedLength as bs + 1 else 0
  | _, _ => 0

/-- The bytes with which all of some words begin. -/
def shared : List ByteWord → ByteWord
  | [] => []
  | first :: rest => first.take (rest.foldl (fun n w => min n (sharedLength first w)) first.length)

/-- The ASCII characters that are frequent in texts. -/
def frequentChars : List Char := "\n\r (),-./0129:_abcdefghilmnoprstuvxy|".toList

/-- Whether a byte is frequent in texts. Every byte that begins a longer encoding is. -/
def isFrequent (byte : Nat) : Bool := 0xc0 ≤ byte || frequentChars.any fun c => c.toNat == byte

/-- Cuts many words: where there are more of them than the second number of a pair, behind the first one. -/
def shorten : List (Nat × Nat) → List ByteWord → List ByteWord
  | [], words => words
  | (length, count) :: rest, words =>
    if words.length ≤ count then words else shorten rest (firstFound [] (words.map (·.take length)))

/-- Whether words are searched for as they are, where their beginnings would do if there are many of them. They would
not do if one of them is very short, or if there are still too many. -/
def stayWhole (words : List ByteWord) : Bool :=
  let short := shorten [(5, 10), (4, 10), (3, 64), (2, 64), (1, 10)] words
  (short.any fun w => w.length ≤ 2) || 64 < short.length || short.all words.contains

/-- Whether words are searched for as they are. -/
def areSearched (words : List ByteWord) : Bool :=
  let kept := firstFound [] words
  let shared := shared kept
  if words.isEmpty || words.contains [] then false
  else if 1 < words.length ∧ 1 ≤ shared.length ∧ shared.length ≤ 3 ∧ !(shared.take 1).any isFrequent then
    kept.all fun w => w.length = 1
  else if 4 < shared.length ∨ (1 < shared.length ∧ 16 < kept.length) then kept.length = 1
  else stayWhole kept

end ByteWord

mutual

/-- Whether an expression has groups or conditions. -/
def hasMarks : Regex → Bool
  | look _ => true
  | group _ => true
  | repeated _ body => hasMarks body
  | concat parts => someHaveMarks parts
  | alternation branches => someHaveMarks branches
  | _ => false

/-- Whether one of some expressions has groups or conditions. -/
def someHaveMarks : List Regex → Bool
  | [] => false
  | r :: rest => hasMarks r || someHaveMarks rest

end

/-- Whether an expression is searched for by words. -/
def amountsToWords (r : Regex) : Bool := !r.hasMarks && r.words?.any ByteWord.areSearched

end QueryDsl.Regex
