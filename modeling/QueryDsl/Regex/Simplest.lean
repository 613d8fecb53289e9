import QueryDsl.Regex.Basic

/-!
# Simplest forms

Expressions that match the same texts are brought to one form while they are made: neighbouring words are joined
(`Regex.sequence`), a choice between single characters is a set (`Regex.choice`), branches that begin alike share their
beginning, and rounds that change nothing are left out (`Regex.rounds`). The form decides how much memory an automaton
takes, so each of these steps is taken only where it is said here.
-/

namespace QueryDsl.Regex

/-! ## Lengths -/

mutual

/-- Whether an expression can match no character. -/
def onlyPlaces : Regex → Bool
  | empty => true
  | word _ => false
  | chars _ _ => false
  | look _ => true
  | group body => onlyPlaces body
  | repeated _ body => onlyPlaces body
  | concat parts => allOnlyPlaces parts
  | alternation branches => allOnlyPlaces branches

/-- Whether none of some expressions can match a character. -/
def allOnlyPlaces : List Regex → Bool
  | [] => true
  | r :: rest => onlyPlaces r && allOnlyPlaces rest

end

mutual

/-- A number of characters that every match has at least. There is none where a part of the expression matches no text
at all. -/
def leastLength : Regex → Option Nat
  | empty => some 0
  | word text => some text.length
  | chars _ set => if set.ranges.isEmpty then none else some 1
  | look _ => some 0
  | group body => leastLength body
  | repeated rounds body => (leastLength body).map (rounds.least * ·)
  | concat parts => leastLengths (· + ·) 0 parts
  | alternation [] => none
  | alternation (branch :: rest) => do leastLengths min (← leastLength branch) rest

/-- The least lengths of some expressions put together, from a first one on. -/
def leastLengths (join : Nat → Nat → Nat) (first : Nat) : List Regex → Option Nat
  | [] => some first
  | r :: rest => do leastLengths join (join first (← leastLength r)) rest

end

/-! ## Comparison -/

mutual

/-- Whether two expressions are written alike in their simplest forms. Groups mark different parts, so no two of them
are. -/
def isLike : Regex → Regex → Bool
  | empty, empty => true
  | word a, word b => a == b
  | chars u s, chars v t => u == v && s.ranges == t.ranges
  | look a, look b => a == b
  | repeated m a, repeated n b => m == n && isLike a b
  | concat as, concat bs => areLike as bs
  | alternation as, alternation bs => areLike as bs
  | _, _ => false

/-- Whether some expressions are alike pair by pair. -/
def areLike : List Regex → List Regex → Bool
  | [], [] => true
  | a :: as, b :: bs => isLike a b && areLike as bs
  | _, _ => false

end

/-! ## Making expressions -/

/-- Matches no text. -/
def never : Regex := chars .bytes .empty

/-- The expression for the characters of a set: a set of one character is a word. -/
def ofSet (alphabet : Alphabet) (set : CharSet) : Regex :=
  if set.ranges.isEmpty then never
  else
    match set.single? with
    | some n => word [Char.ofNat n]
    | none => chars alphabet set

/-- Rounds of an expression. Of an expression without characters one round is as good as many. -/
def rounds (r : Rounds) (body : Regex) : Regex :=
  let r := if body.onlyPlaces then { r with least := min r.least 1, most := some (min (r.most.getD 1) 1) } else r
  if r.most = some 0 then empty
  else if r.least = 1 ∧ r.most = some 1 then body
  else repeated r body

/-- The parts of a sequence that an expression makes. -/
def parts : Regex → List Regex
  | empty => []
  | concat parts => parts
  | r => [r]

/-- Joins neighbouring words. -/
def joinWords : List Regex → List Regex
  | [] => []
  | r :: rest =>
    match r, joinWords rest with
    | word a, word b :: more => word (a ++ b) :: more
    | r, more => r :: more

/-- Expressions one after the other. -/
def sequence (rs : List Regex) : Regex :=
  match joinWords (rs.flatMap parts) with
  | [] => empty
  | [r] => r
  | parts => concat parts

/-- The branches of a choice that an expression makes. -/
def branches : Regex → List Regex
  | alternation branches => branches
  | r => [r]

/-- The sets of some expressions that are words of one character. -/
def lettersOf? : List Regex → Option (List CharSet)
  | [] => some []
  | word [c] :: rest => (lettersOf? rest).map (.single c :: ·)
  | _ => none

/-- The sets of some expressions that are sets. -/
def charsOf? : List Regex → Option (List CharSet)
  | [] => some []
  | chars _ set :: rest => (charsOf? rest).map (set :: ·)
  | _ => none

/-- The parts of an expression that has several. -/
def severalParts : Regex → List Regex
  | concat parts => parts
  | _ => []

/-- How many parts two sequences have in common at their beginnings. -/
def sharedCount : List Regex → List Regex → Nat
  | a :: as, b :: bs => if a.isLike b then sharedCount as bs + 1 else 0
  | _, _ => 0

/-- A choice between expressions. Where each of them is a letter, or each of them is a set, it is a set. `otherwise`
makes it of other branches. -/
def choiceOr (otherwise : List Regex → Regex) (rs : List Regex) : Regex :=
  match rs.flatMap branches with
  | [r] => r
  | branches =>
    match (lettersOf? branches).or (charsOf? branches) with
    | some sets => ofSet .characters (.unionAll sets)
    | none => otherwise branches

/-- A choice between expressions. Where all branches begin with the same parts, these stand before the choice between
what is left; that has no common beginning any more. -/
def choice : List Regex → Regex :=
  choiceOr fun branches =>
    match branches with
    | [] => never
    | first :: others =>
      let shared := others.foldl (fun n r => min n (sharedCount first.severalParts r.severalParts))
        first.severalParts.length
      if shared = 0 then alternation branches
      else
        let rest := branches.map fun r => sequence (r.severalParts.drop shared)
        sequence (first.severalParts.take shared ++ [choiceOr alternation rest])

/-! ## Conditions that every match meets -/

mutual

/-- Whether every match begins with a condition. -/
def beginsWith (condition : Look) : Regex → Bool
  | look c => c == condition
  | group body => beginsWith condition body
  | repeated rounds body => rounds.least != 0 && beginsWith condition body
  | concat parts => partsBeginWith condition parts
  | alternation branches => allBeginWith condition branches
  | _ => false

/-- Whether every match of some expressions one after the other begins with a condition. -/
def partsBeginWith (condition : Look) : List Regex → Bool
  | [] => false
  | r :: rest => beginsWith condition r || (r.onlyPlaces && partsBeginWith condition rest)

/-- Whether every match of each of some expressions begins with a condition. -/
def allBeginWith (condition : Look) : List Regex → Bool
  | [] => true
  | r :: rest => beginsWith condition r && allBeginWith condition rest

end

mutual

/-- Whether every match ends with a condition. -/
def endsWith (condition : Look) : Regex → Bool
  | look c => c == condition
  | group body => endsWith condition body
  | repeated rounds body => rounds.least != 0 && endsWith condition body
  | concat parts => partsEndWith condition parts
  | alternation branches => allEndWith condition branches
  | _ => false

/-- Whether every match of some expressions one after the other ends with a condition. -/
def partsEndWith (condition : Look) : List Regex → Bool
  | [] => false
  | r :: rest => partsEndWith condition rest || (allOnlyPlaces rest && endsWith condition r)

/-- Whether every match of each of some expressions ends with a condition. -/
def allEndWith (condition : Look) : List Regex → Bool
  | [] => true
  | r :: rest => endsWith condition r && allEndWith condition rest

end

mutual

/-- Whether an expression has a condition on words of all scripts. -/
def asksUnicodeWords : Regex → Bool
  | look (.unicodeWord _) => true
  | group body => asksUnicodeWords body
  | repeated _ body => asksUnicodeWords body
  | concat parts => someAskUnicodeWords parts
  | alternation branches => someAskUnicodeWords branches
  | _ => false

/-- Whether one of some expressions has a condition on words of all scripts. -/
def someAskUnicodeWords : List Regex → Bool
  | [] => false
  | r :: rest => asksUnicodeWords r || someAskUnicodeWords rest

end

end QueryDsl.Regex
