/-!
# Sets of characters

A set is the ascending list of the code points at which membership changes, starting from outside. So it has one form
only, its complement is a change at zero (`CharSet.contains_complement`), and every operation on two sets is one sweep
over their changes (`CharSet.contains_combine`).
-/

namespace QueryDsl.Regex

/-- A set of characters. -/
structure CharSet where
  changes : List Nat
  ascending : changes.Pairwise (· < ·)
  deriving DecidableEq, Repr

namespace CharSet

/-! ## Membership -/

/-- Whether a code point is inside after the changes up to it. -/
def insideAfter (n : Nat) : Bool → List Nat → Bool
  | inside, [] => inside
  | inside, p :: rest => if p ≤ n then insideAfter n (!inside) rest else inside

/-- Whether a character belongs to the set. -/
def contains (s : CharSet) (c : Char) : Bool := insideAfter c.toNat false s.changes

/-- Starting from the other side gives the other answer. -/
theorem insideAfter_not (n : Nat) (inside : Bool) (changes : List Nat) :
    insideAfter n (!inside) changes = !insideAfter n inside changes := by
  induction changes generalizing inside with
  | nil => rfl
  | cons p rest ih =>
    unfold insideAfter
    split
    · exact ih _
    · rfl

/-- Later changes do not count. -/
theorem insideAfter_of_forall_lt {n : Nat} {inside : Bool} {changes : List Nat} (h : ∀ p ∈ changes, n < p) :
    insideAfter n inside changes = inside := by
  cases changes with
  | nil => rfl
  | cons p rest =>
    have := h p List.mem_cons_self
    rw [insideAfter, if_neg (by omega)]

/-! ## Sets -/

/-- The set without characters. -/
def empty : CharSet := ⟨[], List.Pairwise.nil⟩

/-- A range begins before the place behind its end. -/
theorem pairwise_ends {low high : Nat} (h : low ≤ high) : [low, high + 1].Pairwise (· < ·) := by
  simp
  omega

/-- The characters from one code point to another one, both included. -/
def range (low high : Nat) : CharSet :=
  if h : low ≤ high then ⟨[low, high + 1], pairwise_ends h⟩ else empty

/-- The set of one character. -/
def single (c : Char) : CharSet := range c.toNat c.toNat

/-- The characters that are not in the set. -/
def complement (s : CharSet) : CharSet :=
  match s with
  | ⟨0 :: rest, h⟩ => ⟨rest, (List.pairwise_cons.1 h).2⟩
  | ⟨[], _⟩ => ⟨[0], by simp⟩
  | ⟨(n + 1) :: rest, h⟩ => ⟨0 :: (n + 1) :: rest, List.pairwise_cons.2 ⟨by grind [List.pairwise_cons], h⟩⟩

/-- The complement has the characters that the set lacks. -/
theorem contains_complement (s : CharSet) (c : Char) : s.complement.contains c = !s.contains c := by
  unfold complement contains
  split <;> simp [insideAfter, ← insideAfter_not]

/-- The range holds what lies between its ends. -/
theorem contains_range (low high : Nat) (c : Char) :
    (range low high).contains c = (decide (low ≤ c.toNat) && decide (c.toNat ≤ high)) := by
  unfold range contains
  split <;> grind [insideAfter, empty]

/-! ## Operations on two sets -/

/-- A list of changes behind a code point at which one side follows the other, if it differs. -/
def turn (before after : Bool) (p : Nat) (rest : List Nat) : List Nat :=
  if before = after then rest else p :: rest

/-- Sweeps over the changes of two sets. `left` and `right` are the sides on which the sweep is. -/
def sweep (op : Bool → Bool → Bool) : Bool → Bool → List Nat → List Nat → List Nat
  | _, _, [], [] => []
  | left, right, p :: ps, [] => turn (op left right) (op (!left) right) p (sweep op (!left) right ps [])
  | left, right, [], q :: qs => turn (op left right) (op left (!right)) q (sweep op left (!right) [] qs)
  | left, right, p :: ps, q :: qs =>
    if p < q then turn (op left right) (op (!left) right) p (sweep op (!left) right ps (q :: qs))
    else if q < p then turn (op left right) (op left (!right)) q (sweep op left (!right) (p :: ps) qs)
    else turn (op left right) (op (!left) (!right)) p (sweep op (!left) (!right) ps qs)
termination_by _ _ ps qs => ps.length + qs.length

/-- At a code point before the turn the old side counts, from the turn on what follows it. -/
theorem insideAfter_turn {before after : Bool} {p n : Nat} {rest : List Nat} (h : ∀ q ∈ rest, p < q) :
    insideAfter n before (turn before after p rest) = if p ≤ n then insideAfter n after rest else before := by
  unfold turn
  by_cases hs : before = after
  · rw [if_pos hs, hs]
    split
    · rfl
    · exact insideAfter_of_forall_lt fun q hq => by have := h q hq; omega
  · rw [if_neg hs, show after = !before by cases before <;> cases after <;> simp_all]
    rfl

/-- A sweep turns at changes of the two sets only. -/
theorem mem_of_mem_sweep {op : Bool → Bool → Bool} {left right : Bool} {ps qs : List Nat} {n : Nat}
    (h : n ∈ sweep op left right ps qs) : n ∈ ps ∨ n ∈ qs := by
  fun_induction sweep op left right ps qs <;> grind [turn]

/-- A sweep over ascending changes is ascending. -/
theorem pairwise_sweep {op : Bool → Bool → Bool} {left right : Bool} {ps qs : List Nat}
    (hp : ps.Pairwise (· < ·)) (hq : qs.Pairwise (· < ·)) : (sweep op left right ps qs).Pairwise (· < ·) := by
  fun_induction sweep op left right ps qs <;> grind [turn, → mem_of_mem_sweep, List.pairwise_cons]

/-- At each code point a sweep is on the side that the operation gives. -/
theorem insideAfter_sweep {op : Bool → Bool → Bool} {left right : Bool} {ps qs : List Nat} (n : Nat)
    (hp : ps.Pairwise (· < ·)) (hq : qs.Pairwise (· < ·)) :
    insideAfter n (op left right) (sweep op left right ps qs) =
      op (insideAfter n left ps) (insideAfter n right qs) := by
  fun_induction sweep op left right ps qs <;>
    grind [insideAfter, insideAfter_turn, insideAfter_of_forall_lt, → mem_of_mem_sweep, List.pairwise_cons]

/-- The characters that an operation selects by their membership in two sets. Those in neither are not selected. -/
def combine (op : Bool → Bool → Bool) (s t : CharSet) : CharSet :=
  ⟨sweep op false false s.changes t.changes, pairwise_sweep s.ascending t.ascending⟩

/-- Membership in a combined set is the operation on the memberships. -/
theorem contains_combine {op : Bool → Bool → Bool} (h : op false false = false) (s t : CharSet) (c : Char) :
    (combine op s t).contains c = op (s.contains c) (t.contains c) := by
  have := @insideAfter_sweep op false false _ _ c.toNat s.ascending t.ascending
  rwa [h] at this

/-- The characters of either set. -/
def union (s t : CharSet) : CharSet := combine (· || ·) s t

/-- The characters of both sets. -/
def inter (s t : CharSet) : CharSet := combine (· && ·) s t

/-- The characters of the first set that are not in the second one. -/
def diff (s t : CharSet) : CharSet := combine (fun a b => a && !b) s t

/-- The characters of exactly one of the sets. -/
def symmDiff (s t : CharSet) : CharSet := combine (fun a b => a ^^ b) s t

/-- The unions of neighbours. -/
def unionPairs : List CharSet → List CharSet
  | [] => []
  | [s] => [s]
  | s :: t :: rest => s.union t :: unionPairs rest

/-- There are no more unions of neighbours than sets. -/
theorem length_unionPairs_le (sets : List CharSet) : (unionPairs sets).length ≤ sets.length := by
  fun_induction unionPairs sets <;> grind

/-- Two sets or more have fewer unions of neighbours. -/
theorem length_unionPairs_lt (s t : CharSet) (rest : List CharSet) :
    (unionPairs (s :: t :: rest)).length < (s :: t :: rest).length := by
  have := length_unionPairs_le rest
  grind [unionPairs]

/-- The characters of any of some sets. Neighbours are united first, which keeps the sets small. -/
def unionAll : List CharSet → CharSet
  | [] => empty
  | [s] => s
  | s :: t :: rest => unionAll (unionPairs (s :: t :: rest))
termination_by sets => sets.length
decreasing_by exact length_unionPairs_lt s t rest

/-- The union has the characters of each set. -/
theorem contains_union (s t : CharSet) (c : Char) : (s.union t).contains c = (s.contains c || t.contains c) :=
  contains_combine rfl s t c

/-- Uniting neighbours keeps what is in any of the sets. -/
theorem any_contains_unionPairs (sets : List CharSet) (c : Char) :
    (unionPairs sets).any (·.contains c) = sets.any (·.contains c) := by
  fun_induction unionPairs sets with
  | case1 => rfl
  | case2 => rfl
  | case3 s t rest ih => simp [ih, contains_union, Bool.or_assoc]

/-- The union of some sets has what is in any of them. -/
theorem contains_unionAll (sets : List CharSet) (c : Char) :
    (unionAll sets).contains c = sets.any (·.contains c) := by
  fun_induction unionAll sets with
  | case1 => rfl
  | case2 s => simp
  | case3 s t rest ih => rw [ih, any_contains_unionPairs]

/-- The union of some ranges. -/
def ofRanges (ranges : List (Nat × Nat)) : CharSet := unionAll (ranges.map fun r => range r.1 r.2)

/-! ## Looking at a set -/

/-- The ranges between changes, both ends included. A set that is not left again reaches to the last code point. -/
def rangesOf : List Nat → List (Nat × Nat)
  | [] => []
  | [low] => [(low, 0x10ffff)]
  | low :: stop :: rest => (low, stop - 1) :: rangesOf rest

/-- A range without the surrogates at its ends, if something is left of it. -/
def withoutSurrogates (r : Nat × Nat) : Option (Nat × Nat) :=
  let low := if 0xd800 ≤ r.1 ∧ r.1 < 0xe000 then 0xe000 else r.1
  let high := if 0xd800 ≤ r.2 ∧ r.2 < 0xe000 then 0xd7ff else r.2
  if low ≤ high then some (low, high) else none

/-- The ranges of the set, in ascending order and apart from each other. They begin and end with characters. -/
def ranges (s : CharSet) : List (Nat × Nat) := (rangesOf s.changes).filterMap withoutSurrogates

/-- The code point of a set that has one character only. -/
def single? (s : CharSet) : Option Nat :=
  match s.ranges with
  | [(low, high)] => if low = high then some low else none
  | _ => none

/-- Whether every character of the set is an ASCII character. -/
def isAscii (s : CharSet) : Bool := s.ranges.all fun r => r.2 < 128

/-! ## Letters of both cases -/

/-- The part of a range between `low` and `high`, moved to where `low` becomes `target`. -/
def moved (low high target : Nat) (r : Nat × Nat) : CharSet :=
  range (max low r.1 - low + target) (min high r.2 + target - low)

/-- The set with the other case of each ASCII letter in it. -/
def foldAscii (s : CharSet) : CharSet :=
  s.ranges.foldl (fun t r => (t.union (moved 0x41 0x5a 0x61 r)).union (moved 0x61 0x7a 0x41 r)) s

end CharSet

end QueryDsl.Regex
