import QueryDsl.Regex.Utf8
import Std.Data.HashMap

/-!
# Drafts of automata

A draft says which states an automaton gets and in which order (`Draft`). States are numbered as they are made, and
`Draft.build` counts them together with the memory that they take beside their own, and gives up when that is more than
there may be.

States that do the same are made once: a state for bytes is looked up by what it consists of. The tables for this have a
limited number of places, and a state whose place is taken displaces the one that has it, which is then made again
when it is needed (`StateTable`). So how many states the same characters get depends on the numbers of the states before
them.
-/

namespace QueryDsl.Regex

/-! ## Tables of states -/

/-- The FNV-1a hash of some numbers. -/
def fnv (numbers : List Nat) : UInt64 :=
  numbers.foldl (fun h n => (h ^^^ n.toUInt64) * 1099511628211) 14695981039346656037

/-- States by what they consist of, each at the place that its hash gives. -/
structure StateTable where
  places : Nat
  entries : Std.HashMap Nat (List Nat × Nat)

namespace StateTable

/-- A table without states. -/
def withPlaces (places : Nat) : StateTable := ⟨places, ∅⟩

/-- The place of a state. -/
def place (t : StateTable) (key : List Nat) : Nat := (fnv key).toNat % t.places

/-- The number of a state that is in the table. -/
def find? (t : StateTable) (key : List Nat) : Option Nat :=
  match t.entries[t.place key]? with
  | some (key', number) => if key' = key then some number else none
  | none => none

/-- Puts a state at its place. -/
def insert (t : StateTable) (key : List Nat) (number : Nat) : StateTable :=
  { t with entries := t.entries.insert (t.place key) (key, number) }

end StateTable

/-! ## Counting -/

/-- The states that an automaton has so far, and the memory that they take beside their own. -/
structure Tally where
  states : Nat
  extra : Nat
  deriving DecidableEq, Repr

namespace Tally

/-- The memory of an automaton. A state takes 32 bytes. -/
def memory (t : Tally) : Nat := 32 * t.states + t.extra

/-- More states, and more memory beside them. -/
def add (t : Tally) (states extra : Nat) : Tally := ⟨t.states + states, t.extra + extra⟩

end Tally

/-- The memory of some transitions by ranges of bytes. -/
def transitionMemory (n : Nat) : Nat := 8 * n

/-- The memory of some branches to other states. -/
def branchMemory (n : Nat) : Nat := 4 * n

/-- States for bytes while they are made. -/
structure Sharing where
  tally : Tally
  table : StateTable

namespace Sharing

/-- The number of the state that consists of something, which is made if it is not in the table. -/
def state (s : Sharing) (key : List Nat) (extra : Nat) : Nat × Sharing :=
  match s.table.find? key with
  | some number => (number, s)
  | none => (s.tally.states, ⟨s.tally.add 1 extra, s.table.insert key s.tally.states⟩)

/-- What a state consists of that reads a byte and goes on to other states. -/
def key : List (ByteRange × Nat) → List Nat
  | [] => []
  | ((low, high), next) :: rest => low :: high :: next :: key rest

/-- The transitions of the state for a tree, behind those for what is below them. `target` is the state behind the last
bytes. -/
def transitions (target : Nat) : ByteTree → Sharing → List (ByteRange × Nat) × Sharing
  | .stop, s => ([], s)
  | .branch range below others, s =>
    let (next, s) :=
      if below.isStop then (target, s)
      else
        let (inner, s) := transitions target below s
        s.state (key inner) (transitionMemory inner.length)
    let (rest, s) := transitions target others s
    ((range, next) :: rest, s)

/-- States that read a sequence from its end, each followed by the one that reads the byte before. `next` is the state
behind the first byte. -/
def readBack (next : Nat) : List ByteRange → Sharing → Sharing
  | [], s => s
  | (low, high) :: rest, s =>
    let (state, s) := s.state [next, low, high] 0
    readBack state rest s

end Sharing

/-! ## Drafts -/

/-- What an automaton is made of, in the order in which it is made. -/
inductive Draft where
  /-- States, and the memory that they take beside their own. -/
  | states (count extra : Nat)
  /-- States that read one of some characters forward. -/
  | forward (tree : ByteTree)
  /-- States that read one of some characters backward. -/
  | backward (sequences : List (List ByteRange))
  /-- One draft, and then another one. -/
  | next (first second : Draft)
  /-- The same draft so many times. -/
  | copies (count : Nat) (body : Draft)

namespace Draft

/-- Takes a step so many times, as long as it does not give up. -/
def times (step : Tally → Option Tally) : Nat → Tally → Option Tally
  | 0, t => some t
  | n + 1, t =>
    match step t with
    | some t => times step n t
    | none => none

/-- What there is of an automaton, unless it takes more memory than it may. -/
def limited (limit : Nat) (t : Tally) : Option Tally := if limit < t.memory then none else some t

/-- The states for a tree: the one behind the bytes, the shared ones, and the one that begins. -/
def forwardTally (tree : ByteTree) (t : Tally) : Tally :=
  let (transitions, s) := Sharing.transitions t.states tree ⟨t.add 1 0, .withPlaces 10000⟩
  (s.state (Sharing.key transitions) (transitionMemory transitions.length)).2.tally

/-- The states for some sequences: the one that branches to them, the one behind them, and the shared ones. -/
def backwardTally (sequences : List (List ByteRange)) (t : Tally) : Tally :=
  let behind := t.states + 1
  (sequences.foldl (fun s sequence => Sharing.readBack behind sequence s)
    ⟨t.add 2 (branchMemory sequences.length), .withPlaces 1000⟩).tally

/-- Adds the states of a draft to what there is of an automaton, unless it takes more memory than it may. -/
def build (limit : Nat) : Draft → Tally → Option Tally
  | states count extra, t => limited limit (t.add count extra)
  | forward tree, t => limited limit (forwardTally tree t)
  | backward sequences, t => limited limit (backwardTally sequences t)
  | next first second, t =>
    match build limit first t with
    | some t => build limit second t
    | none => none
  | copies count body, t => times (build limit body) count t

/-- Drafts one after the other. -/
def all : List Draft → Draft
  | [] => states 0 0
  | [d] => d
  | d :: rest => next d (all rest)

end Draft

end QueryDsl.Regex
