import QueryDsl.Regex.CharSet

/-!
# Characters as bytes

The encodings of the characters of a set in UTF-8, as sequences of ranges of bytes (`byteSequences`): a character is in
the set if each byte of its encoding lies in the range of a sequence at the same position. The sequences are in
ascending order, and no two of them match the same bytes. Sequences that begin alike make a tree (`ByteTree`).
-/

namespace QueryDsl.Regex

/-- Bytes from one to another one, both included. -/
abbrev ByteRange := Nat × Nat

/-- The bytes of a code point. -/
def encode (n : Nat) : List Nat :=
  if n < 0x80 then [n]
  else if n < 0x800 then [0xc0 + n / 0x40, 0x80 + n % 0x40]
  else if n < 0x10000 then [0xe0 + n / 0x1000, 0x80 + n / 0x40 % 0x40, 0x80 + n % 0x40]
  else [0xf0 + n / 0x40000, 0x80 + n / 0x1000 % 0x40, 0x80 + n / 0x40 % 0x40, 0x80 + n % 0x40]

/-- The bytes of a text. -/
def encodeText (text : List Char) : List Nat := text.flatMap fun c => encode c.toNat

/-! ## Sequences -/

/-- The part of a range of code points that lies in another range. -/
def within (range bounds : Nat × Nat) : Option (Nat × Nat) :=
  let low := max range.1 bounds.1
  let high := min range.2 bounds.2
  if low ≤ high then some (low, high) else none

/-- The code points whose encodings have several bytes, by their lengths and without surrogates. -/
def longerBounds : List (Nat × Nat) := [(0x80, 0x7ff), (0x800, 0xd7ff), (0xe000, 0xffff), (0x10000, 0x10ffff)]

/-- Cuts a range where the code points that share all but the last bytes are not all in it. `blocks` are the numbers of
code points that share some bytes, the small ones first, and the number bounds the cuts. -/
def cut : Nat → Nat × Nat → List (Nat × Nat)
  | 0, range => [range]
  | n + 1, (low, high) =>
    let broken := [0x40, 0x1000, 0x40000].find? fun block =>
      low / block ≠ high / block ∧ (low % block ≠ 0 ∨ high % block ≠ block - 1)
    match broken with
    | none => [(low, high)]
    | some block =>
      let stop := if low % block ≠ 0 then (low / block + 1) * block else high / block * block
      cut n (low, stop - 1) ++ cut n (stop, high)

/-- The parts of a range of code points that are one sequence each. A range has at most sixteen of one length. -/
def sequenceRanges (range : Nat × Nat) : List (Nat × Nat) :=
  (within range (0, 0x7f)).toList ++ (longerBounds.filterMap (within range)).flatMap (cut 16)

/-- Sequences of ranges of bytes that match the encodings of the characters of a set. -/
def byteSequences (set : CharSet) : List (List ByteRange) :=
  (set.ranges.flatMap sequenceRanges).map fun r => (encode r.1).zip (encode r.2)

/-! ## Trees -/

/-- Sequences that begin alike, as a tree: what may follow a range, and the other ranges at its position. -/
inductive ByteTree where
  | stop
  | branch (range : ByteRange) (below others : ByteTree)
  deriving Repr

namespace ByteTree

/-- Whether nothing follows. -/
def isStop : ByteTree → Bool
  | stop => true
  | branch .. => false

/-- The tree of one sequence. -/
def ofSequence : List ByteRange → ByteTree
  | [] => stop
  | range :: rest => branch range (ofSequence rest) stop

/-- Puts a sequence in front of a tree. -/
def cons : List ByteRange → ByteTree → ByteTree
  | [], tree => tree
  | range :: rest, stop => branch range (ofSequence rest) stop
  | range :: rest, branch range' below others =>
    if range = range' then branch range (cons rest below) others
    else branch range (ofSequence rest) (branch range' below others)

/-- The tree of some sequences. -/
def ofSequences (sequences : List (List ByteRange)) : ByteTree := sequences.foldr cons stop

end ByteTree

end QueryDsl.Regex
