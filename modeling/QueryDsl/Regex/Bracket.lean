import QueryDsl.Regex.Escape

/-!
# Reading classes in brackets

A class is read from its opening bracket to the closing one (`Node.readBracketed`). The brackets that are open are kept
in a list, so that the reader goes through the pattern once: each holds what stands before it in the bracket around it,
and the operation whose right side is being read.
-/

namespace QueryDsl.Regex

/-- The items of a class that have been read, the last one first, and where the first one may begin. -/
structure ClassItems where
  start : Place
  items : List ClassNode

namespace ClassItems

/-- Adds an item. -/
def push (s : ClassItems) (item : ClassNode) : ClassItems := { s with items := item :: s.items }

/-- The class that the items make. -/
def node (s : ClassItems) : ClassNode :=
  match s.items.reverse with
  | [] => .empty (Span.point s.start)
  | [item] => item
  | first :: rest => .union ⟨first.start, (rest.getLastD first).stop⟩ (first :: rest)

end ClassItems

/-- A bracket that is open. `span` reaches to where its first item may begin. -/
structure OpenClass where
  span : Span
  negated : Bool
  pending : Option (ClassOperation × ClassNode)
  outer : ClassItems

namespace OpenClass

/-- The class in the bracket, with the items behind its last operation. -/
def body (b : OpenClass) (items : ClassItems) : ClassNode :=
  match b.pending with
  | none => items.node
  | some (op, left) => .operation op left items.node

end OpenClass

/-- The operation that is written as a sign twice. -/
def ClassOperation.ofSign? : Char → Option ClassOperation
  | '&' => some intersection
  | '-' => some difference
  | '~' => some symmetricDifference
  | _ => none

/-- Hyphens at the front of a class, which stand for themselves. The bracket begins at `start`. -/
def readHyphens (start : Place) (items : ClassItems) (c : Cursor) : Except Fault (ClassItems × Cursor) :=
  match _h : c.rest with
  | [] => refuse .openClass (Span.point start)
  | x :: _ =>
    if x = '-' then readHyphens start (items.push (.literal ⟨c.charSpan, '-', false⟩)) c.step
    else .ok (items, c)
termination_by c.rest.length
decreasing_by exact Cursor.length_step_lt ‹_›

/-- The opening of a class: the bracket, perhaps a negation sign, and hyphens or one closing bracket that stand for
themselves. `outer` are the items before it. -/
def readClassOpening (outer : ClassItems) (c : Cursor) : Except Fault (OpenClass × ClassItems × Cursor) := do
  let start := c.place
  let first := c.step
  if first.rest = [] then refuse .openClass ⟨start, first.place⟩
  else
    let negated := first.rest.head? == some '^'
    let c := if negated then first.step else first
    if c.rest = [] then refuse .openClass ⟨start, c.place⟩
    else
      let (items, c) ← readHyphens start ⟨c.place, []⟩ c
      if items.items.isEmpty && c.rest.head? == some ']' then
        let behind := c.step
        if behind.rest = [] then refuse .openClass ⟨start, behind.place⟩
        else
          let items := items.push (.literal ⟨c.charSpan, ']', false⟩)
          return (⟨⟨start, behind.place⟩, negated, none, outer⟩, items, behind)
      else return (⟨⟨start, c.place⟩, negated, none, outer⟩, items, c)

/-- A class by name, such as `[:alpha:]`. -/
def readNamed? (c : Cursor) : Option (ClassNode × Cursor) := do
  let first ← c.advanceOver? ['[', ':']
  let negated := first.rest.head? == some '^'
  let inner := if negated then first.advance else first
  let name := inner.rest.takeWhile (· != ':')
  let kind ← NamedClass.ofName? name
  let close ← inner.advanceOver? name
  let behind ← close.advanceOver? [':', ']']
  return (.named ⟨c.place, behind.place⟩ kind negated, behind)

/-- A character or an escape in a class. The cursor is at the character `x`. -/
def readClassAtom (x : Char) (c : Cursor) : Except Fault (Node × Cursor) :=
  if x = '\\' then Node.readEscape c else .ok (.literal ⟨c.charSpan, x, false⟩, c.advance)

/-- What an atom is as an item of a class. -/
def Node.asClassItem : Node → Except Fault ClassNode
  | .literal l => .ok (.literal l)
  | .letters span kind negated => .ok (.letters span kind negated)
  | .property span query => .ok (.property span query)
  | node => refuse .badClassEscape node.span

/-- What an atom is as an end of a range. -/
def Node.asRangeEnd : Node → Except Fault Literal
  | .literal l => .ok l
  | node => refuse .badClassRangeEnd node.span

/-- A range, whose first end is read, or that end alone. A hyphen makes a range unless the class closes behind it or
another hyphen follows. `opening` is the span of the bracket. -/
def readRangeFrom (opening : Span) (first : Node) (c : Cursor) : Except Fault (ClassNode × Cursor) :=
  if c.rest.head? = some '-' ∧ c.second? ≠ some ']' ∧ c.second? ≠ some '-' then
    let c := c.step
    match c.rest with
    | [] => refuse .openClass opening
    | x :: _ => do
      let (last, c) ← readClassAtom x c
      let low ← first.asRangeEnd
      let high ← last.asRangeEnd
      if high.char < low.char then refuse .reversedClassRange ⟨low.span.start, high.span.stop⟩
      else return (.range low high, c)
  else do
    let item ← first.asClassItem
    return (item, c)

/-- A range or a single item. -/
def readRange (opening : Span) (x : Char) (c : Cursor) : Except Fault (ClassNode × Cursor) := do
  let (first, c) ← readClassAtom x c
  let c := c.skip
  if c.rest = [] then refuse .openClass opening
  else readRangeFrom opening first c

namespace Node

/-- Items of the innermost bracket, and what follows up to the bracket that closes the outermost one. `outer` are the
other open brackets, the inner ones first. The number bounds how many items are left. -/
def readClassItems : Nat → List OpenClass → OpenClass → ClassItems → Cursor → Except Fault (Node × Cursor)
  | 0, _, inner, _, _ => refuse .openClass inner.span
  | n + 1, outer, inner, items, c =>
    let c := c.skip
    match c.rest with
    | [] => refuse .openClass inner.span
    | x :: rest =>
      if x = '[' then
        match readNamed? c with
        | some (item, c) => readClassItems n outer inner (items.push item) c
        | none => do
          let (opened, items, c) ← readClassOpening items c
          readClassItems n (inner :: outer) opened items c
      else if x = ']' then
        let c := c.advance
        let span : Span := ⟨inner.span.start, c.place⟩
        let body := inner.body items
        match outer with
        | [] => .ok (.bracketed span inner.negated body, c)
        | next :: outer => readClassItems n outer next (inner.outer.push (.bracketed span inner.negated body)) c
      else
        match (ClassOperation.ofSign? x).filter fun _ => rest.head? == some x with
        | some op =>
          let c := c.advance.advance
          readClassItems n outer { inner with pending := some (op, inner.body items) } ⟨c.place, []⟩ c
        | none => do
          let (item, c) ← readRange inner.span x c
          readClassItems n outer inner (items.push item) c

/-- A class in brackets. The cursor is at its first bracket. -/
def readBracketed (c : Cursor) : Except Fault (Node × Cursor) := do
  let (opened, items, inner) ← readClassOpening ⟨c.place, []⟩ c
  readClassItems (c.rest.length + 1) [] opened items inner

end Node

end QueryDsl.Regex
