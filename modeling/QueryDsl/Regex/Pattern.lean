import QueryDsl.Regex.Bracket
import QueryDsl.Regex.Group
import QueryDsl.Regex.Repetition

/-!
# Reading patterns

A pattern is read once from its start to its end (`Node.ofPattern`). The groups that are open are kept in a list; each
holds what stands before it in the group around it. What has been read in one group is a `Level`: its finished branches,
and the parts of the branch that is being read.
-/

namespace QueryDsl.Regex

/-! ## Levels -/

/-- What has been read in a group, the last of it first. -/
structure Level where
  start : Place
  branches : List Node
  branchStart : Place
  parts : List Node

namespace Level

/-- A group that begins at a place. -/
def startingAt (place : Place) : Level := ⟨place, [], place, []⟩

/-- Adds a part. -/
def push (l : Level) (part : Node) : Level := { l with parts := part :: l.parts }

/-- The branch that is being read, if it stops at a place. -/
def branch (l : Level) (stop : Place) : Node :=
  match l.parts with
  | [] => .empty ⟨l.branchStart, stop⟩
  | [part] => part
  | parts => .concat ⟨l.branchStart, stop⟩ parts.reverse

/-- Begins another branch, behind a bar between two places. -/
def nextBranch (l : Level) (bar behind : Place) : Level :=
  { l with branches := l.branch bar :: l.branches, branchStart := behind, parts := [] }

/-- What is in the group, if it stops at a place. -/
def node (l : Level) (stop : Place) : Node :=
  match l.branches with
  | [] => l.branch stop
  | branches => .alternation ⟨l.start, stop⟩ (l.branch stop :: branches).reverse

/-- The part that an operator at a place repeats, and the parts before it. Flags cannot be repeated. -/
def unpush (l : Level) (place : Place) : Except Fault (Node × Level) :=
  match l.parts with
  | [] => refuse .nothingToRepeat (Span.point place)
  | .empty _ :: _ => refuse .nothingToRepeat (Span.point place)
  | .flags .. :: _ => refuse .nothingToRepeat (Span.point place)
  | part :: parts => .ok (part, { l with parts := parts })

/-- Adds a repeated part, whose operator stops at a place. -/
def pushRepeated (l : Level) (part : Node) (rounds : Rounds) (stop : Place) : Level :=
  l.push (.repetition ⟨part.span.start, stop⟩ rounds part)

end Level

/-- A group that is open, with the span of its parenthesis, and what stands before it. -/
structure OpenGroup where
  span : Span
  kind : GroupKind
  outer : Level
  /-- Whether the loose mode is on around the group. -/
  loose : Bool

/-- The flags that a kind of group sets. -/
def GroupKind.items : GroupKind → List FlagItem
  | capture => []
  | flags items => items

/-- The cursor with the loose mode as flags say. -/
def Cursor.withFlags (c : Cursor) (items : List FlagItem) : Cursor :=
  { c with loose := (FlagItem.switch? .loose true items).getD c.loose }

/-! ## Reading -/

namespace Node

/-- A part that is neither a group nor a class in brackets. The cursor is at the character `x`. -/
def readAtom (x : Char) (c : Cursor) : Except Fault (Node × Cursor) :=
  if x = '\\' then readEscape c
  else if x = '.' then .ok (.dot c.charSpan, c.advance)
  else if x = '^' then .ok (.assertion c.charSpan .lineStart, c.advance)
  else if x = '$' then .ok (.assertion c.charSpan .lineEnd, c.advance)
  else .ok (.literal ⟨c.charSpan, x, false⟩, c.advance)

/-- What is left of a pattern, behind what was read in the innermost group. `groups` are the open groups, the inner ones
first. The number bounds how many parts are left. -/
def readParts : Nat → GroupNames → List OpenGroup → Level → Cursor → Except Fault Node
  | 0, _, _, _, c => refuse .openGroup c.point
  | n + 1, names, groups, level, c =>
    let c := c.skip
    match c.rest with
    | [] =>
      match groups with
      | [] => .ok (level.node c.place)
      | innermost :: _ => refuse .openGroup innermost.span
    | x :: _ =>
      if x = '(' then do
        let (opening, names, behind) ← readGroupOpening names c
        match opening with
        | .flags span items => readParts n names groups (level.push (.flags span items)) (behind.withFlags items)
        | .group span kind =>
          let opened : OpenGroup := ⟨span, kind, level, c.loose⟩
          readParts n names (opened :: groups) (Level.startingAt behind.place) (behind.withFlags kind.items)
      else if x = ')' then
        match groups with
        | [] => refuse .unopenedGroup c.charSpan
        | innermost :: groups =>
          let behind := { c.advance with loose := innermost.loose }
          let closed := group ⟨innermost.span.start, behind.place⟩ innermost.kind (level.node c.place)
          readParts n names groups (innermost.outer.push closed) behind
      else if x = '|' then readParts n names groups (level.nextBranch c.place c.advance.place) c.advance
      else if x = '[' then do
        let (part, behind) ← readBracketed c
        readParts n names groups (level.push part) behind
      else if x = '\x7b' then do
        let (part, level) ← level.unpush c.place
        let (rounds, behind) ← readCounted c
        readParts n names groups (level.pushRepeated part rounds behind.place) behind
      else
        match Rounds.ofSign? x with
        | some rounds => do
          let (part, level) ← level.unpush c.place
          let (rounds, behind) := rounds.readGreed c.advance
          readParts n names groups (level.pushRepeated part rounds behind.place) behind
        | none => do
          let (part, behind) ← readAtom x c
          readParts n names groups (level.push part) behind

/-- Reads a whole pattern. It may not be nested too deeply. -/
def ofPattern (pattern : List Char) : Except Fault Node := do
  let node ← readParts (pattern.length + 1) [] [] (Level.startingAt Place.first) (Cursor.ofPattern pattern)
  match node.tooDeep? greatestDepth with
  | some span => refuse .tooDeep span
  | none => return node

end Node

end QueryDsl.Regex
