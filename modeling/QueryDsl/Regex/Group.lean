import QueryDsl.Regex.Cursor
import QueryDsl.Regex.Node
import QueryDsl.Text.Alphabetic

/-!
# Reading the openings of groups

A parenthesis opens a group that marks what it matches, with or without a name, or a group that sets flags, or it holds
nothing but flags (`readGroupOpening`). No two groups have one name.
-/

namespace QueryDsl.Regex

/-- The names of groups, with the spans where they are given. -/
abbrev GroupNames := List (List Char × Span)

/-- Whether a character may stand in the name of a group. -/
def isNameChar (isFirst : Bool) (c : Char) : Bool :=
  if isFirst then c == '_' || Text.isAlphabetic c
  else c == '_' || c == '.' || c == '[' || c == ']' || Text.isAlphanumeric c

/-- The characters of a name up to the closing bracket, or up to the end of the pattern. -/
def readNameChars (isFirst : Bool) (c : Cursor) : Except Fault (List Char × Cursor) :=
  match _h : c.rest with
  | [] => .ok ([], c)
  | x :: _ =>
    if x = '>' then .ok ([], c)
    else if isNameChar isFirst x then do
      let (name, c) ← readNameChars false c.advance
      return (x :: name, c)
    else refuse .badGroupName c.charSpan
termination_by c.rest.length
decreasing_by exact Cursor.length_advance_lt ‹_›

/-- The name of a group, behind its opening bracket. -/
def readGroupName (names : GroupNames) (c : Cursor) : Except Fault (GroupNames × Cursor) := do
  let (name, close) ← readNameChars true c
  let span : Span := ⟨c.place, close.place⟩
  if close.rest = [] then refuse .endInGroupName close.point
  else if name = [] then refuse .emptyGroupName c.point
  else
    match names.lookup name with
    | some earlier => .error ⟨.repeatedGroupName, span, some earlier⟩
    | none => return ((name, span) :: names, close.advance)

/-- The item that a character makes in a list of flags. -/
def FlagItem.ofChar? (x : Char) : Option FlagItem :=
  if x = '-' then some .negation else (Flag.ofLetter? x).map .flag

/-- What is wrong with an item that is given twice. -/
def FlagItem.repeated : FlagItem → Complaint
  | negation => .repeatedNegation
  | flag _ => .repeatedFlag

/-- Flags up to a colon or a closing parenthesis, behind those in `done`, the last of which comes first. -/
def readFlags (done : List (FlagItem × Span)) (c : Cursor) : Except Fault (List FlagItem × Cursor) :=
  match _h : c.rest with
  | [] => refuse .endInFlags c.point
  | x :: _ =>
    if x = ':' ∨ x = ')' then
      match done with
      | (.negation, span) :: _ => refuse .danglingNegation span
      | _ => .ok ((done.map Prod.fst).reverse, c)
    else
      match FlagItem.ofChar? x with
      | none => refuse .unknownFlag c.charSpan
      | some item =>
        match done.lookup item with
        | some earlier => .error ⟨item.repeated, c.charSpan, some earlier⟩
        | none => readFlags ((item, c.charSpan) :: done) c.advance
termination_by c.rest.length
decreasing_by exact Cursor.length_advance_lt ‹_›

/-- What a parenthesis opens. -/
inductive Opening where
  /-- Flags for what follows. -/
  | flags (span : Span) (items : List FlagItem)
  /-- A group, with the span of its parenthesis. -/
  | group (span : Span) (kind : GroupKind)

/-- What follows a parenthesis and a question mark: flags, which are the whole if the parenthesis is closed, and else
begin a group. `mark` is the question mark. -/
def readFlagOpening (parenthesis mark : Span) (c : Cursor) : Except Fault (Opening × Cursor) := do
  if c.rest = [] then refuse .openGroup parenthesis
  else
    let (items, close) ← readFlags [] c
    let behind := close.advance
    if close.rest.head? = some ')' then
      if items = [] then refuse .nothingToRepeat mark
      else return (.flags ⟨parenthesis.start, behind.place⟩ items, behind)
    else return (.group parenthesis (.flags items), behind)

/-- What a parenthesis opens. The cursor is at the parenthesis. -/
def readGroupOpening (names : GroupNames) (c : Cursor) : Except Fault (Opening × GroupNames × Cursor) :=
  let parenthesis := c.charSpan
  let inner := c.step
  let past (text : String) := inner.advanceOver? text.toList
  match (past "?=").or ((past "?!").or ((past "?<=").or (past "?<!"))) with
  | some behind => refuse .lookAround ⟨parenthesis.start, behind.place⟩
  | none =>
    match (past "?P<").or (past "?<"), past "?" with
    | some first, _ => do
      let (names, behind) ← readGroupName names first
      return (.group parenthesis .capture, names, behind)
    | none, some first => do
      let (opening, behind) ← readFlagOpening parenthesis inner.point first
      return (opening, names, behind)
    | none, none => .ok (.group parenthesis .capture, names, inner)

end QueryDsl.Regex
