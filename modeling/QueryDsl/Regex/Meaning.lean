import QueryDsl.Regex.Simplest

/-!
# What patterns mean

The flags that are set at a place in a pattern are its mode. A node means a regular expression under a mode, or it has
none: a pattern matches text only, so what could match part of a character is refused, and so is what needs a table of
Unicode properties, of which there are none.

Flags hold from where they stand to the end of the group around them, also across the bars of its branches.
-/

namespace QueryDsl.Regex

/-- The flags that are set. -/
structure Mode where
  caseless : Bool := false
  multiLine : Bool := false
  dotAll : Bool := false
  swapGreed : Bool := false
  unicode : Bool := true
  crlf : Bool := false
  deriving DecidableEq, Repr

namespace Mode

/-- The mode after some flags. -/
def withFlags (m : Mode) (items : List FlagItem) : Mode :=
  let set (f : Flag) (old : Bool) := (FlagItem.switch? f true items).getD old
  ⟨set .caseless m.caseless, set .multiLine m.multiLine, set .dotAll m.dotAll, set .swapGreed m.swapGreed,
    set .unicode m.unicode, set .crlf m.crlf⟩

/-- What sets are taken from. -/
def alphabet (m : Mode) : Alphabet := if m.unicode then .characters else .bytes

/-- The rounds that an operator asks for. -/
def rounds (m : Mode) (r : Rounds) : Rounds := if m.swapGreed then { r with greedy := !r.greedy } else r

end Mode

/-! ## Characters -/

/-- Refuses a byte that is no character by itself. -/
def Literal.checkByte (m : Mode) (l : Literal) : Except Fault Unit :=
  if l.isByte && !m.unicode && 127 < l.char.toNat then refuse .beyondText l.span else .ok ()

/-- The characters that a literal matches. -/
def Literal.set (m : Mode) (l : Literal) : Except Fault CharSet := do
  l.checkByte m
  if !m.caseless then return .single l.char
  else if m.unicode then refuse .noUnicodeCase l.span
  else return (CharSet.single l.char).foldAscii

/-- The code point of a literal in a class. Without the Unicode mode a class holds ASCII characters only. -/
def Literal.codePoint (m : Mode) (l : Literal) : Except Fault Nat := do
  l.checkByte m
  if !m.unicode && 127 < l.char.toNat then refuse .unicodeOff l.span else return l.char.toNat

/-- The ASCII characters of a class. -/
def LetterClass.chars : LetterClass → CharSet
  | digit => NamedClass.digit.chars
  | space => NamedClass.space.chars
  | word => NamedClass.word.chars

/-- The characters of a class with an escape of its own. There is such a class of ASCII characters only. -/
def LetterClass.set (m : Mode) (span : Span) (negated : Bool) (kind : LetterClass) : Except Fault CharSet :=
  if m.unicode then refuse .noUnicodeClass span
  else if negated then refuse .beyondText span
  else .ok kind.chars

namespace PropertyQuery

/-- The name of a property without its spelling: an `is` in front, blanks, hyphens, underscores and capitals. -/
def plainName (name : List Char) : List Char :=
  let body := match name with
    | a :: b :: rest => if a.toLower = 'i' ∧ b.toLower = 's' then rest else name
    | _ => name
  (body.filter fun c => c.toNat < 128 && c != ' ' && c != '_' && c != '-').map Char.toLower

/-- What is wrong with a class by property. Three names are taken to be values of the property of general categories,
which has no values; every other property is unknown. -/
def complaint (m : Mode) : PropertyQuery → Complaint
  | named name =>
    if !m.unicode then .unicodeOff
    else if ["cf", "sc", "lc"].any fun value => value.toList == plainName name then .unknownPropertyValue
    else .unknownProperty
  | valued => if m.unicode then .unknownProperty else .unicodeOff

end PropertyQuery

/-! ## Classes -/

/-- A class, perhaps negated, with letters in either case if the mode says so. `namesChars` says that it holds
characters which might be letters. Without the Unicode mode no class is negated, since it would match bytes. -/
def Mode.finishClass (m : Mode) (span : Span) (negated namesChars : Bool) (set : CharSet) : Except Fault CharSet :=
  if m.unicode then
    if m.caseless && namesChars then refuse .noUnicodeCase span
    else .ok (if negated then set.complement else set)
  else if negated then refuse .beyondText span
  else .ok (if m.caseless then set.foldAscii else set)

/-- Refuses a side of an operation that might hold letters whose other case is wanted. -/
def ClassNode.checkCase (m : Mode) (side : ClassNode) : Except Fault Unit :=
  if m.unicode && m.caseless && side.namesChars then refuse .noUnicodeCase side.span else .ok ()

/-- The set that an operation makes of two sets. -/
def ClassOperation.apply : ClassOperation → CharSet → CharSet → CharSet
  | intersection => CharSet.inter
  | difference => CharSet.diff
  | symmetricDifference => CharSet.symmDiff

namespace ClassNode

mutual

/-- The characters of a class. -/
def set (m : Mode) : ClassNode → Except Fault CharSet
  | empty _ => .ok .empty
  | literal l => do
    let n ← l.codePoint m
    return .range n n
  | range low high => do
    let first ← low.codePoint m
    let last ← high.codePoint m
    return .range first last
  | named span kind negated => m.finishClass span negated true kind.chars
  | letters span kind negated => kind.set m span negated
  | property span query => refuse (query.complaint m) span
  | bracketed span negated body => do
    let inner ← set m body
    m.finishClass span negated body.namesChars inner
  | union _ items => do return .unionAll (← sets m items)
  | operation op left right => do
    let a ← set m left
    let b ← set m right
    right.checkCase m
    left.checkCase m
    if m.caseless then return op.apply a.foldAscii b.foldAscii else return op.apply a b

/-- The characters of each of some classes. -/
def sets (m : Mode) : List ClassNode → Except Fault (List CharSet)
  | [] => .ok []
  | item :: rest => do
    let s ← set m item
    return s :: (← sets m rest)

end

end ClassNode

/-! ## Conditions -/

/-- A condition on words, of all scripts in the Unicode mode. -/
def Mode.wordLook (m : Mode) (kind : WordLook) : Look := if m.unicode then .unicodeWord kind else .word kind

/-- The condition that an assertion means. -/
def Assertion.look (m : Mode) : Assertion → Look
  | lineStart => if !m.multiLine then .textStart else if m.crlf then .crlfStart else .lineStart
  | lineEnd => if !m.multiLine then .textEnd else if m.crlf then .crlfEnd else .lineEnd
  | textStart => .textStart
  | textEnd => .textEnd
  | wordBoundary => m.wordLook .boundary
  | notWordBoundary => m.wordLook .noBoundary
  | wordStart => m.wordLook .wordStart
  | wordEnd => m.wordLook .wordEnd
  | wordStartHalf => m.wordLook .notAfterWord
  | wordEndHalf => m.wordLook .notBeforeWord

/-- The characters that a point matches. -/
def Mode.dotSet (m : Mode) : CharSet :=
  if m.dotAll then CharSet.empty.complement
  else if m.crlf then ((CharSet.single '\n').union (.single '\r')).complement
  else (CharSet.single '\n').complement

/-! ## Patterns -/

namespace Node

mutual

/-- The expression that a pattern means, and the mode behind it. -/
def meaning (m : Mode) : Node → Except Fault (Regex × Mode)
  | empty _ => .ok (.empty, m)
  | flags _ items => .ok (.empty, m.withFlags items)
  | literal l => do return (.ofSet m.alphabet (← l.set m), m)
  | dot span => if m.unicode then .ok (.ofSet m.alphabet m.dotSet, m) else refuse .beyondText span
  | assertion _ kind => .ok (.look (kind.look m), m)
  | letters span kind negated => do return (.ofSet m.alphabet (← kind.set m span negated), m)
  | property span query => refuse (query.complaint m) span
  | bracketed span negated body => do
    let inner ← body.set m
    return (.ofSet m.alphabet (← m.finishClass span negated body.namesChars inner), m)
  | repetition _ r body => do
    let (body, m) ← meaning m body
    return (.rounds (m.rounds r) body, m)
  | group _ kind body =>
    match kind with
    | .capture => do
      let (r, _) ← meaning m body
      return (.group r, m)
    | .flags items => do
      let (r, _) ← meaning (m.withFlags items) body
      return (r, m)
  | concat _ parts => do
    let (rs, m) ← meanings m parts
    return (.sequence rs, m)
  | alternation _ branches => do
    let (rs, m) ← meanings m branches
    return (.choice rs, m)

/-- The expressions that some patterns mean, each under the mode behind the one before it. -/
def meanings (m : Mode) : List Node → Except Fault (List Regex × Mode)
  | [] => .ok ([], m)
  | node :: rest => do
    let (r, m) ← meaning m node
    let (rs, m) ← meanings m rest
    return (r :: rs, m)

end

end Node

end QueryDsl.Regex
