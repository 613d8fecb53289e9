import QueryDsl.Regex.CharSet
import QueryDsl.Regex.Fault

/-!
# Patterns as they are written

A pattern is a tree of nodes, each with the span that it takes in the text. What a node means depends on the flags that
are set where it stands, so a node holds what is written and not yet what it matches.
-/

namespace QueryDsl.Regex

/-! ## Parts -/

/-- A character that stands for itself. `isByte` says that it is written as two hexadecimal digits, which name a byte
where the Unicode mode is off. -/
structure Literal where
  span : Span
  char : Char
  isByte : Bool := false

/-- A condition on a place in the text. -/
inductive Assertion where
  | lineStart
  | lineEnd
  | textStart
  | textEnd
  | wordBoundary
  | notWordBoundary
  | wordStart
  | wordEnd
  | wordStartHalf
  | wordEndHalf
  deriving DecidableEq, Repr

/-- A class of characters with an escape of its own. -/
inductive LetterClass where
  | digit
  | space
  | word
  deriving DecidableEq, Repr

/-- What a class by Unicode property says: the name of the property alone, or its name and a value. -/
inductive PropertyQuery where
  | named (name : List Char)
  | valued

/-- What a flag switches. -/
inductive Flag where
  /-- Letters match in either case. -/
  | caseless
  /-- Line starts and line ends are matched inside the text. -/
  | multiLine
  /-- The point matches line feeds too. -/
  | dotAll
  /-- Repetitions try few rounds first unless a question mark follows, the reverse of what they do else. -/
  | swapGreed
  /-- Characters are those of Unicode and not single bytes. -/
  | unicode
  /-- A carriage return ends a line as well as a line feed. -/
  | crlf
  /-- White space in the pattern does not count, and a number sign begins a comment. -/
  | loose
  deriving DecidableEq, Repr

namespace Flag

/-- The flag with a given letter. -/
def ofLetter? : Char → Option Flag
  | 'i' => some caseless
  | 'm' => some multiLine
  | 's' => some dotAll
  | 'U' => some swapGreed
  | 'u' => some unicode
  | 'R' => some crlf
  | 'x' => some loose
  | _ => none

end Flag

/-- An item of a list of flags. After a negation flags are switched off. -/
inductive FlagItem where
  | negation
  | flag (f : Flag)
  deriving DecidableEq, Repr

namespace FlagItem

/-- What a list of flags does to one of them: on, off, or nothing. -/
def switch? (f : Flag) : Bool → List FlagItem → Option Bool
  | _, [] => none
  | _, negation :: rest => switch? f false rest
  | on, flag g :: rest => if g = f then some on else switch? f on rest

end FlagItem

/-- Operations on two classes. -/
inductive ClassOperation where
  | intersection
  | difference
  | symmetricDifference
  deriving DecidableEq, Repr

/-- The classes of ASCII characters that go by a name. -/
inductive NamedClass where
  | alnum
  | alpha
  | ascii
  | blank
  | cntrl
  | digit
  | graph
  | lower
  | print
  | punct
  | space
  | upper
  | word
  | xdigit
  deriving DecidableEq, Repr

namespace NamedClass

/-- Every named class. -/
def all : List NamedClass :=
  [alnum, alpha, ascii, blank, cntrl, digit, graph, lower, print, punct, space, upper, word, xdigit]

/-- The name of a class. -/
def name : NamedClass → String
  | alnum => "alnum"
  | alpha => "alpha"
  | ascii => "ascii"
  | blank => "blank"
  | cntrl => "cntrl"
  | digit => "digit"
  | graph => "graph"
  | lower => "lower"
  | print => "print"
  | punct => "punct"
  | space => "space"
  | upper => "upper"
  | word => "word"
  | xdigit => "xdigit"

/-- The class with a given name. -/
def ofName? (name : List Char) : Option NamedClass := all.find? fun kind => kind.name.toList == name

/-- The characters of a class. -/
def chars : NamedClass → CharSet
  | alnum => .ofRanges [(0x30, 0x39), (0x41, 0x5a), (0x61, 0x7a)]
  | alpha => .ofRanges [(0x41, 0x5a), (0x61, 0x7a)]
  | ascii => .ofRanges [(0x00, 0x7f)]
  | blank => .ofRanges [(0x09, 0x09), (0x20, 0x20)]
  | cntrl => .ofRanges [(0x00, 0x1f), (0x7f, 0x7f)]
  | digit => .ofRanges [(0x30, 0x39)]
  | graph => .ofRanges [(0x21, 0x7e)]
  | lower => .ofRanges [(0x61, 0x7a)]
  | print => .ofRanges [(0x20, 0x7e)]
  | punct => .ofRanges [(0x21, 0x2f), (0x3a, 0x40), (0x5b, 0x60), (0x7b, 0x7e)]
  | space => .ofRanges [(0x09, 0x0d), (0x20, 0x20)]
  | upper => .ofRanges [(0x41, 0x5a)]
  | word => .ofRanges [(0x30, 0x39), (0x41, 0x5a), (0x5f, 0x5f), (0x61, 0x7a)]
  | xdigit => .ofRanges [(0x30, 0x39), (0x41, 0x46), (0x61, 0x66)]

end NamedClass

/-! ## Classes -/

/-- A class of characters as it is written, or a part of one. -/
inductive ClassNode where
  | empty (span : Span)
  | literal (l : Literal)
  | range (low high : Literal)
  | named (span : Span) (kind : NamedClass) (negated : Bool)
  | letters (span : Span) (kind : LetterClass) (negated : Bool)
  | property (span : Span) (query : PropertyQuery)
  | bracketed (span : Span) (negated : Bool) (body : ClassNode)
  | union (span : Span) (items : List ClassNode)
  | operation (op : ClassOperation) (left right : ClassNode)

namespace ClassNode

/-- The place where a class begins. -/
def start : ClassNode → Place
  | empty span => span.start
  | literal l => l.span.start
  | range low _ => low.span.start
  | named span .. => span.start
  | letters span .. => span.start
  | property span _ => span.start
  | bracketed span .. => span.start
  | union span _ => span.start
  | operation _ left _ => left.start

/-- The place behind a class. -/
def stop : ClassNode → Place
  | empty span => span.stop
  | literal l => l.span.stop
  | range _ high => high.span.stop
  | named span .. => span.stop
  | letters span .. => span.stop
  | property span _ => span.stop
  | bracketed span .. => span.stop
  | union span _ => span.stop
  | operation _ _ right => right.stop

/-- The span of a class. -/
def span (node : ClassNode) : Span := ⟨node.start, node.stop⟩

mutual

/-- Whether the class holds a character or a range outside of inner brackets. -/
def namesChars : ClassNode → Bool
  | literal _ => true
  | range .. => true
  | union _ items => someNamesChars items
  | _ => false

/-- Whether one of some classes holds a character or a range outside of inner brackets. -/
def someNamesChars : List ClassNode → Bool
  | [] => false
  | item :: rest => namesChars item || someNamesChars rest

end

end ClassNode

/-! ## Patterns -/

/-- How often a part is repeated. -/
structure Rounds where
  least : Nat
  most : Option Nat
  /-- Many rounds are tried before few, which does not change what is matched. -/
  greedy : Bool
  deriving DecidableEq, Repr

/-- What a group does beside holding its parts together. -/
inductive GroupKind where
  /-- It marks what it matched. -/
  | capture
  /-- It sets flags for its parts. -/
  | flags (items : List FlagItem)

/-- A pattern as it is written, or a part of one. -/
inductive Node where
  | empty (span : Span)
  /-- Flags for what follows in the same group. -/
  | flags (span : Span) (items : List FlagItem)
  | literal (l : Literal)
  | dot (span : Span)
  | assertion (span : Span) (kind : Assertion)
  | letters (span : Span) (kind : LetterClass) (negated : Bool)
  | property (span : Span) (query : PropertyQuery)
  | bracketed (span : Span) (negated : Bool) (body : ClassNode)
  | repetition (span : Span) (rounds : Rounds) (body : Node)
  | group (span : Span) (kind : GroupKind) (body : Node)
  | concat (span : Span) (parts : List Node)
  | alternation (span : Span) (branches : List Node)

namespace Node

/-- The span of a node. -/
def span : Node → Span
  | empty span => span
  | flags span _ => span
  | literal l => l.span
  | dot span => span
  | assertion span _ => span
  | letters span .. => span
  | property span _ => span
  | bracketed span .. => span
  | repetition span .. => span
  | group span .. => span
  | concat span _ => span
  | alternation span _ => span

end Node

/-! ## Depth -/

namespace ClassNode

mutual

/-- The first part of a class that lies deeper than so many levels. -/
def tooDeep? : Nat → ClassNode → Option Span
  | room, bracketed span _ body =>
    match room with
    | 0 => some span
    | room + 1 => tooDeep? room body
  | room, union span items =>
    match room with
    | 0 => some span
    | room + 1 => firstTooDeep? room items
  | room, operation _ left right =>
    match room with
    | 0 => some ⟨left.start, right.stop⟩
    | room + 1 => (tooDeep? room left).or (tooDeep? room right)
  | _, _ => none

/-- The first part of some classes that lies deeper than so many levels. -/
def firstTooDeep? : Nat → List ClassNode → Option Span
  | _, [] => none
  | room, item :: rest => (tooDeep? room item).or (firstTooDeep? room rest)

end

end ClassNode

namespace Node

mutual

/-- The first part of a pattern that lies deeper than so many levels. Every part that has parts is a level. -/
def tooDeep? : Nat → Node → Option Span
  | room, bracketed span _ body =>
    match room with
    | 0 => some span
    | room + 1 => body.tooDeep? room
  | room, repetition span _ body =>
    match room with
    | 0 => some span
    | room + 1 => tooDeep? room body
  | room, group span _ body =>
    match room with
    | 0 => some span
    | room + 1 => tooDeep? room body
  | room, concat span parts =>
    match room with
    | 0 => some span
    | room + 1 => firstTooDeep? room parts
  | room, alternation span branches =>
    match room with
    | 0 => some span
    | room + 1 => firstTooDeep? room branches
  | _, _ => none

/-- The first part of some patterns that lies deeper than so many levels. -/
def firstTooDeep? : Nat → List Node → Option Span
  | _, [] => none
  | room, part :: rest => (tooDeep? room part).or (firstTooDeep? room rest)

end

end Node

end QueryDsl.Regex
