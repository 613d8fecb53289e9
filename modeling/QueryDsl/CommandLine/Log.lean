import QueryDsl.Regex.Compile
import QueryDsl.Text.Blank

/-!
# The debug log

Every record of the program is a debug message with a target. A filter decides from the target and the text which
records are shown (`LogFilter.shows`); it is read from a specification such as `warn,es_query_cli::input=debug`.
Records are shown in order, with their targets padded to the longest one so far (`Log.render`).
-/

namespace QueryDsl.CommandLine

/-- A debug message. -/
structure LogRecord where
  target : String
  text : String
  deriving DecidableEq, Repr

/-! ## Filters -/

/-- How much a filter lets through, from nothing to everything. -/
inductive LogLevel where
  | off
  | error
  | warn
  | info
  | debug
  | trace
  deriving DecidableEq, Repr

namespace LogLevel

/-- The name of a level. -/
def name : LogLevel → String
  | off => "off"
  | error => "error"
  | warn => "warn"
  | info => "info"
  | debug => "debug"
  | trace => "trace"

/-- The level with a given name, in letters of any case. -/
def ofName? (cs : List Char) : Option LogLevel :=
  [off, error, warn, info, debug, trace].find? fun level => level.name.toList == cs.map Char.toLower

/-- Whether debug messages are let through. -/
def showsDebug : LogLevel → Bool
  | debug => true
  | trace => true
  | _ => false

end LogLevel

/-- The level for targets that begin in a given way, or for every target. Every target begins with the empty text too,
but a directive that names it is another than one that names none. -/
structure Directive where
  target : Option (List Char)
  level : LogLevel
  deriving DecidableEq, Repr

/-- Directives, and a pattern that every message must match if there is one. -/
structure LogFilter where
  directives : List Directive
  pattern : Option Regex

/-- Drops white space from both ends. -/
def trim (cs : List Char) : List Char :=
  ((cs.dropWhile Text.isWhiteSpace).reverse.dropWhile Text.isWhiteSpace).reverse

namespace Directive

/-- The directive that one part of a specification makes, or the text that is wrong with it. A level alone is for every
target, a target alone lets everything through. -/
def ofPart (part : List Char) : Except (List Char) Directive :=
  match part.splitOn '=' with
  | [single] =>
    match LogLevel.ofName? single with
    | some level => .ok ⟨none, level⟩
    | none => .ok ⟨some single, .trace⟩
  | [target, level] =>
    if trim level = [] then .ok ⟨some target, .trace⟩
    else
      match LogLevel.ofName? (trim level) with
      | some level => .ok ⟨some target, level⟩
      | none => .error (trim level)
  | _ => .error part

/-- The text that a target must begin with. -/
def start (d : Directive) : List Char :=
  d.target.getD []

end Directive

namespace LogFilter

/-- Adds a directive: where an earlier one names the same target it takes its place, else it comes last. -/
def add : List Directive → Directive → List Directive
  | [], d => [d]
  | e :: rest, d => if e.target = d.target then d :: rest else e :: add rest d

/-- A warning about a part that is left out. -/
def warning (part : List Char) (remark : String) : String :=
  "warning: invalid logging spec '" ++ String.ofList part ++ "', ignoring it" ++ remark ++ "\n"

/-- Adds the directives of some parts, with a warning for each part that is none. -/
def addParts (directives : List Directive) : List (List Char) → List Directive × String
  | [] => (directives, "")
  | part :: parts =>
    if trim part = [] then addParts directives parts
    else
      match Directive.ofPart (trim part) with
      | .ok d => addParts (add directives d) parts
      | .error wrong =>
        let (all, warnings) := addParts directives parts
        (all, warning wrong "" ++ warnings)

/-- Where a specification has no directive, errors alone are shown. -/
def orDefault (directives : List Directive) : List Directive :=
  if directives = [] then [⟨none, .error⟩] else directives

/-- The pattern of a filter, or none with a warning if it cannot be used. -/
def readPattern (pattern : List Char) : Option Regex × String :=
  match Regex.ofPattern pattern with
  | .ok r => (some r, "")
  | .error e => (none, "warning: invalid regex filter - " ++ e.message pattern ++ "\n")

/-- The filter of a specification, and warnings about what is wrong with it. What follows a slash is a pattern for the
messages. -/
def ofSpecification (spec : String) : LogFilter × String :=
  match spec.toList.splitOn '/' with
  | [parts] =>
    let (directives, warnings) := addParts [] (parts.splitOn ',')
    (⟨orDefault directives, none⟩, warnings)
  | [parts, pattern] =>
    let (directives, warnings) := addParts [] (parts.splitOn ',')
    let (pattern, warning) := readPattern pattern
    (⟨orDefault directives, pattern⟩, warnings ++ warning)
  | _ => (⟨orDefault [], none⟩, warning spec.toList " (too many '/'s)")

/-- The longer of two directives that fit, the later one of two that are equally long. -/
def longer (best : Option Directive) (d : Directive) : Option Directive :=
  match best with
  | none => some d
  | some b => if b.start.length ≤ d.start.length then some d else some b

/-- Whether the pattern of a filter matches a message. -/
def admits (f : LogFilter) (message : String) : Bool :=
  match f.pattern with
  | none => true
  | some r => r.occursIn message.toList

/-- Whether a record is shown: the longest directive that fits its target decides. -/
def shows (f : LogFilter) (r : LogRecord) : Bool :=
  match (f.directives.filter fun d => d.start.isPrefixOf r.target.toList).foldl longer none with
  | none => false
  | some d => d.level.showsDebug && f.admits r.text

end LogFilter

/-! ## Text -/

namespace Log

/-- One line of the log, its target padded to a width. -/
def line (width : Nat) (r : LogRecord) : String :=
  " DEBUG " ++ r.target ++ String.ofList (List.replicate (width - r.target.length) ' ') ++ " > " ++ r.text ++ "\n"

/-- The lines of some records, the first of them padded to at least a width. -/
def render (width : Nat) : List LogRecord → String
  | [] => ""
  | r :: rest =>
    let width := max width r.target.length
    line width r ++ render width rest

end Log

end QueryDsl.CommandLine
