import QueryDsl.CommandLine.Arguments
import QueryDsl.CommandLine.Log
import QueryDsl.CommandLine.Source
import QueryDsl.Document.SearchBody
import QueryDsl.Request.Decode

/-!
# Runs of a command

A command takes the text of a source through reading and decoding to the text that it prints (`Command.run`). Each
stage that succeeds leaves one record in the log; the first stage that fails ends the run.
-/

namespace QueryDsl.CommandLine

/-! ## Failures -/

/-- Why a command gives no text. -/
inductive Failure where
  /-- The source could not be loaded. -/
  | notLoaded (source : Source) (fault : LoadFault)
  /-- The source is not text. -/
  | notText (source : Source)
  /-- The text is not JSON. -/
  | notJson (source : Source) (error : Json.SyntaxError)
  /-- The JSON is no request. -/
  | notRequest (error : QueryError)
  deriving DecidableEq, Repr

namespace Failure

/-- What is said about standard input when it cannot be read. -/
def inputMessage : String := "Failed to read request from stdin"

/-- What is said about bytes that are no text. -/
def notTextMessage : String := "stream did not contain valid UTF-8"

/-- What is said about a file at the step of loading that fails. -/
def fileMessage (path : String) : LoadFault → String
  | .opening fault => "failed to open file `" ++ path ++ "`: " ++ fault.message
  | .reading fault => "failed to read from file `" ++ path ++ "`: " ++ fault.message

/-- The fault itself, without the name of the file. -/
def faultMessage : LoadFault → String
  | .opening fault => fault.message
  | .reading fault => fault.message

/-- What is said about a failure and about its cause, the most general statement first. -/
def chain : Failure → String × Option String
  | notLoaded .standardInput fault => (inputMessage, some (faultMessage fault))
  | notLoaded (.file path) fault => (fileMessage path fault, none)
  | notText .standardInput => (inputMessage, some notTextMessage)
  | notText (.file path) => ("failed to read from file `" ++ path ++ "`: " ++ notTextMessage, none)
  | notJson source error => ("Request in " ++ source.name ++ " is not valid JSON", some error.message)
  | notRequest error => (error.message, none)

end Failure

/-! ## Stages -/

/-- The text of a source. -/
def sourceText (source : Source) (loaded : Loaded) : Except Failure String :=
  match loaded with
  | .error fault => .error (.notLoaded source fault)
  | .ok bytes =>
    match String.fromUTF8? bytes with
    | none => .error (.notText source)
    | some text => .ok text

/-- The JSON of a text. A blank text is an empty request. -/
def requestJson (text : String) : Except Json.SyntaxError Json :=
  if Text.isBlank text then .ok (.obj []) else Json.parse text

/-- The target of messages about input. -/
def inputTarget : String := "es_query_cli::input"

/-- The target of messages about commands. -/
def commandTarget : String := "es_query_cli::commands"

/-- The record of a text that was read. -/
def readRecord (source : Source) (text : String) : LogRecord :=
  ⟨inputTarget, "Read " ++ toString text.utf8ByteSize ++ " bytes of request JSON from " ++ source.name⟩

/-- The record of a request that was decoded. -/
def decodedRecord (r : Request) : LogRecord :=
  ⟨commandTarget, "Decoded request: " ++ toString r.filters.length ++ " filter clause(s), " ++
    toString r.ids.length ++ " id(s), free text " ++ (if r.text = "" then "absent" else "present")⟩

/-- The record of a query that was compiled. -/
def compiledRecord (q : Query) : LogRecord :=
  ⟨commandTarget, "Compiled to " ++ q.shape ++ " query"⟩

/-- A value in the style that is asked for. -/
def layout (compact : Bool) (v : Json) : String := if compact then v.compact else v.pretty

namespace Command

/-- What a command prints for a request. -/
def answer (compact : Bool) (r : Request) : Command → String
  | compile => layout compact r.query.toJson
  | body => layout compact (SearchBody.ofRequest r).toJson
  | check => "valid request: " ++ toString r.filters.length ++ " filter clause(s), shape: " ++ r.query.shape

/-- What a command logs while it makes its answer. -/
def answerLog (r : Request) : Command → List LogRecord
  | compile => [compiledRecord r.query]
  | body => [compiledRecord r.query]
  | check => []

end Command

/-- What a run leaves: its log, and the text to print or a failure. -/
structure Outcome where
  log : List LogRecord
  result : Except Failure String

/-- Runs a command on what a source holds. -/
def Command.run (command : Command) (compact : Bool) (source : Source) (loaded : Loaded) : Outcome :=
  match sourceText source loaded with
  | .error failure => ⟨[], .error failure⟩
  | .ok text =>
    let read := readRecord source text
    match requestJson text with
    | .error e => ⟨[read], .error (.notJson source e)⟩
    | .ok v =>
      match Request.ofJson v with
      | .error e => ⟨[read], .error (.notRequest e)⟩
      | .ok r => ⟨read :: decodedRecord r :: command.answerLog r, .ok (command.answer compact r)⟩

end QueryDsl.CommandLine
