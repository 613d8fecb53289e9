import QueryDsl.CommandLine.Run

/-!
# The program

A run of the whole program takes the arguments, the log specification of the environment if there is one, and a way to
load a source, to what it writes and the code that it ends with (`Program.run`). A source is loaded only for
arguments that make an invocation (`Program.source?`).

The texts of help and of a refusal are those of the library that reads the arguments, and they are left out: a run that
ends with one of them is told by its code alone. Only the version is given with its text.
-/

namespace QueryDsl.CommandLine

/-- What a run of the program writes, and the code that it ends with. -/
structure Report where
  code : UInt32
  stdout : String
  stderr : String
  deriving DecidableEq, Repr

namespace UsageError

/-- The name and the version of the program. -/
def version : String := "esq 0.1.0\n"

/-- The report about arguments that make no invocation. Help and the version are answers when they are asked for, and
without arguments help is a refusal. -/
def report : UsageError → Report
  | displayHelp => ⟨0, "", ""⟩
  | displayVersion => ⟨0, version, ""⟩
  | _ => ⟨2, "", ""⟩

end UsageError

/-- The report about a failure. -/
def Failure.report (failure : Failure) : String :=
  match failure.chain with
  | (message, none) => "Error: " ++ message ++ "\n"
  | (message, some cause) => "Error: " ++ message ++ "\n\nCaused by:\n    " ++ cause ++ "\n"

namespace Program

/-- The log specification where the environment has none: messages of the program itself, more of them if it is
verbose. -/
def defaultSpecification (verbose : Bool) : String :=
  let level := if verbose then "debug" else "info"
  "esq=" ++ level ++ ",es_query_cli=" ++ level

/-- The source that a list of arguments asks for. -/
def source? (args : List String) : Option Source :=
  match Invocation.ofArguments args with
  | .ok invocation => some (Source.ofOperand invocation.file)
  | .error _ => none

/-- Runs an invocation. -/
def runInvocation (invocation : Invocation) (specification : Option String) (load : Source → Loaded) : Report :=
  let (filter, warnings) := LogFilter.ofSpecification
    (specification.getD (defaultSpecification invocation.verbose))
  let source := Source.ofOperand invocation.file
  let outcome := invocation.command.run invocation.compact source (load source)
  let log := warnings ++ Log.render 0 (outcome.log.filter filter.shows)
  match outcome.result with
  | .ok text => ⟨0, text ++ "\n", log⟩
  | .error failure => ⟨1, "", log ++ failure.report⟩

/-- Runs the program. -/
def run (args : List String) (specification : Option String) (load : Source → Loaded) : Report :=
  match Invocation.ofArguments args with
  | .error e => e.report
  | .ok invocation => runInvocation invocation specification load

end Program

end QueryDsl.CommandLine
