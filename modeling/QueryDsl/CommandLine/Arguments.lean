/-!
# Command line arguments

An invocation names one command, at most one file, and two switches that may stand on either side of the command
(`Invocation.ofArguments`). Arguments are read from left to right, and the first one that cannot be taken, or that asks
for help or for the version, decides the outcome. Behind `--` every argument is an operand.
-/

namespace QueryDsl.CommandLine

/-- What the program is asked to do with a request. -/
inductive Command where
  /-- Print the document of the query. -/
  | compile
  /-- Print the search body. -/
  | body
  /-- Say what the request is. -/
  | check
  deriving DecidableEq, Repr

/-- The command with a given name. -/
def Command.ofName? (name : String) : Option Command :=
  if name = "compile" then some .compile
  else if name = "body" then some .body
  else if name = "check" then some .check
  else none

/-- What a list of arguments asks for. -/
structure Invocation where
  verbose : Bool
  compact : Bool
  command : Command
  file : Option String
  deriving DecidableEq, Repr

/-- Why a list of arguments is no invocation. -/
inductive UsageError where
  | displayHelp
  | displayVersion
  /-- Nothing is asked for, so help is given. -/
  | helpOnMissingCommand
  | missingCommand
  | invalidCommand
  | unknownArgument
  | argumentConflict
  | tooManyValues
  | invalidValue
  deriving DecidableEq, Repr

/-! ## Switches -/

/-- The options, none of which takes a value. -/
inductive Switch where
  | verbose
  | compact
  | help
  | version
  deriving DecidableEq, Repr

/-- The switch with a long name. -/
def Switch.ofName? (name : String) : Option Switch :=
  if name = "verbose" then some .verbose
  else if name = "compact" then some .compact
  else if name = "help" then some .help
  else if name = "version" then some .version
  else none

/-- The switch with a letter. -/
def Switch.ofLetter? (letter : Char) : Option Switch :=
  if letter = 'v' then some .verbose
  else if letter = 'h' then some .help
  else if letter = 'V' then some .version
  else none

/-- The form of an argument. -/
inductive ArgumentForm where
  /-- The mark behind which every argument is an operand. -/
  | escape
  | long (name : String) (hasValue : Bool)
  | letters (cs : List Char)
  | operand
  deriving DecidableEq, Repr

/-- The form of an argument in front of the mark. A dash alone is an operand. -/
def ArgumentForm.ofString (arg : String) : ArgumentForm :=
  match arg.toList with
  | ['-', '-'] => .escape
  | '-' :: '-' :: rest => .long (String.ofList (rest.takeWhile (· ≠ '='))) (rest.contains '=')
  | '-' :: c :: cs => .letters (c :: cs)
  | _ => .operand

/-- The switches that letters stand for, up to the first letter without a known one. -/
def letterSwitches (known : Switch → Bool) : List Char → List Switch × Option UsageError
  | [] => ([], none)
  | c :: cs =>
    match (Switch.ofLetter? c).filter known with
    | none => ([], some .unknownArgument)
    | some s => ((s :: (letterSwitches known cs).1), (letterSwitches known cs).2)

/-- The switches that an argument sets, and the error behind them if there is one. -/
def ArgumentForm.switches (known : Switch → Bool) : ArgumentForm → List Switch × Option UsageError
  | escape => ([], none)
  | operand => ([], none)
  | letters cs => letterSwitches known cs
  | long name hasValue =>
    match (Switch.ofName? name).filter known with
    | none => ([], some .unknownArgument)
    | some s => if hasValue then ([], some .tooManyValues) else ([s], none)

/-- The switches that are set so far on one side of the command. -/
structure Switches where
  verbose : Bool := false
  compact : Bool := false
  deriving DecidableEq, Repr

namespace Switches

/-- Sets a switch, once at most. -/
def set (set : Switches) : Switch → Except UsageError Switches
  | .verbose => if set.verbose then .error .argumentConflict else .ok { set with verbose := true }
  | .compact => if set.compact then .error .argumentConflict else .ok { set with compact := true }
  | .help => .error .displayHelp
  | .version => .error .displayVersion

/-- Sets switches in turn, then reports the error behind them. -/
def setAll (current : Switches) : List Switch × Option UsageError → Except UsageError Switches
  | ([], none) => .ok current
  | ([], some e) => .error e
  | (s :: rest, e) =>
    match current.set s with
    | .error e => .error e
    | .ok next => setAll next (rest, e)

end Switches

/-! ## Invocations -/

/-- The switches that are known behind the command. -/
def knownBehind (s : Switch) : Bool := s != .version

/-- The invocation at the end of the arguments. The name of a file is not empty. -/
def finish (command : Command) (before behind : Switches) (file : Option String) : Except UsageError Invocation :=
  if file = some "" then .error .invalidValue
  else .ok ⟨before.verbose || behind.verbose, before.compact || behind.compact, command, file⟩

/-- The arguments behind the mark: at most one operand in all. -/
def readOperands (command : Command) (before behind : Switches) : Option String → List String →
    Except UsageError Invocation
  | file, [] => finish command before behind file
  | none, [operand] => finish command before behind (some operand)
  | _, _ => .error .unknownArgument

/-- The arguments behind the command. An empty name of a file is noticed at the next switch or at the end. -/
def readBehind (command : Command) (before : Switches) : Switches → Option String → List String →
    Except UsageError Invocation
  | behind, file, [] => finish command before behind file
  | behind, file, arg :: args =>
    match ArgumentForm.ofString arg with
    | .escape => readOperands command before behind file args
    | .operand =>
      match file with
      | none => readBehind command before behind (some arg) args
      | some _ => .error .unknownArgument
    | form =>
      let switches := form.switches knownBehind
      if file = some "" ∧ switches.1 ≠ [] then .error .invalidValue
      else
        match behind.setAll switches with
        | .error e => .error e
        | .ok behind => readBehind command before behind file args

/-- The word that asks for help like a command. -/
def helpWord : String := "help"

/-- Whether a word stands in the place of a command. -/
def isCommandWord (word : String) : Bool := word == helpWord || (Command.ofName? word).isSome

/-- Help is asked for in general or about one command. -/
def readHelp : List String → UsageError
  | [] => .displayHelp
  | [word] => if isCommandWord word then .displayHelp else .invalidCommand
  | _ => .invalidCommand

/-- The error where the arguments end without a command. -/
def withoutCommand (before : Switches) : UsageError :=
  if before.verbose || before.compact then .missingCommand else .helpOnMissingCommand

/-- The arguments in front of the command. Behind the mark there is no command any more. -/
def readBefore : Switches → List String → Except UsageError Invocation
  | before, [] => .error (withoutCommand before)
  | before, arg :: args =>
    match Command.ofName? arg with
    | some command => readBehind command before {} none args
    | none =>
      if arg = helpWord then .error (readHelp args)
      else
        match ArgumentForm.ofString arg with
        | .operand => .error .invalidCommand
        | .escape =>
          match args with
          | [] => .error (withoutCommand before)
          | word :: _ => .error (if isCommandWord word then .unknownArgument else .invalidCommand)
        | form =>
          match before.setAll (form.switches fun _ => true) with
          | .error e => .error e
          | .ok before => readBefore before args

/-- The invocation that a list of arguments makes. -/
def Invocation.ofArguments (args : List String) : Except UsageError Invocation := readBefore {} args

end QueryDsl.CommandLine
