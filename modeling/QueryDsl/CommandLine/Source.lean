/-!
# Where a request comes from

A request comes from a file or from standard input (`Source`). Loading gives bytes or a fault; the bytes must be text.
`FileTree` is a directory tree in which paths are resolved segment by segment.
-/

namespace QueryDsl.CommandLine

/-! ## Sources -/

/-- Where the text of a request is read from. -/
inductive Source where
  | standardInput
  | file (path : String)
  deriving DecidableEq, Repr

namespace Source

/-- Segments that do not lead anywhere. -/
def isIdle (segment : List Char) : Bool := segment == [] || segment == ['.']

/-- Whether a path stands for standard input: its one segment is a dash, idle segments behind it apart. -/
def isDash (path : String) : Bool :=
  match path.toList.splitOn '/' with
  | [] => false
  | first :: others => first == ['-'] && others.all isIdle

/-- The source that an operand names, or standard input if there is none. -/
def ofOperand : Option String → Source
  | none => standardInput
  | some path => if isDash path then standardInput else file path

/-- The name of the source in messages. -/
def name : Source → String
  | standardInput => "stdin"
  | file path => path

end Source

/-! ## Faults -/

/-- Why a file cannot be read: its name is impossible, or the system refuses in its own words and with its number. -/
inductive FileFault where
  | nulInName
  | system (reason : String) (number : Nat)
  deriving DecidableEq, Repr

namespace FileFault

/-- There is nothing under the name. -/
def noSuchFile : FileFault := system "No such file or directory" 2

/-- The path leads through something that is no directory. -/
def notADirectory : FileFault := system "Not a directory" 20

/-- A directory is read as a file. -/
def isADirectory : FileFault := system "Is a directory" 21

/-- A segment or the whole path is too long. -/
def nameTooLong : FileFault := system "File name too long" 36

/-- The wording of a fault. -/
def message : FileFault → String
  | nulInName => "file name contained an unexpected NUL byte"
  | system reason number => reason ++ " (os error " ++ toString number ++ ")"

end FileFault

/-- The step at which loading fails. -/
inductive LoadFault where
  | opening (fault : FileFault)
  | reading (fault : FileFault)
  deriving DecidableEq, Repr

/-- What loading a source gives. -/
abbrev Loaded := Except LoadFault ByteArray

/-! ## Directory trees -/

/-- A file, or a directory with named entries. -/
inductive FileTree where
  | file (content : ByteArray)
  | directory (entries : List (String × FileTree))

namespace FileTree

/-- The greatest length of a name in bytes. -/
def greatestName : Nat := 255

/-- The length in bytes from which on a path is too long. -/
def pathLimit : Nat := 4096

/-- The directories on the way to the place a path has led to, that place first. Above the first directory there is an
empty one. -/
abbrev Trail := List FileTree

/-- The trail one level up. -/
def up : Trail → Trail
  | _ :: place :: rest => place :: rest
  | _ => [directory []]

/-- The trail after one more segment. -/
def step (trail : Trail) (segment : List Char) : Except FileFault Trail :=
  match trail with
  | directory entries :: _ =>
    if Source.isIdle segment then .ok trail
    else if segment = ['.', '.'] then .ok (up trail)
    else if greatestName < (String.ofList segment).utf8ByteSize then .error .nameTooLong
    else
      match entries.lookup (String.ofList segment) with
      | none => .error .noSuchFile
      | some t => .ok (t :: trail)
  | _ => .error .notADirectory

/-- The trail after all the segments of a path. -/
def walk (trail : Trail) : List (List Char) → Except FileFault Trail
  | [] => .ok trail
  | segment :: rest =>
    match step trail segment with
    | .error fault => .error fault
    | .ok trail => walk trail rest

/-- What a path leads to from the root of the tree. Of what lies above the root nothing is known. -/
def resolve (t : FileTree) (path : String) : Except FileFault FileTree :=
  if path.toList.contains '\x00' then .error .nulInName
  else if path = "" then .error .noSuchFile
  else if pathLimit ≤ path.utf8ByteSize then .error .nameTooLong
  else
    let start := if path.toList.head? = some '/' then directory [] else t
    match walk [start] (path.toList.splitOn '/') with
    | .error fault => .error fault
    | .ok (place :: _) => .ok place
    | .ok [] => .ok (directory [])

/-- The bytes of a source, given a tree and what standard input holds. -/
def load (t : FileTree) (input : ByteArray) : Source → Loaded
  | .standardInput => .ok input
  | .file path =>
    match t.resolve path with
    | .error fault => .error (.opening fault)
    | .ok (directory _) => .error (.reading .isADirectory)
    | .ok (file content) => .ok content

end FileTree

end QueryDsl.CommandLine
