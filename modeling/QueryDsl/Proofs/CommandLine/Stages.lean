import QueryDsl.Proofs.CommandLine.Answers
import QueryDsl.Proofs.Request.PartFrame

/-!
# The stages of a run

A run reads a text, decodes a request from it and answers the request; the first stage that fails ends it.

- `Command.callsSource_of_mem_log`, `Command.callsSource_of_result`: the record of the text and every failure on the way
  to the request call the source by one name.
- `log_stages`: each stage leaves its record exactly where it succeeds, and the record tells what the stage has made. So
  the log alone tells how far the run got (`Progress`).
-/

namespace QueryDsl.CommandLine

open Checks

variable {command : Command} {compact : Bool} {source : Source} {loaded : Loaded}

/-! ## The name of the source -/

/-- A message about a source calls it by a name. -/
inductive CallsSource (name : String) : String → Prop
  | opening (reason : String) : CallsSource name ("failed to open file `" ++ name ++ "`: " ++ reason)
  | reading (reason : String) : CallsSource name ("failed to read from file `" ++ name ++ "`: " ++ reason)
  | input : CallsSource name ("Failed to read request from " ++ name)
  | json : CallsSource name ("Request in " ++ name ++ " is not valid JSON")
  | read (bytes : Nat) : CallsSource name ("Read " ++ toString bytes ++ " bytes of request JSON from " ++ name)

/-- The record of a text calls the source by its name; no other record is about the source. -/
theorem Command.callsSource_of_mem_log {record : LogRecord} (h : record ∈ (command.run compact source loaded).log) :
    record.target = commandTarget ∨ record.target = inputTarget ∧ CallsSource source.name record.text := by
  have hanswer (r : Request) (hr : record ∈ command.answerLog r) : record.target = commandTarget := by
    cases command <;> simp_all [answerLog, compiledRecord]
  have hread (text : String) : CallsSource source.name (readRecord source text).text := .read _
  rcases command.run_cases compact source loaded with ⟨failure, -, -, hrun⟩ | ⟨text, failure, -, -, -, hrun⟩ |
    ⟨text, r, -, -, hrun⟩ <;> rw [hrun] at h
  · cases h
  · obtain rfl := List.mem_singleton.1 h
    exact Or.inr ⟨rfl, hread text⟩
  · rcases List.mem_cons.1 h with rfl | h
    · exact Or.inr ⟨rfl, hread text⟩
    · rcases List.mem_cons.1 h with rfl | h
      · exact Or.inl rfl
      · exact Or.inl (hanswer r h)

/-- A failure calls the source by its name, unless the JSON is no request. -/
theorem Command.callsSource_of_result {failure : Failure}
    (h : (command.run compact source loaded).result = .error failure) :
    (∃ e, failure = .notRequest e) ∨ CallsSource source.name failure.chain.1 := by
  rcases command.run_cases compact source loaded with ⟨failure, hfailure, -, hrun⟩ |
    ⟨text, failure, -, -, hfailure, hrun⟩ | ⟨text, r, -, -, hrun⟩ <;> rw [hrun] at h <;> cases h
  · refine Or.inr ?_
    rcases sourceText_eq_error hfailure with ⟨fault, rfl⟩ | rfl
    · cases source with
      | standardInput => exact .input
      | file path => cases fault with
        | opening fault => exact .opening _
        | reading fault => exact .reading _
    · cases source with
      | standardInput => exact .input
      | file path => exact .reading _
  · rcases hfailure with ⟨e, rfl⟩ | hrequest
    · exact Or.inr .json
    · exact Or.inl hrequest

/-! ## Records -/

/-- What is loaded is the text of a JSON value, and the value is a request. -/
def Holds (loaded : Loaded) (v : Json) (r : Request) : Prop :=
  ∃ text : String, loaded = .ok text.toUTF8 ∧ requestJson text = .ok v ∧ Request.ofJson v = .ok r

theorem heldRequest_eq_ok {r : Request} : heldRequest source loaded = .ok r ↔ ∃ v, Holds loaded v r := by
  have hmap {ε δ α : Type} {f : ε → δ} {x : Except ε α} {a : α} : x.mapError f = .ok a ↔ x = .ok a := by
    cases x <;> simp [Except.mapError]
  simp only [heldRequest, bind_eq_ok, sourceText_eq_ok, hmap, Holds]
  constructor
  · rintro ⟨text, htext, v, hv, hr⟩
    exact ⟨v, text, htext, hv, hr⟩
  · rintro ⟨v, text, htext, hv, hr⟩
    exact ⟨text, htext, v, hv, hr⟩

/-- The record of the text that is loaded, if there is one. -/
def readLine? (source : Source) (loaded : Loaded) : Option LogRecord :=
  (sourceText source loaded).toOption.map (readRecord source)

/-- The record of the request that is held, if there is one. -/
def decodedLine? (source : Source) (loaded : Loaded) : Option LogRecord :=
  (heldRequest source loaded).toOption.map decodedRecord

/-- The record of the query that is made of the request, if there is one and the command prints it. -/
def Command.compiledLine? (command : Command) (source : Source) (loaded : Loaded) : Option LogRecord :=
  (heldRequest source loaded).toOption.bind fun r => (command.answerLog r).head?

/-- The log of a run has one line for each stage that succeeds and leaves one. -/
theorem Command.log_run (command : Command) (compact : Bool) (source : Source) (loaded : Loaded) :
    (command.run compact source loaded).log = (readLine? source loaded).toList ++ (decodedLine? source loaded).toList ++
      (command.compiledLine? source loaded).toList := by
  unfold readLine? decodedLine? compiledLine?
  rcases command.run_cases compact source loaded with ⟨failure, htext, hheld, hrun⟩ |
    ⟨text, failure, htext, hheld, -, hrun⟩ | ⟨text, r, htext, hheld, hrun⟩ <;> rw [hrun, htext, hheld]
  · rfl
  · rfl
  · cases command <;> rfl

theorem toOption_eq_some {ε α : Type} {x : Except ε α} {a : α} : x.toOption = some a ↔ x = .ok a := by
  cases x <;> simp [Except.toOption]

theorem readLine?_eq_some {line : LogRecord} : readLine? source loaded = some line ↔
    ∃ bytes text, loaded = .ok bytes ∧ String.toUTF8 text = bytes ∧
      line = ⟨inputTarget, "Read " ++ toString bytes.size ++ " bytes of request JSON from " ++ source.name⟩ := by
  simp only [readLine?, Option.map_eq_some_iff, toOption_eq_some, sourceText_eq_ok]
  constructor
  · rintro ⟨text, htext, rfl⟩
    exact ⟨_, text, htext, rfl, rfl⟩
  · rintro ⟨_, text, htext, rfl, rfl⟩
    exact ⟨text, htext, rfl⟩

/-- The record of a request tells what its parts list. -/
theorem decodedRecord_eq {v : Json} {r : Request} {p : Parts} (hr : Request.ofJson v = .ok r) (hp : p.HasForm v) :
    decodedRecord r = ⟨commandTarget, "Decoded request: " ++ toString (p.filters.getD []).length ++
      " filter clause(s), " ++ toString (p.ids.getD []).length ++ " id(s), free text " ++
      (if p.text.getD "" = "" then "absent" else "present")⟩ := by
  rw [Request.ofJson_of_hasForm hp] at hr
  obtain ⟨-, fs, hfs, rfl⟩ := Request.ofParts_eq_ok.1 hr
  rw [hfs.length_eq]
  rfl

theorem decodedLine?_eq_some {line : LogRecord} : decodedLine? source loaded = some line ↔
    ∃ v r p, Holds loaded v r ∧ Parts.HasForm p v ∧
      line = ⟨commandTarget, "Decoded request: " ++ toString (p.filters.getD []).length ++ " filter clause(s), " ++
        toString (p.ids.getD []).length ++ " id(s), free text " ++
        (if p.text.getD "" = "" then "absent" else "present")⟩ := by
  simp only [decodedLine?, Option.map_eq_some_iff, toOption_eq_some, heldRequest_eq_ok]
  constructor
  · rintro ⟨r, ⟨v, hheld⟩, rfl⟩
    obtain ⟨text, -, -, hr⟩ := id hheld
    obtain ⟨p, hp, -⟩ := Request.ofJson_eq_ok.1 hr
    exact ⟨v, r, p, hheld, hp, decodedRecord_eq hr hp⟩
  · rintro ⟨v, r, p, hheld, hp, rfl⟩
    obtain ⟨text, -, -, hr⟩ := id hheld
    exact ⟨r, ⟨v, hheld⟩, decodedRecord_eq hr hp⟩

/-- What a command prints of a document: the document alone, or an object with the document as its first member. -/
def Command.Prints (compact : Bool) (document : Json) (text : String) : Command → Prop
  | compile => text = layout compact document
  | body => ∃ page, text = layout compact (.obj (("query", document) :: page))
  | check => False

theorem Command.compiledLine?_eq_some {line : LogRecord} : command.compiledLine? source loaded = some line ↔
    (command = .compile ∨ command = .body) ∧ ∃ v r shape answer, Holds loaded v r ∧
      (command.run compact source loaded).result = .ok answer ∧ command.Prints compact r.query.toJson answer ∧
      documentShape? r.query.toJson = some shape ∧ line = ⟨commandTarget, "Compiled to " ++ shape ++ " query"⟩ := by
  simp only [compiledLine?, Option.bind_eq_some_iff, toOption_eq_some, documentShape?_toJson, command.result_run]
  constructor
  · rintro ⟨r, hr, hline⟩
    obtain ⟨v, hheld⟩ := heldRequest_eq_ok.1 hr
    cases command with
    | compile => exact ⟨Or.inl rfl, v, r, _, _, hheld, by rw [hr]; rfl, rfl, rfl, (Option.some.inj hline).symm⟩
    | body =>
      exact ⟨Or.inr rfl, v, r, _, _, hheld, by rw [hr]; rfl, ⟨_, rfl⟩, rfl, (Option.some.inj hline).symm⟩
    | check => cases hline
  · rintro ⟨hcommand, v, r, shape, answer, hheld, -, -, hshape, rfl⟩
    obtain rfl := Option.some.inj hshape
    refine ⟨r, heldRequest_eq_ok.2 ⟨v, hheld⟩, ?_⟩
    rcases hcommand with rfl | rfl <;> rfl

/-! ## Progress -/

/-- How far a run gets. -/
inductive Progress where
  | nothing
  | text
  | request
  deriving DecidableEq, Repr

/-- How far a log tells that the run got. -/
def Progress.ofLog : List LogRecord → Progress
  | [] => nothing
  | [_] => text
  | _ => request

/-- How far a run got that ends so. -/
def Progress.ofResult : Except Failure String → Progress
  | .error (.notLoaded ..) => nothing
  | .error (.notText _) => nothing
  | .error (.notJson ..) => text
  | .error (.notRequest _) => text
  | .ok _ => request

theorem Command.progress_run (command : Command) (compact : Bool) (source : Source) (loaded : Loaded) :
    let outcome := command.run compact source loaded
    Progress.ofLog outcome.log = Progress.ofResult outcome.result := by
  intro outcome
  rcases command.run_cases compact source loaded with ⟨failure, hfailure, -, hrun⟩ |
    ⟨text, failure, -, -, hfailure, hrun⟩ | ⟨text, r, -, -, hrun⟩ <;> unfold outcome <;> rw [hrun]
  · rcases sourceText_eq_error hfailure with ⟨fault, rfl⟩ | rfl <;> rfl
  · rcases hfailure with ⟨e, rfl⟩ | ⟨e, rfl⟩ <;> rfl
  · rfl

/-- **What a run logs.** The log has three places, in this order. The first is filled exactly where the source is loaded
to bytes that are a text, and tells their number and the source. The second is filled exactly where moreover the text is
JSON and the JSON is a request, and tells how many filters and identifiers the JSON lists and whether it has a text that
is not empty. The third is filled exactly where moreover the command is `compile` or `body`, and tells the shape of the
document that is printed. So the log tells how far the run got, and a failure calls the source by the name that is
logged. -/
theorem log_stages (command : Command) (compact : Bool) (source : Source) (loaded : Loaded) :
    let outcome := command.run compact source loaded
    (∃ read decoded compiled : Option LogRecord,
      outcome.log = read.toList ++ decoded.toList ++ compiled.toList ∧
      (∀ line, read = some line ↔ ∃ bytes text, loaded = .ok bytes ∧ String.toUTF8 text = bytes ∧
        line = ⟨inputTarget, "Read " ++ toString bytes.size ++ " bytes of request JSON from " ++ source.name⟩) ∧
      (∀ line, decoded = some line ↔ ∃ v r p, Holds loaded v r ∧ Parts.HasForm p v ∧
        line = ⟨commandTarget, "Decoded request: " ++ toString (p.filters.getD []).length ++ " filter clause(s), " ++
          toString (p.ids.getD []).length ++ " id(s), free text " ++
          (if p.text.getD "" = "" then "absent" else "present")⟩) ∧
      ∀ line, compiled = some line ↔ (command = .compile ∨ command = .body) ∧ ∃ v r shape answer, Holds loaded v r ∧
        outcome.result = .ok answer ∧ command.Prints compact r.query.toJson answer ∧
        documentShape? r.query.toJson = some shape ∧ line = ⟨commandTarget, "Compiled to " ++ shape ++ " query"⟩) ∧
    Progress.ofLog outcome.log = Progress.ofResult outcome.result ∧
    ∀ failure, outcome.result = .error failure →
      (∃ e, failure = .notRequest e) ∨ CallsSource source.name failure.chain.1 :=
  ⟨⟨readLine? source loaded, decodedLine? source loaded, command.compiledLine? source loaded,
      command.log_run compact source loaded, fun _ => readLine?_eq_some, fun _ => decodedLine?_eq_some,
      fun _ => Command.compiledLine?_eq_some⟩,
    command.progress_run compact source loaded, fun _ => Command.callsSource_of_result⟩

/-- The identifiers of an array are counted, and `check` tells of no query. -/
example : (Command.check.run true (.file "a b") (.ok "[\"x\",[],[1,2]]".toUTF8)).log.map LogRecord.text =
    ["Read 14 bytes of request JSON from a b",
      "Decoded request: 0 filter clause(s), 2 id(s), free text present"] := by decide +kernel

end QueryDsl.CommandLine
