import QueryDsl.CommandLine.Run
import QueryDsl.Proofs.Document.Printable
import QueryDsl.Proofs.Json.Condensed
import QueryDsl.Proofs.Json.Margins

/-!
# What the commands answer

The commands share everything up to the request that a source holds (`heldRequest`), and from there on none of them can
fail (`Command.result_run`). What a run can do is said once (`Command.run_cases`).

- `result_run_agree`: the commands succeed on the same sources, whatever the layout, and they speak of one document: it
  is printed alone and in the body, and its shape is told with the number of the filters.
- `requestJson_answer_iff`: a document or a body that is printed is read back, with all members in their order.
- `withoutLayout_answer`: the two layouts of a document or of a body differ in spaces and line feeds between tokens
  only.
-/

namespace QueryDsl.CommandLine

open Checks Json

/-! ## The request of a source -/

theorem requestJson_of_isBlank {text : String} (h : Text.isBlank text = true) : requestJson text = .ok (.obj []) :=
  if_pos h

theorem requestJson_of_not_isBlank {text : String} (h : Text.isBlank text = false) : requestJson text = parse text :=
  if_neg (by simp [h])

/-- The request that a source holds, or the first failure on the way to it. -/
def heldRequest (source : Source) (loaded : Loaded) : Except Failure Request := do
  let text ← sourceText source loaded
  let v ← (requestJson text).mapError (.notJson source)
  (Request.ofJson v).mapError .notRequest

theorem fromUTF8?_eq_some {bytes : ByteArray} {text : String} :
    String.fromUTF8? bytes = some text ↔ text.toUTF8 = bytes := by
  constructor
  · intro h
    unfold String.fromUTF8? at h
    split at h
    · cases h
      rfl
    · cases h
  · rintro rfl
    exact dif_pos text.isValidUTF8

section Source

variable {source : Source} {loaded : Loaded}

/-- A source holds a text where it is loaded to the bytes of the text. -/
theorem sourceText_eq_ok {text : String} : sourceText source loaded = .ok text ↔ loaded = .ok text.toUTF8 := by
  cases loaded with
  | error fault => simp [sourceText]
  | ok bytes =>
    rw [Except.ok.injEq, eq_comm (a := bytes), ← fromUTF8?_eq_some, sourceText]
    cases String.fromUTF8? bytes <;> simp

theorem sourceText_eq_error {failure : Failure} (h : sourceText source loaded = .error failure) :
    (∃ fault, failure = .notLoaded source fault) ∨ failure = .notText source := by
  unfold sourceText at h
  split at h
  · next fault =>
    cases h
    exact Or.inl ⟨fault, rfl⟩
  · split at h <;> cases h
    exact Or.inr rfl

/-- Of a text, the request is what its JSON is decoded to. -/
theorem heldRequest_of_sourceText {text : String} (h : sourceText source loaded = .ok text) :
    heldRequest source loaded =
      (requestJson text).mapError (.notJson source) >>= fun v => (Request.ofJson v).mapError .notRequest := by
  rw [heldRequest, h]
  rfl

/-- What a run can do: it fails before there is a text or behind it, with the records up to there, or it answers the
request that the source holds. -/
theorem Command.run_cases (command : Command) (compact : Bool) (source : Source) (loaded : Loaded) :
    let outcome := command.run compact source loaded
    (∃ failure, sourceText source loaded = .error failure ∧ heldRequest source loaded = .error failure ∧
      outcome = ⟨[], .error failure⟩) ∨
    (∃ text failure, sourceText source loaded = .ok text ∧ heldRequest source loaded = .error failure ∧
      ((∃ e, failure = .notJson source e) ∨ ∃ e, failure = .notRequest e) ∧
      outcome = ⟨[readRecord source text], .error failure⟩) ∨
    ∃ text r, sourceText source loaded = .ok text ∧ heldRequest source loaded = .ok r ∧
      outcome = ⟨readRecord source text :: decodedRecord r :: command.answerLog r, .ok (command.answer compact r)⟩ := by
  intro outcome
  unfold outcome run
  cases htext : sourceText source loaded with
  | error failure => exact Or.inl ⟨failure, rfl, by rw [heldRequest, htext]; rfl, rfl⟩
  | ok text =>
    have hheld := heldRequest_of_sourceText htext
    cases hv : requestJson text with
    | error e =>
      rw [hv] at hheld
      exact Or.inr (Or.inl ⟨text, .notJson source e, rfl, hheld, Or.inl ⟨e, rfl⟩, by simp only [hv]⟩)
    | ok v =>
      have hdecoded : heldRequest source loaded = (Request.ofJson v).mapError .notRequest := by
        rw [hheld, hv]
        rfl
      cases hr : Request.ofJson v with
      | error e =>
        rw [hr] at hdecoded
        exact Or.inr (Or.inl ⟨text, .notRequest e, rfl, hdecoded, Or.inr ⟨e, rfl⟩, by simp only [hv, hr]⟩)
      | ok r =>
        rw [hr] at hdecoded
        exact Or.inr (Or.inr ⟨text, r, rfl, hdecoded, by simp only [hv, hr]⟩)

end Source

/-- A command answers every request, and fails where there is none. -/
theorem Command.result_run (command : Command) (compact : Bool) (source : Source) (loaded : Loaded) :
    (command.run compact source loaded).result = (heldRequest source loaded).map fun r => command.answer compact r := by
  rcases command.run_cases compact source loaded with ⟨failure, -, hheld, hrun⟩ | ⟨text, failure, -, hheld, -, hrun⟩ |
    ⟨text, r, -, hheld, hrun⟩ <;> rw [hrun, hheld] <;> rfl

/-! ## Agreement -/

/-- The shape that a document shows by its keys. -/
def documentShape? : Json → Option String
  | .obj [("filtered", _)] => some "filtered"
  | .obj [("constant_score", .obj [("query", .obj [(name, _)])])] => some name
  | _ => none

/-- The fragments that a filtered document lists. -/
def andList? : Json → Option (List Json)
  | .obj [("filtered", .obj (("filter", .obj [("and", .arr fragments)]) :: _))] => some fragments
  | _ => none

theorem documentShape?_toJson (q : Query) : documentShape? q.toJson = some q.shape := by
  cases q <;> rfl

/-- A filtered document lists as many fragments as there are filters. -/
theorem exists_andList?_query {r : Request} (h : r.query.shape = "filtered") :
    ∃ fragments, andList? r.query.toJson = some fragments ∧ fragments.length = r.filters.length := by
  by_cases hids : r.ids = []
  · by_cases hfilters : r.filters = []
    · rw [Request.query_of_text hids hfilters] at h
      split at h <;> simp [Query.shape] at h
    · rw [Request.query_of_filters hids hfilters]
      exact ⟨_, rfl, List.length_map _⟩
  · rw [Request.query_of_ids hids] at h
    simp [Query.shape] at h

/-- **The commands agree.** Whatever an operand names and whatever loading it gives, either there is no request and
every command fails with one failure in both layouts, or there is a request and no command fails in either. Then
`compile` prints a document, `body` prints an object with this document as its first member, and `check` tells the
number of filters and the shape of the document; a filtered document lists as many fragments as there are filters. -/
theorem result_run_agree (operand : Option String) (load : Source → Loaded) :
    let source := Source.ofOperand operand
    let result (command : Command) (compact : Bool) := (command.run compact source (load source)).result
    (∃ failure, heldRequest source (load source) = .error failure ∧
      ∀ command compact, result command compact = .error failure) ∨
    ∃ (r : Request) (document : Json) (shape : String) (page : Members),
      heldRequest source (load source) = .ok r ∧ documentShape? document = some shape ∧
      (shape = "filtered" → ∃ fragments, andList? document = some fragments ∧ fragments.length = r.filters.length) ∧
      ∀ compact, result .compile compact = .ok (layout compact document) ∧
        result .body compact = .ok (layout compact (.obj (("query", document) :: page))) ∧
        result .check compact =
          .ok ("valid request: " ++ toString r.filters.length ++ " filter clause(s), shape: " ++ shape) := by
  intro source result
  have hresult (command : Command) (compact : Bool) : result command compact =
      (heldRequest source (load source)).map fun r => command.answer compact r := command.result_run ..
  cases hheld : heldRequest source (load source) with
  | error failure => exact Or.inl ⟨failure, rfl, fun command compact => by rw [hresult, hheld]; rfl⟩
  | ok r =>
    have hanswer (command : Command) (compact : Bool) : result command compact = .ok (command.answer compact r) := by
      rw [hresult, hheld]
      rfl
    exact Or.inr ⟨r, r.query.toJson, r.query.shape, _, rfl, documentShape?_toJson r.query, exists_andList?_query,
      fun compact => ⟨hanswer .compile compact, hanswer .body compact, hanswer .check compact⟩⟩

/-! ## Reading back -/

/-- The text of a printable value is not blank, in either layout. -/
theorem isBlank_layout_eq_false {v : Json} (hv : v.Printable) (compact : Bool) :
    Text.isBlank (layout compact v) = false := by
  have htext (style : Style) : Text.isBlank (String.ofList (v.text style)) = false := by
    have hread := isTextOf_text style hv (Nat.le_refl v.depth)
    obtain ⟨c, cs, hcs, hc⟩ := hread.begins
    have hvalue := hread.read_append [] (by simp [EndsNumeral])
    rw [List.append_nil, hcs] at hvalue
    rw [Text.isBlank, String.toList_ofList, hcs, List.all_eq_false]
    exact ⟨c, List.mem_cons_self, by simp [(takenFirmly_of_readValue hc hvalue).1]⟩
  cases compact <;> exact htext _

/-- A printable value that is printed is read as the value, if it has no more levels than the reader takes. -/
theorem requestJson_layout_iff {v : Json} (hv : v.Printable) (compact : Bool) :
    requestJson (layout compact v) = .ok v ↔ v.depth ≤ greatestDepth := by
  rw [requestJson_of_not_isBlank (isBlank_layout_eq_false hv compact)]
  cases compact with
  | false => exact parse_text_iff hv (.indented 0)
  | true => exact parse_text_iff hv .compact

/-- **Printed documents are read back.** The document and the body of a request are read back from what the commands
print, with all members in their order, exactly where they have no more levels than the reader takes. The request need
not be one that is read from a text: its texts and field names are arbitrary, and so are its values but for doubles.
Behind its quote, a string is read up to its own end and not beyond, whatever it holds and whatever follows it. -/
theorem requestJson_answer_iff (r : Request) (hvalues : ∀ v ∈ r.values, v.Printable) :
    (∀ compact, requestJson (Command.compile.answer compact r) = .ok r.query.toJson ↔
      r.query.toJson.depth ≤ greatestDepth) ∧
    (∀ compact, requestJson (Command.body.answer compact r) = .ok (SearchBody.ofRequest r).toJson ↔
      (SearchBody.ofRequest r).toJson.depth ≤ greatestDepth) ∧
    ∀ s : String, ∃ body, stringText s = '"' :: body ∧ ∀ rest, StringLiteral.read (body ++ rest) = .ok (s, rest) :=
  ⟨requestJson_layout_iff (Request.printable_query hvalues), requestJson_layout_iff (Request.printable_body hvalues),
    fun s => ⟨_, rfl, StringLiteral.read_escaped s⟩⟩

/-- A body full of quotes, backslashes and control characters, with a field that is named like a part of the text. -/
theorem requestJson_answer_escapes :
    let value : Json := .obj [("\\\"", .arr [.str "\x00\x1f\u2028\\", .null]), ("", .obj [])]
    let least : Number := .int ⟨-9223372036854775808, by decide, by decide⟩
    let distance : Clause := .geoDistance "unit" least "k\\m" ⟨.str "\"\x7d", value⟩
    let r : Request :=
      { text := "\",\"size\":1\x7d\n\\"
        filters := [⟨.term "a\"b" value, true⟩, ⟨distance, false⟩]
        size := some 18446744073709551615 }
    (∀ v ∈ r.values, v.Printable) ∧ (SearchBody.ofRequest r).toJson.depth ≤ greatestDepth ∧
      requestJson (Command.body.answer false r) = .ok (SearchBody.ofRequest r).toJson := by
  intro value least distance r
  have hvalues : ∀ v ∈ r.values, v.Printable := by
    simp [r, Request.values, Clause.values, value, least, distance]
  have hdepth : (SearchBody.ofRequest r).toJson.depth ≤ greatestDepth := by decide
  exact ⟨hvalues, hdepth, ((requestJson_answer_iff r hvalues).2.1 false).2 hdepth⟩

/-! ## Layouts -/

theorem withoutLayout_layout (compact : Bool) (v : Json) : withoutLayout (layout compact v) = layout true v := by
  cases compact with
  | false => exact withoutLayout_text v (.indented 0)
  | true => exact withoutLayout_text v .compact

/-- **Both layouts are one document.** Without the spaces and line feeds outside of string literals, what `compile` and
`body` print for a request in either layout is what they print for it compactly. The request is arbitrary: its texts and
field names, and the values in it, of whatever depth and with doubles among them. -/
theorem withoutLayout_answer (r : Request) (compact : Bool) :
    withoutLayout (Command.compile.answer compact r) = Command.compile.answer true r ∧
      withoutLayout (Command.body.answer compact r) = Command.body.answer true r :=
  ⟨withoutLayout_layout compact r.query.toJson, withoutLayout_layout compact (SearchBody.ofRequest r).toJson⟩

end QueryDsl.CommandLine
