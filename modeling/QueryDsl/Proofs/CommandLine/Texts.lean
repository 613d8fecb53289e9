import QueryDsl.Proofs.CommandLine.Answers

/-!
# The command line and the reader of requests

The commands and `Request.parse` read one text by different ways. They part on blank texts alone, which are empty
requests to the commands and no requests to the reader (`result_run_text`); elsewhere the commands answer the request
that is read, or fail for the reason for which it is not read. What makes a text blank is White_Space, but around a
value only the blanks of JSON are passed over.
-/

namespace QueryDsl.CommandLine

open Checks Json

variable {source : Source} {text : String}

theorem heldRequest_toUTF8 (source : Source) (text : String) : heldRequest source (.ok text.toUTF8) =
    (requestJson text).mapError (.notJson source) >>= fun v => (Request.ofJson v).mapError .notRequest :=
  heldRequest_of_sourceText (sourceText_eq_ok.2 rfl)

/-- A text that is JSON holds the request that the JSON is. -/
theorem heldRequest_of_parse {v : Json} (h : parse text = .ok v) :
    heldRequest source (.ok text.toUTF8) = (Request.ofJson v).mapError .notRequest := by
  rw [heldRequest_toUTF8, requestJson_of_not_isBlank (isBlank_eq_false_of_parse h), h]
  rfl

/-- A text that is neither JSON nor blank holds no request. -/
theorem heldRequest_of_parse_error {e : SyntaxError} (hblank : Text.isBlank text = false) (h : parse text = .error e) :
    heldRequest source (.ok text.toUTF8) = .error (.notJson source e) := by
  rw [heldRequest_toUTF8, requestJson_of_not_isBlank hblank, h]
  rfl

/-- A blank text holds the request that an empty object is. -/
theorem heldRequest_of_isBlank (h : Text.isBlank text = true) :
    heldRequest source (.ok text.toUTF8) = heldRequest source (.ok "\x7b\x7d".toUTF8) := by
  rw [heldRequest_toUTF8, requestJson_of_isBlank h, heldRequest_of_parse (v := .obj []) (by rfl)]
  rfl

/-- A blank text is no request, since it is not JSON. -/
theorem exists_parse_error_of_isBlank (h : Text.isBlank text = true) :
    ∃ reason, Request.parse text = .error (.invalidRequest reason) := by
  cases hparse : parse text with
  | ok v =>
    rw [isBlank_eq_false_of_parse hparse] at h
    cases h
  | error e => exact ⟨_, Request.parse_eq_error.2 (Or.inl ⟨e, hparse, rfl⟩)⟩

/-- White space that is no blank is in the way of a value, also at the ends of the text. -/
theorem exists_parse_error_of_margins {front core back : List Char} (htext : text.toList = front ++ core ++ back)
    (hwhite : ∀ c ∈ front ++ back, Text.isWhiteSpace c = true) (hother : ∃ c ∈ front ++ back, isBlank c = false) :
    ∃ e, parse text = .error e := by
  cases hparse : parse text with
  | ok v =>
    obtain ⟨c, hc, hcblank⟩ := hother
    rw [List.forall_mem_append] at hwhite
    rw [isBlank_of_parse hparse htext hwhite.1 hwhite.2 c hc] at hcblank
    cases hcblank
  | error e => exact ⟨e, rfl⟩

/-- **The commands read what the reader reads.** A text that is blank in the sense of Unicode is no request, but to the
commands it is the empty object. On every other text the commands answer the request that is read; where none is read,
they fail with the error itself if the text is JSON, and else with a chain that names the source and the reason. White
space at the ends of a text is not dropped before it is read: where some of it is no blank, the text is not JSON. -/
theorem result_run_text (source : Source) (text : String) :
    let result (text : String) (command : Command) (compact : Bool) :=
      (command.run compact source (.ok text.toUTF8)).result
    (Text.isBlank text = true → (∃ reason, Request.parse text = .error (.invalidRequest reason)) ∧
      ∀ command compact, result text command compact = result "\x7b\x7d" command compact) ∧
    (Text.isBlank text = false →
      (∀ r, Request.parse text = .ok r → ∀ compact,
        result text .compile compact = .ok (layout compact r.query.toJson) ∧
        result text .body compact = .ok (layout compact (SearchBody.ofRequest r).toJson)) ∧
      ∀ e, Request.parse text = .error e → ∀ command compact,
        (∀ v, parse text = .ok v → result text command compact = .error (.notRequest e)) ∧
        ((∀ v, parse text ≠ .ok v) → ∃ failure reason, result text command compact = .error failure ∧
          e = .invalidRequest reason ∧
          failure.chain = ("Request in " ++ source.name ++ " is not valid JSON", some reason))) ∧
    (Text.isBlank text = false → ∀ front core back, text.toList = front ++ core ++ back →
      (∀ c ∈ front ++ back, Text.isWhiteSpace c = true) → (∃ c ∈ front ++ back, isBlank c = false) →
      ∃ e, parse text = .error e ∧ ∀ command compact, result text command compact = .error (.notJson source e)) := by
  intro result
  have hresult (text : String) (command : Command) (compact : Bool) : result text command compact =
      (heldRequest source (.ok text.toUTF8)).map fun r => command.answer compact r := command.result_run ..
  refine ⟨fun hblank => ?_, fun hblank => ⟨fun r hr compact => ?_, fun e he command compact => ?_⟩,
    fun hblank front core back htext hwhite hother => ?_⟩
  · refine ⟨exists_parse_error_of_isBlank hblank, fun command compact => ?_⟩
    rw [hresult, hresult, heldRequest_of_isBlank hblank]
  · obtain ⟨v, hv, hr⟩ := Request.parse_eq_ok.1 hr
    rw [hresult, hresult, heldRequest_of_parse hv, hr]
    exact ⟨rfl, rfl⟩
  · rw [hresult]
    rcases Request.parse_eq_error.1 he with ⟨s, hs, rfl⟩ | ⟨v, hv, hr⟩
    · refine ⟨fun v hv => ?_, fun _ => ⟨.notJson source s, s.message, ?_, rfl, rfl⟩⟩
      · rw [hs] at hv
        cases hv
      · rw [heldRequest_of_parse_error hblank hs]
        rfl
    · refine ⟨fun _ _ => ?_, fun hnot => absurd hv (hnot v)⟩
      rw [heldRequest_of_parse hv, hr]
      rfl
  · obtain ⟨e, he⟩ := exists_parse_error_of_margins htext hwhite hother
    refine ⟨e, he, fun command compact => ?_⟩
    rw [hresult, heldRequest_of_parse_error hblank he]
    rfl

/-- A no-break space is the empty object alone, and in front of an object it is in the way. -/
theorem result_run_text_no_break_space :
    let result (text : String) := (Command.compile.run true (.file "request.json") (.ok text.toUTF8)).result
    result "\u00a0\n" = result "\x7b\x7d" ∧
      ∃ e, result "\u00a0\x7b\x7d" = .error (.notJson (.file "request.json") e) := by
  intro result
  constructor
  · exact ((result_run_text (.file "request.json") "\u00a0\n").1 (by decide)).2 .compile true
  · have hmargins := (result_run_text (.file "request.json") "\u00a0\x7b\x7d").2.2 (by decide)
    have hwhite : ∀ c ∈ ['\u00a0'] ++ [], Text.isWhiteSpace c = true := List.forall_mem_singleton.2 (by decide)
    obtain ⟨e, -, he⟩ := hmargins ['\u00a0'] ['{', '}'] [] (by decide) hwhite ⟨'\u00a0', by simp, by decide⟩
    exact ⟨e, he .compile true⟩

end QueryDsl.CommandLine
