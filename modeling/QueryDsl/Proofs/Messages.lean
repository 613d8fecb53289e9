import QueryDsl.Proofs.Clause.Precedence
import QueryDsl.Proofs.Clause.Respelling
import QueryDsl.Proofs.Request.Parts

/-!
# What a message tells

The wording of an error puts names between fixed words as they are, and a name may be any text, with blanks and
backquotes in it. Errors made by hand can be worded alike. The errors that decoding gives cannot (`message_inj`): where
a name comes from the input, the other names of the error are such that it can be found again (`QueryError.Legible`).
-/

namespace QueryDsl

open Checks

/-- The mark around the name of a field in a message. -/
def backquote : Char := '\x60'

/-! ## Texts cut at a mark -/

section Marks

variable {c : Char} {cs xs ys us vs : List Char} {s t u v mark : String}

/-- A list is cut at the first place of a character in one way. -/
theorem append_cons_inj (hx : c ∉ xs) (hy : c ∉ ys) (h : xs ++ c :: us = ys ++ c :: vs) : xs = ys ∧ us = vs := by
  rcases List.append_eq_append_iff.1 h with ⟨as, rfl, hrest⟩ | ⟨as, rfl, hrest⟩ <;>
    cases as with
    | nil => simpa [eq_comm] using hrest
    | cons a as =>
      obtain ⟨rfl, -⟩ := List.cons.inj hrest
      simp at hx hy

/-- Texts that are equal are equal in front of a mark and behind it, if what is in front lacks its first character. -/
theorem eq_and_eq_of_mark (hmark : mark.toList = c :: cs) (hs : c ∉ s.toList) (ht : c ∉ t.toList)
    (h : s ++ mark ++ u = t ++ mark ++ v) : s = t ∧ u = v := by
  have hchars := congrArg String.toList h
  simp only [String.toList_append, hmark, List.append_assoc, List.cons_append] at hchars
  obtain ⟨hst, huv⟩ := append_cons_inj hs ht hchars
  exact ⟨String.toList_inj.1 hst, String.toList_inj.1 (List.append_cancel_left huv)⟩

/-- Texts that are equal are equal in front of a mark and behind it, if what is behind lacks its last character. -/
theorem eq_and_eq_of_last_mark (hmark : mark.toList = cs ++ [c]) (hu : c ∉ u.toList) (hv : c ∉ v.toList)
    (h : s ++ mark ++ u = t ++ mark ++ v) : s = t ∧ u = v := by
  have hchars := congrArg (fun text : String => text.toList.reverse) h
  simp only [String.toList_append, hmark, List.reverse_append, List.append_assoc, List.singleton_append,
    List.reverse_cons] at hchars
  obtain ⟨huv, hst⟩ := append_cons_inj (by simpa using hu) (by simpa using hv) hchars
  refine ⟨String.toList_inj.1 ?_, String.toList_inj.1 (List.reverse_inj.1 huv)⟩
  exact List.reverse_inj.1 (List.append_cancel_left hst)

end Marks

/-! ## Errors that their messages tell apart -/

namespace QueryError

variable {d e : QueryError} {kind other field name expected wanted : String}

/-- The name of a kind has no blank, and where the type of a field is wrong the name of the field has no backquote. A
kind that does not exist, a field that means nothing and a reason may be any text. -/
def Legible : QueryError → Prop
  | unsupportedKind _ => True
  | missingField kind _ => ' ' ∉ kind.toList
  | invalidField kind field _ => ' ' ∉ kind.toList ∧ backquote ∉ field.toList
  | unknownField kind _ => ' ' ∉ kind.toList
  | invalidRequest _ => True

theorem message_unsupportedKind (kind : String) :
    (unsupportedKind kind).message = "Unsupported filter clause kind: " ++ kind := rfl

theorem message_missingField (kind field : String) : (missingField kind field).message =
    "Malformed " ++ (kind ++ " clause: " ++ ("missing field `" ++ (field ++ "`"))) := by
  show "Malformed " ++ kind ++ (" clause: " ++ "missing field `") ++ field ++ "`" = _
  simp only [String.append_assoc]

theorem message_invalidField (kind field expected : String) : (invalidField kind field expected).message =
    "Malformed " ++ (kind ++ " clause: " ++ ("field `" ++ (field ++ "` must be " ++ expected))) := by
  show "Malformed " ++ kind ++ (" clause: " ++ "field `") ++ field ++ "` must be " ++ expected = _
  simp only [String.append_assoc]

theorem message_unknownField (kind field : String) : (unknownField kind field).message =
    "Unknown field `" ++ (field ++ "` in " ++ kind ++ " clause") := by
  show "Unknown field `" ++ field ++ "` in " ++ kind ++ " clause" = _
  simp only [String.append_assoc]

theorem message_invalidRequest (reason : String) :
    (invalidRequest reason).message = "Invalid query request: " ++ reason := rfl

/-- The first letters of a message. -/
def opening : QueryError → List Char
  | unsupportedKind _ => ['U', 'n', 's']
  | missingField _ _ => ['M', 'a', 'l']
  | invalidField _ _ _ => ['M', 'a', 'l']
  | unknownField _ _ => ['U', 'n', 'k']
  | invalidRequest _ => ['I', 'n', 'v']

theorem take_message (e : QueryError) : e.message.toList.take 3 = e.opening := by
  cases e with
  | unsupportedKind kind => simp [message_unsupportedKind, opening]
  | missingField kind field => simp [message_missingField, opening]
  | invalidField kind field expected => simp [message_invalidField, opening]
  | unknownField kind field => simp [message_unknownField, opening]
  | invalidRequest reason => simp [message_invalidRequest, opening]

/-- What follows the name of the kind in a message about a clause that is malformed. -/
theorem malformed_inj {rest rest' : String} (hkind : ' ' ∉ kind.toList) (hother : ' ' ∉ other.toList)
    (h : "Malformed " ++ (kind ++ " clause: " ++ rest) = "Malformed " ++ (other ++ " clause: " ++ rest')) :
    kind = other ∧ rest = rest' := by
  have hmark : " clause: ".toList = ' ' :: "clause: ".toList := rfl
  exact eq_and_eq_of_mark hmark hkind hother ((String.append_right_inj _).1 h)

/-- A missing field and one of the wrong type are not worded alike. -/
theorem message_missingField_ne (hkind : ' ' ∉ kind.toList) (hother : ' ' ∉ other.toList) :
    (missingField kind field).message ≠ (invalidField other name wanted).message := by
  intro h
  rw [message_missingField, message_invalidField] at h
  have hchars := congrArg String.toList (malformed_inj hkind hother h).2
  simp at hchars

/-- Legible errors that are worded alike are the same. -/
theorem eq_of_message_eq (hd : d.Legible) (he : e.Legible) (h : d.message = e.message) : d = e := by
  have hopening : d.opening = e.opening := by rw [← take_message, ← take_message, h]
  cases d with
  | unsupportedKind kind =>
    cases e with
    | unsupportedKind other =>
      rw [message_unsupportedKind, message_unsupportedKind, String.append_right_inj] at h
      rw [h]
    | _ => simp [opening] at hopening
  | missingField kind field =>
    cases e with
    | missingField other name =>
      rw [message_missingField, message_missingField] at h
      obtain ⟨rfl, hrest⟩ := malformed_inj hd he h
      rw [String.append_right_inj, String.append_left_inj] at hrest
      rw [hrest]
    | invalidField other name wanted => exact absurd h (message_missingField_ne hd he.1)
    | _ => simp [opening] at hopening
  | invalidField kind field expected =>
    cases e with
    | missingField other name => exact absurd h.symm (message_missingField_ne he hd.1)
    | invalidField other name wanted =>
      rw [message_invalidField, message_invalidField] at h
      obtain ⟨rfl, hrest⟩ := malformed_inj hd.1 he.1 h
      rw [String.append_right_inj] at hrest
      have hmark : "` must be ".toList = backquote :: " must be ".toList := rfl
      obtain ⟨rfl, rfl⟩ := eq_and_eq_of_mark hmark hd.2 he.2 hrest
      rfl
    | _ => simp [opening] at hopening
  | unknownField kind field =>
    cases e with
    | unknownField other name =>
      rw [message_unknownField, message_unknownField, String.append_right_inj, String.append_left_inj] at h
      have hmark : "` in ".toList = "` in".toList ++ [' '] := rfl
      obtain ⟨rfl, rfl⟩ := eq_and_eq_of_last_mark hmark hd he h
      rfl
    | _ => simp [opening] at hopening
  | invalidRequest reason =>
    cases e with
    | invalidRequest other =>
      rw [message_invalidRequest, message_invalidRequest, String.append_right_inj] at h
      rw [h]
    | _ => simp [opening] at hopening

end QueryError

/-! ## Errors of the decoders -/

variable {ms : Members} {kind : ClauseKind} {v w : Json} {d e : QueryError}

theorem blank_not_mem_name (kind : ClauseKind) : ' ' ∉ kind.name.toList := by
  cases kind <;> decide

theorem backquote_not_mem_of_mem_requiredFields {field : String} (h : field ∈ kind.requiredFields) :
    backquote ∉ field.toList := by
  revert field
  cases kind <;> decide

theorem Members.backquote_not_mem_choose {first second : String}
    (hkeys : ∀ key ∈ [first, second], backquote ∉ key.toList) : backquote ∉ (ms.choose first second).toList :=
  hkeys _ choose_mem

theorem PointFault.legible (h : PointFault ms e) : e.Legible := by
  have hname : ' ' ∉ "geo_distance".toList := blank_not_mem_name .geoDistance
  cases h with
  | noLatitude _ => exact hname
  | noLongitude _ _ => exact hname
  | strayCoordinate _ _ _ _ _ => exact hname

theorem FieldFault.legible {field : String} (hfield : field ∈ kind.requiredFields) (h : FieldFault kind field v e) :
    e.Legible := by
  cases h with
  | wrongType _ _ => exact ⟨blank_not_mem_name kind, backquote_not_mem_of_mem_requiredFields hfield⟩
  | badPoint hpoint => exact hpoint.legible

/-- Whatever stage a clause violates, the error is legible. -/
theorem Members.FirstFault.legible (h : ms.FirstFault e) : e.Legible := by
  have hunknown : ' ' ∉ "<unknown>".toList := by decide
  cases h with
  | noKind _ _ => exact hunknown
  | kindNotText _ _ => exact ⟨hunknown, backquote_not_mem_choose (by decide)⟩
  | noSuchKind _ _ => trivial
  | strayKey _ _ _ _ => exact blank_not_mem_name _
  | negationNotFlag _ _ _ _ _ => exact ⟨blank_not_mem_name _, backquote_not_mem_choose (by decide)⟩
  | fieldMissing _ _ _ _ _ _ => exact blank_not_mem_name _
  | wrongValue _ _ _ _ hfields _ _ hfault => exact hfault.legible (by rw [hfields]; simp)

theorem Filter.legible_of_ofJson (h : ofJson v = .error e) : e.Legible := by
  cases v with
  | obj ms => exact (ofMembers_eq_error_iff_firstFault.1 h).legible
  | _ =>
    cases h
    trivial

/-- A request is refused for a reason of its own, or with the error of one of its filters. -/
theorem Request.legible_of_ofJson (h : ofJson v = .error e) : e.Legible := by
  unfold ofJson at h
  split at h
  · next hdraft =>
    cases h
    obtain ⟨reason, rfl⟩ := Draft.ofJson_eq_error hdraft
    trivial
  · rcases bind_eq_error.1 h with hids | ⟨-, -, hrest⟩
    · obtain ⟨-, -, -, -, -, -, rfl⟩ := checkIds_eq_error.1 hids
      trivial
    · obtain ⟨-, f, -, -, -, hf⟩ := decodeFilters_eq_error.1 (map_eq_error.1 hrest)
      exact Filter.legible_of_ofJson hf

/-- **The message of an error tells the error.** If two values are refused, each as a request or as a filter, and the
errors are worded alike, then they are the same error: the same sort, with the same kind, field and expected type. -/
theorem message_inj (hd : Request.ofJson v = .error d ∨ Filter.ofJson v = .error d)
    (he : Request.ofJson w = .error e ∨ Filter.ofJson w = .error e) (h : d.message = e.message) : d = e :=
  QueryError.eq_of_message_eq (hd.elim Request.legible_of_ofJson Filter.legible_of_ofJson)
    (he.elim Request.legible_of_ofJson Filter.legible_of_ofJson) h

/-- A key that means nothing may read like the end of another message. A request and a filter that are refused with one
text are refused with one error. -/
theorem message_inj_copied_text :
    let key := "x` in term clause"
    let v : Json := .obj [("filters", .arr [.obj [("kind", .str "exists"), (key, .null)]])]
    let w : Json := .obj [(key, .bool true), ("type", .str "exists"), ("field", .null)]
    let text := "Unknown field `x` in term clause` in exists clause"
    ∃ d e, Request.ofJson v = .error d ∧ Filter.ofJson w = .error e ∧ d.message = text ∧ e.message = text ∧ d = e := by
  intro key v w text
  obtain ⟨d, hd, hdtext⟩ : ∃ d, Request.ofJson v = .error d ∧ d.message = text := ⟨_, rfl, rfl⟩
  obtain ⟨e, he, hetext⟩ : ∃ e, Filter.ofJson w = .error e ∧ e.message = text := ⟨_, rfl, rfl⟩
  exact ⟨d, e, hd, he, hdtext, hetext, message_inj (Or.inl hd) (Or.inr he) (hdtext.trans hetext.symm)⟩

/-- Errors that no decoder gives may share a message. -/
example : QueryError.message (.missingField "x" "y` clause: missing field `z") =
    QueryError.message (.missingField "x clause: missing field `y`" "z") := rfl

end QueryDsl
