import QueryDsl.Proofs.Request.PartFrame

/-!
# The place of the identifiers

The identifiers of a request text are the value of a member of an object, or the third element of an array
(`IdsFrame`), which is the place of their part (`IdsFrame.part`). What else the request holds is no matter for them
(`IdsFrame.ofJson_json`), and every request with identifiers has such a place for them (`IdsFrame.exists_idsFrame`).
-/

namespace QueryDsl

open Json Checks

/-- The text of a request in which the identifiers are left open. -/
inductive IdsFrame where
  | member (f : ObjectFrame "ids")
  | element (f : Frame (elements innerDepth)) (third : f.before.length = 2)

namespace IdsFrame

/-- The text with another text for the identifiers. -/
def fill : IdsFrame → List Char → String
  | member f, value => f.fill value
  | element f _, value => f.text value

/-- The request with another value for the identifiers. -/
def json : IdsFrame → Json → Json
  | member f, v => .obj (f.membersWith v)
  | element f _, v => .arr (f.items v)

/-- Whether the text is a request, without identifiers in the place for them. -/
def IsRequest (f : IdsFrame) : Prop := ∃ r, Request.parse (f.fill ['[', ']']) = .ok r

/-- The place of the identifiers, as the place of a part. -/
def part : IdsFrame → PartFrame .ids
  | member f => .member f
  | element f third => .element f third

theorem fill_part (f : IdsFrame) (value : List Char) : f.part.fill value = f.fill value := by cases f <;> rfl

theorem json_part (f : IdsFrame) (v : Json) : f.part.json v = f.json v := by cases f <;> rfl

theorem exists_part (f : PartFrame .ids) : ∃ g : IdsFrame, g.part = f := by
  cases f with
  | member f => exact ⟨.member f, rfl⟩
  | element f place => exact ⟨.element f place, rfl⟩

variable {f : IdsFrame} {value : List Char}

theorem parse_fill {v : Json} (h : Reads (readValue innerDepth) value v) :
    Json.parse (f.fill value) = .ok (f.json v) := by
  rw [← f.fill_part, ← f.json_part]
  exact PartFrame.parse_fill h

theorem parse_fill_outOfRange (h : OutOfRange (readValue innerDepth) value) :
    ∃ line column, Json.parse (f.fill value) = .error ⟨.numberOutOfRange, line, column⟩ := by
  rw [← f.fill_part]
  exact PartFrame.parse_fill_outOfRange h

/-- Identifiers in the place of others change the identifiers of the request, and nothing else. -/
theorem ofJson_json {v : Json} {r : Request} {ids : List Json} (h : Request.ofJson (f.json v) = .ok r)
    (hids : ∀ id ∈ ids, isIdentifier id = true) :
    Request.ofJson (f.json (.arr ids)) = .ok { r with ids := ids } := by
  rw [← f.json_part] at h ⊢
  obtain ⟨p, hp, hparts⟩ := Request.ofJson_eq_ok.1 h
  obtain ⟨-, fs, hfs, rfl⟩ := Request.ofParts_eq_ok.1 hparts
  have hrest (k : RequestKey) (hk : k ≠ .ids) : Parts.element { p with ids := some ids } k = p.element k := by
    cases k <;> first | rfl | exact absurd rfl hk
  have hform : Parts.HasForm { p with ids := some ids } (f.part.json (.arr ids)) :=
    PartFrame.hasForm_update (by decide) hp hrest
  exact Request.ofJson_eq_ok.2 ⟨_, hform, Request.ofParts_eq_ok.2 ⟨hids, fs, hfs, rfl⟩⟩

theorem reads_empty : Reads (readValue innerDepth) ['[', ']'] (.arr []) :=
  (elements (innerDepth - 1)).reads_text .nil ⟨[], by simp⟩ ⟨[], by simp⟩

/-- A frame is known by its value. -/
theorem isRequest_of_ofJson {r : Request} (h : Request.ofJson (f.json (.arr [])) = .ok r) : f.IsRequest :=
  ⟨r, by rw [Request.parse, parse_fill reads_empty]; exact h⟩

/-- The request with some identifiers in their place. -/
theorem IsRequest.parse_fill {ids : List Json} (hf : f.IsRequest) (h : Reads (readValue innerDepth) value (.arr ids))
    (hids : ∀ id ∈ ids, isIdentifier id = true) : ∃ r, Request.parse (f.fill value) = .ok r ∧ r.ids = ids := by
  obtain ⟨r, hr⟩ := hf
  rw [Request.parse, IdsFrame.parse_fill reads_empty] at hr
  refine ⟨{ r with ids := ids }, ?_, rfl⟩
  rw [Request.parse, IdsFrame.parse_fill h]
  exact ofJson_json hr hids

/-! ## Every request with identifiers -/

theorem element_ids_of_ids_ne_nil {p : Parts} {fs : List Filter} (h : (p.request fs).ids ≠ []) :
    p.element .ids = .arr (p.request fs).ids := by
  cases hids : p.ids with
  | none => exact absurd (by simp [Parts.request, hids]) h
  | some ids => simp [Parts.element, Parts.request, hids]

/-- **Every request with identifiers has a place for them.** -/
theorem exists_idsFrame {s : String} {r : Request} (h : Request.parse s = .ok r) (hids : r.ids ≠ []) :
    ∃ (f : IdsFrame) (value : List Char), s = f.fill value ∧ f.IsRequest ∧
      Reads (readValue innerDepth) value (.arr r.ids) := by
  unfold Request.parse at h
  cases hs : Json.parse s with
  | error e =>
    rw [hs] at h
    cases h
  | ok v =>
    rw [hs] at h
    dsimp only at h
    obtain ⟨p, hp, hparts⟩ := Request.ofJson_eq_ok.1 h
    obtain ⟨-, fs, -, rfl⟩ := Request.ofParts_eq_ok.1 hparts
    have helem := element_ids_of_ids_ne_nil hids
    have hne : p.element .ids ≠ .null := by simp [helem]
    obtain ⟨g, value, hfill, hvalue, hg⟩ := PartFrame.exists_place (by decide) hs hp hne
    obtain ⟨f, rfl⟩ := exists_part g
    rw [f.json_part, helem] at hg
    rw [f.fill_part] at hfill
    exact ⟨f, value, hfill, isRequest_of_ofJson (ofJson_json (hg ▸ h) (by simp)), helem ▸ hvalue⟩

end IdsFrame

end QueryDsl
