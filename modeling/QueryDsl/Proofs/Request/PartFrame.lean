import QueryDsl.Proofs.Json.PrintedText
import QueryDsl.Proofs.Request.ArrayForm
import QueryDsl.Proofs.Request.ObjectForm

/-!
# The place of a part

Parts have the form of an object or of an array (`Parts.HasForm`), and what has no form is refused
(`Request.refused_of_forall_not_hasForm`). A part, the free text apart, is the value of a member or an element there,
and so it has a place in the text of the request (`PartFrame`).

- `PartFrame.element_eq`: the value in the place is the JSON of the part.
- `PartFrame.hasForm_update`, `PartFrame.hasForm_update_without`: whatever part takes the place of another one, or of
  none, the other parts stay.
- `PartFrame.exists_place`: every request has a place for each part that is not null.
-/

namespace QueryDsl

open Json Checks

/-! ## Forms -/

/-- The place of a part in the array form. -/
def RequestKey.place (key : RequestKey) : Nat := RequestKey.all.idxOf key

theorem RequestKey.getElem?_place (key : RequestKey) : RequestKey.all[key.place]? = some key := by
  cases key <;> rfl

namespace Parts

variable {p q : Parts} {key : RequestKey}

/-- The value holds the parts, as an object that has each key once or as an array. -/
def HasForm (p : Parts) : Json → Prop
  | .obj ms => (ms.map Prod.fst).Nodup ∧ p.ObjectForm ms
  | .arr xs => p.WrittenAs xs
  | _ => False

variable {before after xs : List Json} {v : Json}

/-- A part is what stands in its place, or null where the array has ended. -/
theorem WrittenAs.element_eq_getElem? (h : p.WrittenAs xs) (key : RequestKey) :
    p.element key = xs[key.place]?.getD .null := by
  obtain ⟨n, hn⟩ := h
  have hget : (xs ++ List.replicate n .null)[key.place]? = some (p.element key) := by
    rw [hn, List.getElem?_map, key.getElem?_place, Option.map_some]
  rcases Nat.lt_or_ge key.place xs.length with hlt | hge
  · rw [List.getElem?_append_left hlt] at hget
    rw [hget, Option.getD_some]
  · rw [List.getElem?_append_right hge, List.getElem?_replicate] at hget
    rw [List.getElem?_eq_none hge, Option.getD_none]
    split at hget
    · exact (Option.some.inj hget).symm
    · cases hget

theorem WrittenAs.element_eq (h : p.WrittenAs (before ++ v :: after)) (hplace : before.length = key.place) :
    p.element key = v := by
  rw [h.element_eq_getElem? key, ← hplace, List.getElem?_append_right (Nat.le_refl _), Nat.sub_self]
  rfl

/-- One part changes with the element that has its place. -/
theorem WrittenAs.update (h : p.WrittenAs (before ++ v :: after)) (hplace : before.length = key.place)
    (hrest : ∀ k, k ≠ key → q.element k = p.element k) : q.WrittenAs (before ++ q.element key :: after) := by
  obtain ⟨n, hn⟩ := h
  have hset (xs : List Json) (w : Json) :
      (before ++ v :: after ++ xs).set key.place w = before ++ w :: after ++ xs := by
    rw [← hplace, List.append_assoc, List.set_append_right _ _ (Nat.le_refl _), Nat.sub_self]
    simp
  have hmap : RequestKey.all.map q.element = (RequestKey.all.map p.element).set key.place (q.element key) := by
    cases key <;> simp only [RequestKey.all, List.map_cons, hrest, ne_eq, reduceCtorEq, not_false_eq_true] <;> rfl
  exact ⟨n, by rw [hmap, ← hn, hset]⟩

/-- A part that is not null has an element in its place. -/
theorem WrittenAs.exists_element (h : p.WrittenAs xs) (hne : p.element key ≠ .null) :
    ∃ before after, xs = before ++ p.element key :: after ∧ before.length = key.place := by
  rw [h.element_eq_getElem? key] at hne ⊢
  cases hget : xs[key.place]? with
  | none => simp [hget] at hne
  | some v =>
    obtain ⟨hlt, rfl⟩ := List.getElem?_eq_some_iff.1 hget
    refine ⟨xs.take key.place, xs.drop (key.place + 1), ?_, List.length_take_of_le (Nat.le_of_lt hlt)⟩
    rw [Option.getD_some, List.getElem_cons_drop, List.take_append_drop]

end Parts

/-- Drafts are made of the parts that a value holds. -/
theorem Draft.ofJson_eq_ok {v : Json} {p : Parts} : (∃ d, Draft.ofJson v = .ok d ∧ d.parts = p) ↔ p.HasForm v := by
  cases v with
  | obj ms => exact Draft.ofJson_obj_eq_ok
  | arr xs => exact Draft.ofJson_arr_eq_ok
  | _ => simp [Draft.ofJson, Parts.HasForm]

namespace Request

variable {v : Json}

/-- What has the form of parts is their request. -/
theorem ofJson_of_hasForm {p : Parts} (h : p.HasForm v) : ofJson v = ofParts p := by
  obtain ⟨d, hd, rfl⟩ := Draft.ofJson_eq_ok.2 h
  rw [ofJson, hd]
  rfl

theorem ofJson_eq_ok {r : Request} : ofJson v = .ok r ↔ ∃ p : Parts, p.HasForm v ∧ ofParts p = .ok r := by
  constructor
  · intro h
    cases hd : Draft.ofJson v with
    | error e => simp [ofJson, hd] at h
    | ok d =>
      have hform := Draft.ofJson_eq_ok.1 ⟨d, hd, rfl⟩
      exact ⟨d.parts, hform, (ofJson_of_hasForm hform).symm.trans h⟩
  · rintro ⟨p, hp, hr⟩
    rw [ofJson_of_hasForm hp, hr]

/-- What has the form of no parts is refused. -/
theorem refused_of_forall_not_hasForm (h : ∀ p : Parts, ¬ p.HasForm v) :
    ∃ reason, ofJson v = .error (.invalidRequest reason) := by
  rw [ofJson]
  cases hd : Draft.ofJson v with
  | ok d => exact absurd (Draft.ofJson_eq_ok.1 ⟨d, hd, rfl⟩) (h _)
  | error e =>
    obtain ⟨reason, rfl⟩ := Draft.ofJson_eq_error hd
    exact ⟨reason, rfl⟩

end Request

/-! ## Frames -/

/-- The text of a request in which the value of a part is left open. -/
inductive PartFrame (key : RequestKey) where
  | member (f : ObjectFrame key.name)
  | element (f : Frame (elements innerDepth)) (place : f.before.length = key.place)

namespace PartFrame

variable {key : RequestKey}

/-- The text with another text for the value. -/
def fill : PartFrame key → List Char → String
  | member f, value => f.fill value
  | element f _, value => f.text value

/-- The request with another value for the part. -/
def json : PartFrame key → Json → Json
  | member f, v => .obj (f.membersWith v)
  | element f _, v => .arr (f.items v)

/-- The text without the part: its member is left out, or there is a null in its place. -/
def without : PartFrame key → String
  | member f => f.without
  | element f _ => f.text ['n', 'u', 'l', 'l']

/-- The request without the part. -/
def jsonWithout : PartFrame key → Json
  | member f => .obj f.membersWithout
  | element f _ => .arr (f.items .null)

variable {f : PartFrame key} {value : List Char} {v : Json}

theorem parse_fill (h : Reads (readValue innerDepth) value v) : Json.parse (f.fill value) = .ok (f.json v) := by
  cases f with
  | member f => exact f.parse_text rfl (f.name.reads_member h)
  | element f place =>
    refine (f.parse_text rfl h).trans ?_
    rw [ItemReader.value_elements]
    rfl

theorem parse_fill_outOfRange (h : OutOfRange (readValue innerDepth) value) :
    ∃ line column, Json.parse (f.fill value) = .error ⟨.numberOutOfRange, line, column⟩ := by
  cases f with
  | member f => exact f.parse_text_outOfRange rfl (f.name.outOfRange_member h)
  | element f place => exact f.parse_text_outOfRange rfl h

theorem parse_without : Json.parse f.without = .ok f.jsonWithout := by
  cases f with
  | member f => exact f.parse_without
  | element f place =>
    have hnull : IsTextOf (readValue innerDepth) ['n', 'u', 'l', 'l'] .null :=
      isTextOf_word (by simp [words]) innerDepth
    exact parse_fill (f := element f place) (hnull.reads ⟨[], by simp⟩ ⟨[], by simp⟩)

variable {p q : Parts}

/-- The value in the place is the JSON of the part. -/
theorem element_eq (hkey : key ≠ .text) (h : p.HasForm (f.json v)) : p.element key = v := by
  cases f with
  | member f => rw [h.2.element_eq_lookup hkey, f.lookup_membersWith, Option.getD_some]
  | element f place => exact Parts.WrittenAs.element_eq h (by simpa using place)

/-- One part changes with the value in its place. -/
theorem hasForm_update (hkey : key ≠ .text) (h : p.HasForm (f.json v))
    (hrest : ∀ k, k ≠ key → q.element k = p.element k) : q.HasForm (f.json (q.element key)) := by
  cases f with
  | member f =>
    refine ⟨nodup_map_fst_putAll _, h.2.update key hkey (fun name hname => ?_) (f.lookup_membersWith _) hrest⟩
    exact f.lookup_membersWith_of_ne hname _ _
  | element f place => exact Parts.WrittenAs.update h (by simpa using place) hrest

/-- A part that is missing takes its place. -/
theorem hasForm_update_without (hkey : key ≠ .text) (h : p.HasForm f.jsonWithout)
    (hrest : ∀ k, k ≠ key → q.element k = p.element k) : q.HasForm (f.json (q.element key)) := by
  cases f with
  | member f =>
    refine ⟨nodup_map_fst_putAll _, h.2.update key hkey (fun name hname => ?_) (f.lookup_membersWith _) hrest⟩
    rw [f.lookup_membersWithout (q.element key), if_neg hname]
  | element f place => exact hasForm_update (f := element f place) hkey h hrest

/-- **Every part has its place.** The text of a value that holds parts is a frame around each part that is not null. -/
theorem exists_place (hkey : key ≠ .text) {s : String} (hs : Json.parse s = .ok v) (h : p.HasForm v)
    (hne : p.element key ≠ .null) : ∃ (f : PartFrame key) (value : List Char), s = f.fill value ∧
      Reads (readValue innerDepth) value (p.element key) ∧ f.json (p.element key) = v := by
  cases v with
  | obj ms =>
    have hlookup : ms.lookup key.name = some (p.element key) := by
      rw [h.2.element_eq_lookup hkey] at hne ⊢
      cases hms : ms.lookup key.name with
      | none => simp [hms] at hne
      | some v => rfl
    obtain ⟨f, value, hfill, hvalue, hf⟩ := exists_objectFrame hs hlookup
    exact ⟨.member f, value, hfill, hvalue, congrArg Json.obj hf⟩
  | arr xs =>
    obtain ⟨before, after, hxs, hlen⟩ := Parts.WrittenAs.exists_element h hne
    obtain ⟨f, value, hfill, hvalue, hbefore, hafter⟩ := exists_frame (hxs ▸ hs)
    refine ⟨.element f (by simpa [← hbefore] using hlen), value, hfill, hvalue, ?_⟩
    rw [json, Frame.items, hbefore, hafter, ← hxs]
  | _ => exact absurd h id

end PartFrame

end QueryDsl
