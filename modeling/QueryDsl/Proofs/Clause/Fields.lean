import QueryDsl.Proofs.Clause.Stages

/-!
# The stage that reads the fields

Points, values of a type, and the whole of `decodeClause`. The seven readers are one check for each required field, in
order (`map_decodeClause`, with `checkField` for a field); so there is a clause when every field holds what it should
(`exists_decodeClause_iff`), it holds the values of its fields (`carries_of_decodeClause`), and else the first field
with a wrong value decides the error (`decodeClause_eq_error`). Nothing but the fields is looked at
(`decodeClause_congr`).
-/

namespace QueryDsl

open Checks

variable {ms : Members} {kind : ClauseKind}

/-! ## Points -/

theorem coordinate_eq_presentOr (ms : Members) (name : String) :
    coordinate ms name = presentOr (.missingField "geo_distance" ("point." ++ name)) (ms.lookup name) := rfl

theorem coordinate_eq_ok {name : String} {v : Json} :
    coordinate ms name = .ok v ↔ ms.lookup name = some v ∧ v ≠ .null := by
  rw [coordinate_eq_presentOr, presentOr_eq_ok]

theorem coordinate_eq_error {name : String} {e : QueryError} :
    coordinate ms name = .error e ↔ ¬ ms.Present name ∧ e = .missingField "geo_distance" ("point." ++ name) := by
  rw [coordinate_eq_presentOr, presentOr_eq_error, Members.Present]

/-- The coordinates are taken first, then every key is checked. -/
theorem decodePoint_eq (ms : Members) : decodePoint ms = do
    let lat ← coordinate ms "lat"
    let lon ← coordinate ms "lon"
    forM ms (passes (fun m => m.1 == "lat" || m.1 == "lon") fun m => .unknownField "geo_distance" ("point." ++ m.1))
    return ⟨lat, lon⟩ := by
  simp only [← elim_find?_eq_forM, decodePoint]
  have htest : (fun m : String × Json => !(m.1 == "lat" || m.1 == "lon")) =
      fun m => m.1 != "lat" && m.1 != "lon" := by
    funext m
    simp [bne]
  rw [htest]
  cases ms.find? _ <;> rfl

theorem strayCoordinates_eq_ok {error : String × Json → QueryError} {u : Unit} :
    forM ms (passes (fun m => m.1 == "lat" || m.1 == "lon") error) = .ok u ↔ ∀ m ∈ ms, m.1 = "lat" ∨ m.1 = "lon" :=
  forM_eq_ok fun m _ => passes_eq_ok.trans (by simp)

theorem decodePoint_eq_ok {p : GeoPoint} : decodePoint ms = .ok p ↔
    ms.IsPoint ∧ ms.lookup "lat" = some p.lat ∧ ms.lookup "lon" = some p.lon := by
  simp only [decodePoint_eq, bind_eq_ok, coordinate_eq_ok, strayCoordinates_eq_ok]
  constructor
  · rintro ⟨lat, hlat, lon, hlon, -, hkeys, hp⟩
    cases hp
    exact ⟨⟨⟨lat, hlat⟩, ⟨lon, hlon⟩, hkeys⟩, hlat.1, hlon.1⟩
  · rintro ⟨⟨⟨lat, hlat⟩, ⟨lon, hlon⟩, hkeys⟩, hplat, hplon⟩
    have hlat' : lat = p.lat := Option.some.inj (hlat.1.symm.trans hplat)
    have hlon' : lon = p.lon := Option.some.inj (hlon.1.symm.trans hplon)
    subst hlat' hlon'
    exact ⟨_, hlat, _, hlon, (), hkeys, rfl⟩

theorem decodePoint_eq_error {e : QueryError} : decodePoint ms = .error e ↔ PointFault ms e := by
  simp only [decodePoint_eq, bind_eq_error, coordinate_eq_ok, coordinate_eq_error]
  constructor
  · rintro (⟨hlat, rfl⟩ | ⟨lat, hlat, ⟨hlon, rfl⟩ | ⟨lon, hlon, h | ⟨-, -, h⟩⟩⟩)
    · exact .noLatitude hlat
    · exact .noLongitude ⟨lat, hlat⟩ hlon
    · rw [forM_eq_error (fun m _ => passes_eq_ok) fun m _ => passes_eq_error] at h
      obtain ⟨before, m, after, hms, hb, hm, rfl⟩ := h
      exact .strayCoordinate ⟨lat, hlat⟩ ⟨lon, hlon⟩ hms (by simpa using hb) (by simpa using hm)
    · cases h
  · rintro (hlat | ⟨⟨lat, hlat⟩, hlon⟩ | ⟨⟨lat, hlat⟩, ⟨lon, hlon⟩, hms, hb, hm⟩)
    · exact Or.inl ⟨hlat, rfl⟩
    · exact Or.inr ⟨lat, hlat, Or.inl ⟨hlon, rfl⟩⟩
    · refine Or.inr ⟨lat, hlat, Or.inr ⟨lon, hlon, Or.inl ?_⟩⟩
      rw [forM_eq_error (fun m _ => passes_eq_ok) fun m _ => passes_eq_error]
      exact ⟨_, _, _, hms, by simpa using hb, by simpa using hm, rfl⟩

/-! ## Typed fields -/

namespace FieldType

/-- What a value of a type is read as. -/
abbrev View : FieldType → Type
  | text => String
  | number => Number
  | flag => Bool
  | list => List Json
  | object => Members

/-- Reads a value of a type. -/
def view : (type : FieldType) → Json → Option type.View
  | text => Json.str?
  | number => Json.num?
  | flag => Json.bool?
  | list => Json.arr?
  | object => Json.obj?

theorem holds_iff {type : FieldType} {v : Json} : type.Holds v ↔ ∃ a, type.view v = some a := by
  cases type <;> simp [Holds, view]

/-- What is checked of a value once it is read. -/
def finish : (type : FieldType) → type.View → Except QueryError Unit
  | object, ms => (decodePoint ms).map fun _ => ()
  | _, _ => pure ()

end FieldType

/-- Only `point` asks for an object. -/
theorem fieldType?_eq_object {field : String} : fieldType? field = some .object ↔ field = "point" := by
  unfold fieldType?
  split <;> simp_all

theorem typedField_eq_ok {field expected : String} {view : Json → Option α} {a : α} :
    typedField kind ms field expected view = .ok a ↔ ∃ v, ms.lookup field = some v ∧ v ≠ .null ∧ view v = some a := by
  simp only [← and_assoc, ← @fieldValue_eq_ok ms kind, typedField]
  cases fieldValue kind ms field with
  | error e => simp
  | ok v => cases h : view v <;> simp [h]

/-- The check of the value of a field. -/
def checkValue (kind : ClauseKind) (field : String) (v : Json) : Except QueryError Unit :=
  match fieldType? field with
  | none => .ok ()
  | some type =>
    match type.view v with
    | none => .error (.invalidField kind.name field type.expected)
    | some a => type.finish a

/-- The check of a field. -/
def checkField (kind : ClauseKind) (ms : Members) (field : String) : Except QueryError Unit :=
  fieldValue kind ms field >>= checkValue kind field

theorem checkField_eq (kind : ClauseKind) (ms : Members) (field : String) : checkField kind ms field =
    match fieldType? field with
    | none => (fieldValue kind ms field).map fun _ => ()
    | some type => typedField kind ms field type.expected type.view >>= type.finish := by
  unfold checkField checkValue typedField
  cases fieldType? field with
  | none => cases fieldValue kind ms field <;> rfl
  | some type =>
    cases fieldValue kind ms field with
    | error e => rfl
    | ok v =>
      simp only [bind, Except.bind]
      cases type.view v <;> rfl

/-- A clause is decoded by checking one field after the other. -/
theorem map_decodeClause (kind : ClauseKind) (ms : Members) :
    (decodeClause kind ms).map (fun _ => ()) = forM kind.requiredFields (checkField kind ms) := by
  -- the laws of monads that bring both sides to one form speak of `<$>`
  have map_eq {α β : Type} (f : α → β) (x : Except QueryError α) : x.map f = f <$> x := rfl
  cases kind <;>
    simp [decodeClause, ClauseKind.requiredFields, checkField_eq, fieldType?, FieldType.expected, FieldType.view,
      FieldType.finish, map_eq]

/-- The values of a decoded clause stand under its own fields. -/
theorem carries_of_decodeClause {c : Clause} (h : decodeClause kind ms = .ok c) : c.kind = kind ∧ ms.Carries c := by
  cases kind <;>
    simp only [decodeClause, bind_eq_ok, pure_eq_ok, typedField_eq_ok, fieldValue_eq_ok, decodePoint_eq_ok,
      Json.str?_eq_some, Json.num?_eq_some, Json.bool?_eq_some, Json.arr?_eq_some, Json.obj?_eq_some] at h
  case term =>
    obtain ⟨field, ⟨_, hf, -, rfl⟩, value, ⟨hv, -⟩, rfl⟩ := h
    exact ⟨rfl, hf, hv⟩
  case terms =>
    obtain ⟨field, ⟨_, hf, -, rfl⟩, values, ⟨_, hv, -, rfl⟩, rfl⟩ := h
    exact ⟨rfl, hf, hv⟩
  case range =>
    obtain ⟨field, ⟨_, hf, -, rfl⟩, lower, ⟨hl, -⟩, upper, ⟨hu, -⟩, il, ⟨_, hil, -, rfl⟩, iu, ⟨_, hiu, -, rfl⟩,
      rfl⟩ := h
    exact ⟨rfl, hf, hl, hu, hil, hiu⟩
  case geoDistance =>
    obtain ⟨field, ⟨_, hf, -, rfl⟩, distance, ⟨_, hd, -, rfl⟩, unit, ⟨_, hu, -, rfl⟩, coordinates, ⟨_, hp, -, rfl⟩,
      point, ⟨-, hlat, hlon⟩, rfl⟩ := h
    exact ⟨rfl, hf, hd, hu, coordinates, hp, hlat, hlon⟩
  case docType =>
    obtain ⟨value, ⟨_, hv, -, rfl⟩, rfl⟩ := h
    exact ⟨rfl, hv⟩
  case fieldExists =>
    obtain ⟨field, ⟨_, hf, -, rfl⟩, rfl⟩ := h
    exact ⟨rfl, hf⟩
  case fieldMissing =>
    obtain ⟨field, ⟨_, hf, -, rfl⟩, rfl⟩ := h
    exact ⟨rfl, hf⟩

/-- An object carries at most one clause of a kind. -/
theorem Members.Carries.unique {c d : Clause} (hc : ms.Carries c) (hd : ms.Carries d) (hk : c.kind = d.kind) :
    c = d := by
  cases c with
  | range f a =>
    cases d <;> simp only [Clause.kind, reduceCtorEq] at hk
    case range g b =>
      obtain ⟨hf, hl, hu, hil, hiu⟩ := hc
      cases a
      cases b
      simp_all [Members.Carries]
  | geoDistance f e u p =>
    cases d <;> simp only [Clause.kind, reduceCtorEq] at hk
    case geoDistance g e' u' q =>
      obtain ⟨hf, he, hu, coordinates, hp, hlat, hlon⟩ := hc
      cases p
      cases q
      simp_all [Members.Carries]
  | _ => cases d <;> simp_all [Clause.kind, Members.Carries]

/-! ## The check of a field -/

section Finish

variable {field : String} {type : FieldType} {v : Json} {a : type.View}

theorem finish_eq_ok (ht : fieldType? field = some type) (hv : type.view v = some a) {u : Unit} :
    type.finish a = .ok u ↔ FieldFits field v := by
  have hh : type.Holds v := FieldType.holds_iff.2 ⟨a, hv⟩
  cases type with
  | object =>
    obtain rfl := fieldType?_eq_object.1 ht
    obtain rfl := Json.obj?_eq_some.1 hv
    simp only [FieldType.finish, map_eq_ok, decodePoint_eq_ok]
    constructor
    · rintro ⟨p, ⟨hp, -⟩, -⟩
      refine ⟨fun type h => ?_, fun ms _ h => ?_⟩
      · cases ht.symm.trans h; exact hh
      · cases h; exact hp
    · rintro ⟨-, hp⟩
      obtain ⟨⟨lat, hlat, -⟩, ⟨lon, hlon, -⟩, -⟩ := hp a rfl rfl
      exact ⟨⟨lat, lon⟩, ⟨hp a rfl rfl, hlat, hlon⟩, trivial⟩
  | _ =>
    have hp : field ≠ "point" := mt fieldType?_eq_object.2 (by simp [ht])
    simp [FieldType.finish, FieldFits, ht, hh, hp, pure_eq_ok]

theorem finish_eq_error (ht : fieldType? field = some type) (hv : type.view v = some a) {e : QueryError} :
    type.finish a = .error e ↔ FieldFault kind field v e := by
  have hh : type.Holds v := FieldType.holds_iff.2 ⟨a, hv⟩
  constructor
  · intro h
    cases type with
    | object =>
      obtain rfl := fieldType?_eq_object.1 ht
      obtain rfl := Json.obj?_eq_some.1 hv
      exact .badPoint (decodePoint_eq_error.1 (map_eq_error.1 h))
    | _ => cases h
  · rintro (⟨ht', hn⟩ | hp)
    · cases ht.symm.trans ht'
      exact absurd hh hn
    · cases ht
      obtain rfl := Json.obj.inj (Json.obj?_eq_some.1 hv)
      exact map_eq_error.2 (decodePoint_eq_error.2 hp)

end Finish

theorem checkValue_eq_ok {field : String} {v : Json} {u : Unit} :
    checkValue kind field v = .ok u ↔ FieldFits field v := by
  unfold checkValue
  cases ht : fieldType? field with
  | none =>
    have hp : field ≠ "point" := mt fieldType?_eq_object.2 (by simp [ht])
    simp [FieldFits, ht, hp]
  | some type =>
    cases hv : type.view v with
    | none => simp [FieldFits, ht, hv, FieldType.holds_iff]
    | some a =>
      simp only [hv]
      exact finish_eq_ok ht hv

theorem checkValue_eq_error {field : String} {v : Json} {e : QueryError} :
    checkValue kind field v = .error e ↔ FieldFault kind field v e := by
  unfold checkValue
  cases ht : fieldType? field with
  | none =>
    simp only [reduceCtorEq, false_iff]
    rintro (⟨ht', -⟩ | -)
    · cases ht.symm.trans ht'
    · cases ht
  | some type =>
    cases hv : type.view v with
    | none =>
      simp only [hv, Except.error.injEq]
      constructor
      · rintro rfl
        exact .wrongType ht (by simp [FieldType.holds_iff, hv])
      · rintro (⟨ht', -⟩ | hp)
        · cases ht.symm.trans ht'
          rfl
        · cases ht
          cases hv
    | some a =>
      simp only [hv]
      exact finish_eq_error ht hv

theorem checkField_eq_ok {field : String} {u : Unit} : checkField kind ms field = .ok u ↔ ms.Fits field := by
  simp only [checkField, bind_eq_ok, fieldValue_eq_ok, checkValue_eq_ok, and_assoc]
  rfl

theorem checkField_eq_error {field : String} {e : QueryError} (hp : ms.Present field) :
    checkField kind ms field = .error e ↔ ∃ v, ms.lookup field = some v ∧ FieldFault kind field v e := by
  simp only [checkField, bind_eq_error, fieldValue_eq_ok, fieldValue_eq_error, checkValue_eq_error, hp, not_true,
    false_and, false_or]
  obtain ⟨w, hw, hn⟩ := hp
  constructor
  · rintro ⟨v, ⟨hv, -⟩, h⟩
    exact ⟨v, hv, h⟩
  · rintro ⟨v, hv, h⟩
    cases hw.symm.trans hv
    exact ⟨w, ⟨hw, hn⟩, h⟩

/-- There is a clause of a kind when every required field holds what it should. -/
theorem exists_decodeClause_iff :
    (∃ c, decodeClause kind ms = .ok c) ↔ ∀ field ∈ kind.requiredFields, ms.Fits field := by
  have h : (decodeClause kind ms).map (fun _ => ()) = .ok () ↔ ∃ c, decodeClause kind ms = .ok c := by
    simp [map_eq_ok]
  rw [← h, map_decodeClause]
  exact forM_eq_ok fun field _ => checkField_eq_ok

/-- Where no required field is missing, the first one with a wrong value decides the error. -/
theorem decodeClause_eq_error (hp : ∀ field ∈ kind.requiredFields, ms.Present field) {e : QueryError} :
    decodeClause kind ms = .error e ↔
      ∃ before field after, kind.requiredFields = before ++ field :: after ∧ (∀ f ∈ before, ms.Fits f) ∧
        ∃ v, ms.lookup field = some v ∧ FieldFault kind field v e := by
  have h : (decodeClause kind ms).map (fun _ => ()) = .error e ↔ decodeClause kind ms = .error e := map_eq_error
  rw [← h, map_decodeClause]
  exact forM_eq_error (fun field _ => checkField_eq_ok) fun field hm => checkField_eq_error (hp field hm)

/-- A clause is read from the fields of its kind alone. -/
theorem decodeClause_congr {ns : Members} (h : ∀ field ∈ kind.requiredFields, ns.lookup field = ms.lookup field) :
    decodeClause kind ms = decodeClause kind ns := by
  cases kind <;> simp only [ClauseKind.requiredFields, List.forall_mem_cons] at h <;>
    simp only [decodeClause, typedField, fieldValue, h]

end QueryDsl
