import QueryDsl.Proofs.Clause.Fields
import QueryDsl.Proofs.Json.Lookup

/-!
# The two passes over the fields

The fields of a clause are gone through twice: the first pass checks that each of them is there (`checkPresent`), the
second one reads them (`decodeClause`). The second pass looks at the required fields of the kind and at nothing else
(`reads_iff`). Behind the first pass it misses no field: what can still be wrong is the type of a field, or a coordinate
of a point (`FieldError`).

`Filter.ofMembersByIndex` decodes an object by keys that are found first and indexed afterwards, and breaks off at an
index that is not there. It never breaks off, and it is the decoder (`ofMembersByIndex_eq`).
-/

namespace QueryDsl

open Checks

variable {ms : Members} {kind : ClauseKind} {e : QueryError}

/-! ## What the second pass can refuse -/

/-- What can be wrong with a clause that has all its fields: the type of a field, or the coordinates of a point. -/
inductive FieldError (kind : ClauseKind) : QueryError → Prop
  | wrongType {field : String} {type : FieldType} : field ∈ kind.requiredFields → fieldType? field = some type →
      FieldError kind (.invalidField kind.name field type.expected)
  | noCoordinate {name : String} : kind = .geoDistance → FieldError kind (.missingField kind.name ("point." ++ name))
  | strayCoordinate {key : String} : kind = .geoDistance → FieldError kind (.unknownField kind.name ("point." ++ key))

/-- Only distances have a point. -/
theorem eq_geoDistance_of_point (h : "point" ∈ kind.requiredFields) : kind = .geoDistance := by
  revert h
  cases kind <;> decide

theorem FieldFault.fieldError {field : String} {v : Json} (hfield : field ∈ kind.requiredFields)
    (h : FieldFault kind field v e) : FieldError kind e := by
  cases h with
  | wrongType htype _ => exact .wrongType hfield htype
  | badPoint hpoint =>
    obtain rfl := eq_geoDistance_of_point hfield
    cases hpoint with
    | noLatitude _ => exact @FieldError.noCoordinate _ "lat" rfl
    | noLongitude _ _ => exact @FieldError.noCoordinate _ "lon" rfl
    | strayCoordinate _ _ _ _ _ => exact .strayCoordinate rfl

/-- The name of a field has no dot in it. -/
theorem dot_not_mem_of_mem_requiredFields {field : String} (h : field ∈ kind.requiredFields) : '.' ∉ field.toList := by
  revert field
  cases kind <;> decide

/-- No field is missing: the names of coordinates are no names of fields. -/
theorem FieldError.ne_missingField (h : FieldError kind e) {owner : String} {field : String}
    (hfield : field ∈ kind.requiredFields) : e ≠ .missingField owner field := by
  rintro rfl
  cases h with
  | noCoordinate _ => exact dot_not_mem_of_mem_requiredFields hfield (by simp)

/-- Behind the first pass the second one finds wrong types and bad coordinates only. -/
theorem fieldError_of_decodeClause (hpresent : checkPresent kind ms kind.requiredFields = .ok ())
    (h : decodeClause kind ms = .error e) : FieldError kind e := by
  obtain ⟨before, field, after, hfields, -, v, -, hfault⟩ := (decodeClause_eq_error (checkPresent_eq_ok.1 hpresent)).1 h
  exact hfault.fieldError (by rw [hfields]; simp)

/-! ## What the second pass looks at -/

/-- The second pass looks at a key: there are objects that differ there alone and are read differently. -/
def ClauseKind.Reads (kind : ClauseKind) (key : String) : Prop :=
  ∃ ms ns : Members, (∀ other, other ≠ key → ms.lookup other = ns.lookup other) ∧
    decodeClause kind ms ≠ decodeClause kind ns

theorem nodup_requiredFields (kind : ClauseKind) : kind.requiredFields.Nodup := by
  cases kind <;> decide

/-- The second pass by itself refuses an object in which one field is missing. -/
theorem decodeClause_of_missing {field : String} (hfield : field ∈ kind.requiredFields)
    (hothers : ∀ f ∈ kind.requiredFields, f ≠ field → ms.Fits f) (hmissing : ¬ ms.Present field) :
    decodeClause kind ms = .error (.missingField kind.name field) := by
  obtain ⟨before, after, hfields⟩ := List.append_of_mem hfield
  have hbefore : ∀ f ∈ before, ms.Fits f := by
    have hnodup := nodup_requiredFields kind
    rw [hfields] at hnodup
    intro f hf
    refine hothers f (by rw [hfields]; simp [hf]) ?_
    rintro rfl
    exact List.disjoint_of_nodup_append hnodup hf (by simp)
  have hcheck : checkField kind ms field = .error (.missingField kind.name field) :=
    bind_eq_error.2 (Or.inl (fieldValue_eq_error.2 ⟨hmissing, rfl⟩))
  have hforM : forM kind.requiredFields (checkField kind ms) = .error (.missingField kind.name field) :=
    (forM_eq_error (fun _ _ => checkField_eq_ok) fun _ _ => Iff.rfl).2 ⟨before, field, after, hfields, hbefore, hcheck⟩
  rw [← map_decodeClause] at hforM
  exact map_eq_error.1 hforM

/-- An object from which a clause of every kind can be read. -/
def allFields : Members :=
  [("field", .str ""), ("term", .bool true), ("terms", .arr []), ("from", .bool true), ("to", .bool true),
    ("include_lower", .bool true), ("include_upper", .bool true), ("distance", .num (.int (.ofWord 0))),
    ("unit", .str ""), ("point", .obj [("lat", .bool true), ("lon", .bool true)]), ("value", .str "")]

theorem exists_decodeClause_allFields (kind : ClauseKind) : ∃ c, decodeClause kind allFields = .ok c := by
  cases kind <;> exact ⟨_, rfl⟩

/-- The second pass looks at the required fields of the kind, at all of them and at nothing else. -/
theorem reads_iff {key : String} : kind.Reads key ↔ key ∈ kind.requiredFields := by
  constructor
  · rintro ⟨ms, ns, hsame, hdiffer⟩
    by_contra hkey
    refine hdiffer (decodeClause_congr fun field hfield => (hsame field ?_).symm)
    rintro rfl
    exact hkey hfield
  · intro hkey
    obtain ⟨c, hc⟩ := exists_decodeClause_allFields kind
    -- the object with all fields, and the same object without this one
    let ns : Members := allFields.filter fun m => m.1 != key
    have hlookup : ∀ other, ns.lookup other = if other != key then allFields.lookup other else none :=
      Members.lookup_filter_key (· != key)
    have hsame : ∀ other, other ≠ key → allFields.lookup other = ns.lookup other := by
      intro other hother
      simp [hlookup, hother]
    have hmissing : decodeClause kind ns = .error (.missingField kind.name key) := by
      refine decodeClause_of_missing hkey (fun f hf hne => ?_) fun ⟨v, hv, _⟩ => ?_
      · have hfits := exists_decodeClause_iff.1 ⟨c, hc⟩ f hf
        rwa [Members.Fits, hsame f hne] at hfits
      · simp [hlookup] at hv
    refine ⟨allFields, ns, hsame, ?_⟩
    rw [hc, hmissing]
    exact nofun

/-! ## Keys by index -/

/-- A decoding that may break off where nothing is at an index. -/
abbrev Indexed : Type → Type := ExceptT QueryError Option

/-- A decoding that uses no index. -/
def Indexed.lift (x : Except QueryError α) : Indexed α := ExceptT.mk (some x)

/-- The value at an index. -/
def Members.index (ms : Members) (key : String) : Indexed Json := ExceptT.mk ((ms.lookup key).map .ok)

namespace Indexed

theorem lift_ok_bind (a : α) (f : α → Indexed β) : lift (.ok a) >>= f = f a := rfl

theorem lift_bind (x : Except QueryError α) (f : α → Except QueryError β) :
    lift (x >>= f) = lift x >>= fun a => lift (f a) := by
  cases x <;> rfl

end Indexed

theorem index_eq {key : String} {v : Json} (h : ms.lookup key = some v) : ms.index key = .lift (.ok v) := by
  rw [Members.index, h]
  rfl

/-- The first of some keys that an object has. -/
def firstKey? (ms : Members) (keys : List String) : Option String := keys.find? fun key => (ms.lookup key).isSome

/-- The kind of a clause and its key, with the value taken by index. -/
def kindByIndex (ms : Members) : Indexed (String × ClauseKind) :=
  match firstKey? ms kindKeys with
  | none => .lift (.error (.missingField unknownKind "type"))
  | some key => do
    let v ← ms.index key
    match v.str? with
    | none => .lift (.error (.invalidField unknownKind key "a string"))
    | some name => .lift ((ClauseKind.ofName name).map (key, ·))

/-- Whether a clause is negated, with the value taken by index. -/
def negationByIndex (kind : ClauseKind) (ms : Members) : Option String → Indexed Bool
  | none => .lift (decodeNegation kind none)
  | some key => do
    let v ← ms.index key
    .lift (decodeNegation kind (some (key, v)))

/-- The filter that the members of an object describe, with the values of the chosen keys taken by index. -/
def Filter.ofMembersByIndex (ms : Members) : Indexed Filter := do
  let (kindKey, kind) ← kindByIndex ms
  let negationKey := firstKey? ms negationKeys
  .lift (checkKeys kind (kindKey :: negationKey.toList) ms)
  let negate ← negationByIndex kind ms negationKey
  .lift (checkPresent kind ms kind.requiredFields)
  let clause ← .lift (decodeClause kind ms)
  return ⟨clause, negate⟩

/-- A key that is found first has a value, which is the one that is found with it. -/
theorem firstKey?_cases (ms : Members) (keys : List String) :
    (firstKey? ms keys = none ∧ firstPresent? ms keys = none) ∨
      ∃ key v, firstKey? ms keys = some key ∧ ms.lookup key = some v ∧ firstPresent? ms keys = some (key, v) := by
  induction keys with
  | nil => exact Or.inl ⟨rfl, rfl⟩
  | cons key keys ih =>
    rw [firstPresent?, firstKey?, List.find?_cons]
    cases h : ms.lookup key with
    | none => exact ih
    | some v => exact Or.inr ⟨key, v, rfl, h, rfl⟩

/-- The stage of the kind does not break off. -/
theorem kindByIndex_eq (ms : Members) : kindByIndex ms = .lift (decodeKind ms) := by
  rw [kindByIndex, decodeKind]
  rcases firstKey?_cases ms kindKeys with ⟨hkey, hpresent⟩ | ⟨key, v, hkey, hv, hpresent⟩
  · rw [hkey, hpresent]
  · rw [hkey, hpresent]
    simp only [index_eq hv, Indexed.lift_ok_bind]
    cases v.str? <;> rfl

/-- The stage of the negation does not break off. -/
theorem negationByIndex_eq (kind : ClauseKind) (ms : Members) : negationByIndex kind ms (firstKey? ms negationKeys) =
    .lift (decodeNegation kind (firstPresent? ms negationKeys)) := by
  rcases firstKey?_cases ms negationKeys with ⟨hkey, hpresent⟩ | ⟨key, v, hkey, hv, hpresent⟩
  · rw [hkey, hpresent]
    rfl
  · rw [hkey, hpresent, negationByIndex, index_eq hv]
    rfl

theorem toList_firstKey? (ms : Members) (keys : List String) :
    (firstKey? ms keys).toList = (firstPresent? ms keys).toList.map Prod.fst := by
  rcases firstKey?_cases ms keys with ⟨hkey, hpresent⟩ | ⟨key, v, hkey, -, hpresent⟩ <;> rw [hkey, hpresent] <;> rfl

/-- Decoding by index never breaks off, and it is the decoder. -/
theorem Filter.ofMembersByIndex_eq (ms : Members) : ofMembersByIndex ms = .lift (ofMembers ms) := by
  simp only [ofMembersByIndex, ofMembers, kindByIndex_eq, negationByIndex_eq, toList_firstKey?, Indexed.lift_bind]
  rfl

/-- **The two passes agree.** Whatever the kind: once the first pass has succeeded, the second one fails only with a
wrong type of a required field or with a bad coordinate of the point of a distance, and never with a missing field. The
fields that the second pass looks at are the required ones, all of them and no others. And decoding by keys that are
found first and indexed afterwards never breaks off at an index, and decodes as `Filter.ofMembers` does. -/
theorem passes_agree (kind : ClauseKind) :
    (∀ (ms : Members) (e : QueryError), checkPresent kind ms kind.requiredFields = .ok () →
      decodeClause kind ms = .error e →
        FieldError kind e ∧ ∀ owner, ∀ field ∈ kind.requiredFields, e ≠ .missingField owner field) ∧
    (∀ key, kind.Reads key ↔ key ∈ kind.requiredFields) ∧
    ∀ ms : Members, (Filter.ofMembersByIndex ms).run = some (Filter.ofMembers ms) := by
  refine ⟨fun ms e hpresent h => ?_, fun key => reads_iff, fun ms => ?_⟩
  · have hfault := fieldError_of_decodeClause hpresent h
    exact ⟨hfault, fun owner field hfield => hfault.ne_missingField hfield⟩
  · rw [Filter.ofMembersByIndex_eq]
    rfl

/-- A point with a null coordinate is there for the first pass; the second one names the coordinate. -/
theorem passes_agree_null_coordinate :
    let ms : Members := [("unit", .str "km"), ("point", .obj [("lat", .bool true), ("lon", .null)]),
      ("field", .str "f"), ("distance", .num (.int (.ofWord 1)))]
    let e : QueryError := .missingField "geo_distance" "point.lon"
    checkPresent .geoDistance ms ["field", "distance", "unit", "point"] = .ok () ∧
      decodeClause .geoDistance ms = .error e ∧ FieldError .geoDistance e ∧
      ∀ owner, ∀ field ∈ ClauseKind.geoDistance.requiredFields, e ≠ .missingField owner field := by
  intro ms e
  have hpresent : checkPresent .geoDistance ms ["field", "distance", "unit", "point"] = .ok () := rfl
  have hread : decodeClause .geoDistance ms = .error e := rfl
  obtain ⟨hfault, hmissing⟩ := (passes_agree .geoDistance).1 ms e hpresent hread
  exact ⟨hpresent, hread, hfault, hmissing⟩

end QueryDsl
