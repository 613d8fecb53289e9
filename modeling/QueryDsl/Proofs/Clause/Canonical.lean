import QueryDsl.Proofs.Clause.Acceptance
import QueryDsl.Proofs.Document.Printable

/-!
# Canonical clauses

A filter is written as an object with its kind, its fields and its negation (`Filter.canonical`). What is read from this
object is the filter or nothing (`Filter.ofJson_canonical`): it is read exactly when the clause has no null in a place
where null would count as absent (`Clause.Expressible`), and no other clause is read from any object
(`Filter.expressible_of_ofJson`).
-/

namespace QueryDsl

open Json

namespace Clause

/-- The clause can be read from an object: no value in it is null, except below arrays and objects. -/
def Expressible : Clause → Prop
  | term _ value => value ≠ .null
  | range _ bounds => bounds.lower ≠ .null ∧ bounds.upper ≠ .null
  | geoDistance _ _ _ point => point.lat ≠ .null ∧ point.lon ≠ .null
  | _ => True

/-- The fields of a clause with its values, in the order in which they are required. -/
def fields : Clause → Members
  | term field value => [("field", .str field), ("term", value)]
  | terms field values => [("field", .str field), ("terms", .arr values)]
  | range field bounds =>
    [("field", .str field), ("from", bounds.lower), ("to", bounds.upper), ("include_lower", .bool bounds.includeLower),
      ("include_upper", .bool bounds.includeUpper)]
  | geoDistance field distance unit point =>
    [("field", .str field), ("distance", .num distance), ("unit", .str unit), ("point", pointJson point)]
  | docType value => [("value", .str value)]
  | fieldExists field => [("field", .str field)]
  | fieldMissing field => [("field", .str field)]

theorem map_fst_fields (c : Clause) : c.fields.map Prod.fst = c.kind.requiredFields := by
  cases c <;> rfl

theorem printable_fields {c : Clause} (h : ∀ v ∈ c.values, v.Printable) : ∀ m ∈ c.fields, m.2.Printable := by
  cases c with
  | term field value => simpa [fields, values] using h
  | terms field values => simpa [fields, Clause.values] using h
  | range field bounds => simpa [fields, values] using h
  | geoDistance field distance unit point => simpa [fields, values, pointJson] using h
  | _ => simp [fields]

theorem isPoint_iff {lat lon : Json} : Members.IsPoint [("lat", lat), ("lon", lon)] ↔ lat ≠ .null ∧ lon ≠ .null := by
  simp [Members.IsPoint, Members.Present, Members.lookup_cons]

/-- No field of an expressible clause is null. -/
theorem Expressible.ne_null {c : Clause} (h : c.Expressible) : ∀ m ∈ c.fields, m.2 ≠ .null := by
  cases c <;> simp_all [fields, Expressible, pointJson]

/-- Every field of an expressible clause holds what it should. -/
theorem Expressible.fieldFits {c : Clause} (h : c.Expressible) : ∀ m ∈ c.fields, FieldFits m.1 m.2 := by
  cases c <;> simp_all [fields, FieldFits, fieldType?, FieldType.Holds, pointJson, isPoint_iff, Expressible]

/-- A clause that an object carries in fields that fit has no null in it. -/
theorem expressible_of_carries {ms : Members} {c : Clause} (hcarries : ms.Carries c)
    (hfits : ∀ field ∈ c.kind.requiredFields, ms.Fits field) : c.Expressible := by
  have hne {field : String} {v : Json} (hfield : field ∈ c.kind.requiredFields) (hv : ms.lookup field = some v) :
      v ≠ .null := by
    obtain ⟨w, hw, hn, -⟩ := hfits field hfield
    exact Option.some.inj (hw.symm.trans hv) ▸ hn
  cases c with
  | term field value => exact hne (by simp [kind, ClauseKind.requiredFields]) hcarries.2
  | range field bounds =>
    obtain ⟨-, hlower, hupper, -⟩ := hcarries
    exact ⟨hne (by simp [kind, ClauseKind.requiredFields]) hlower,
      hne (by simp [kind, ClauseKind.requiredFields]) hupper⟩
  | geoDistance field distance unit point =>
    obtain ⟨-, -, -, coordinates, hpoint, hlat, hlon⟩ := hcarries
    obtain ⟨v, hv, -, -, hispoint⟩ := hfits "point" (by simp [kind, ClauseKind.requiredFields])
    obtain rfl := Option.some.inj (hv.symm.trans hpoint)
    obtain ⟨⟨lat, hlat', hlatNe⟩, ⟨lon, hlon', hlonNe⟩, -⟩ := hispoint coordinates rfl rfl
    exact ⟨Option.some.inj (hlat'.symm.trans hlat) ▸ hlatNe, Option.some.inj (hlon'.symm.trans hlon) ▸ hlonNe⟩
  | _ => trivial

end Clause

namespace Filter

variable {f g : Filter}

/-- The members of the canonical object: the kind, the fields of the clause, and the negation. -/
def canonicalMembers (f : Filter) : Members :=
  ("type", .str f.kind.name) :: f.clause.fields ++ [("not", .bool f.negate)]

/-- The canonical JSON of a filter. -/
def canonical (f : Filter) : Json := .obj f.canonicalMembers

theorem map_fst_canonicalMembers (f : Filter) :
    f.canonicalMembers.map Prod.fst = "type" :: f.kind.requiredFields ++ ["not"] := by
  simp [canonicalMembers, Clause.map_fst_fields, kind]

theorem nodup_canonicalMembers (f : Filter) : (f.canonicalMembers.map Prod.fst).Nodup := by
  rw [map_fst_canonicalMembers]
  cases f.kind <;> decide

theorem printable_canonical (h : ∀ v ∈ f.clause.values, v.Printable) : f.canonical.Printable := by
  refine printable_obj.2 ⟨nodup_canonicalMembers f, ?_⟩
  simpa [canonicalMembers, or_imp, forall_and] using Clause.printable_fields h

theorem lookup_canonicalMembers {m : String × Json} (hm : m ∈ f.clause.fields) :
    f.canonicalMembers.lookup m.1 = some m.2 :=
  (Members.lookup_eq_some_iff_mem (nodup_canonicalMembers f)).2 (by simp [canonicalMembers, hm])

theorem lookup_not_canonicalMembers (f : Filter) : f.canonicalMembers.lookup "not" = some (.bool f.negate) :=
  (Members.lookup_eq_some_iff_mem (nodup_canonicalMembers f) (m := ("not", .bool f.negate))).2
    (by simp [canonicalMembers])

theorem carries_canonicalMembers (f : Filter) : f.canonicalMembers.Carries f.clause := by
  have hfield {name : String} {v : Json} (hm : (name, v) ∈ f.clause.fields) : f.canonicalMembers.lookup name = some v :=
    lookup_canonicalMembers hm
  generalize f.clause = c at hfield ⊢
  cases c <;> simp_all [Clause.fields, Members.Carries, Members.lookup_cons, Clause.pointJson]

/-- Every field of an expressible clause is there and holds what it should. -/
theorem fits_canonicalMembers (h : f.clause.Expressible) :
    ∀ field ∈ f.kind.requiredFields, f.canonicalMembers.Fits field := by
  intro field hfield
  rw [kind, ← Clause.map_fst_fields] at hfield
  obtain ⟨m, hm, rfl⟩ := List.mem_map.1 hfield
  exact ⟨m.2, lookup_canonicalMembers hm, h.ne_null m hm, h.fieldFits m hm⟩

theorem kindKey_canonicalMembers (f : Filter) : f.canonicalMembers.kindKey = "type" := by
  simp [Members.kindKey, Members.choose, canonicalMembers]

theorem negationKey_canonicalMembers (f : Filter) : f.canonicalMembers.negationKey = "not" := by
  simp [Members.negationKey, Members.choose, lookup_not_canonicalMembers]

theorem names_canonicalMembers (f : Filter) : f.canonicalMembers.Names f.kind := by
  rw [Members.Names, kindKey_canonicalMembers]
  rfl

theorem known_canonicalMembers (f : Filter) : ∀ m ∈ f.canonicalMembers, f.canonicalMembers.Known f.kind m.1 := by
  intro m hm
  have hkey := List.mem_map_of_mem (f := Prod.fst) hm
  rw [map_fst_canonicalMembers, List.mem_append, List.mem_cons, List.mem_singleton] at hkey
  rw [Members.Known, kindKey_canonicalMembers, negationKey_canonicalMembers]
  rcases hkey with (hkey | hkey) | hkey
  · exact Or.inl hkey
  · exact Or.inr (Or.inr hkey)
  · exact Or.inr (Or.inl hkey)

/-- The canonical object of an expressible filter describes the filter. -/
theorem describes_canonicalMembers (h : f.clause.Expressible) : f.canonicalMembers.Describes f where
  accepted := ⟨names_canonicalMembers f, known_canonicalMembers f, fun v hv => by
    rw [negationKey_canonicalMembers, lookup_not_canonicalMembers] at hv
    exact Or.inr ⟨_, (Option.some.inj hv).symm⟩, fits_canonicalMembers h⟩
  negates := by simp [negationKey_canonicalMembers, lookup_not_canonicalMembers]
  carries := carries_canonicalMembers f

/-- Whatever is read is expressible. -/
theorem expressible_of_ofJson {v : Json} (h : ofJson v = .ok f) : f.clause.Expressible := by
  obtain ⟨ms, -, hdescribes⟩ := ofJson_eq_ok.1 h
  exact Clause.expressible_of_carries hdescribes.carries hdescribes.accepted.fields

/-- The canonical object describes no other filter. -/
theorem eq_of_describes_canonicalMembers (h : f.canonicalMembers.Describes g) : g = f := by
  obtain ⟨c, b⟩ := g
  have hclause : c = f.clause :=
    h.carries.unique (carries_canonicalMembers f) (h.accepted.names.unique (names_canonicalMembers f))
  have hnegate : b = f.negate := by
    have hnegates := h.negates
    rw [negationKey_canonicalMembers, lookup_not_canonicalMembers, Option.some.injEq, Json.bool.injEq] at hnegates
    exact Bool.eq_iff_iff.2 hnegates
  rw [hclause, hnegate]

/-- **Canonical filters are read back.** What is read from the canonical JSON of a filter is the filter, and there is
something to read exactly when the clause is expressible. -/
theorem ofJson_canonical : ofJson f.canonical = .ok g ↔ f.clause.Expressible ∧ g = f := by
  constructor
  · intro h
    have heq : g = f := by
      obtain ⟨ms, hms, hdescribes⟩ := ofJson_eq_ok.1 h
      obtain rfl := Json.obj.inj hms
      exact eq_of_describes_canonicalMembers hdescribes
    exact ⟨heq ▸ expressible_of_ofJson h, heq⟩
  · rintro ⟨hexpressible, rfl⟩
    exact ofJson_eq_ok.2 ⟨_, rfl, describes_canonicalMembers hexpressible⟩

end Filter

end QueryDsl
