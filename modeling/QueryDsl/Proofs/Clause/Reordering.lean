import QueryDsl.Proofs.Agreement
import QueryDsl.Proofs.Clause.Acceptance
import QueryDsl.Proofs.Json.Equality

/-!
# Clauses with their members in another order

The decoder of clauses knows an object by its look-ups, and by the first key that means nothing. So a clause whose
members are put in another order, and those of its point too (`ClauseReordered`), is decoded to the same filter, or
it is refused with the same error, up to the key that is named (`Filter.agree_of_clauseReordered`).

Stage by stage: each reads the same from objects with the same look-ups (`Members.SameClause`).
-/

namespace QueryDsl

open Checks

/-! ## Errors -/

/-- An error may stand for another: of the keys that mean nothing any may be named, and the text about a request is
free. -/
inductive QueryError.Resembles : QueryError → QueryError → Prop
  | rfl (e : QueryError) : Resembles e e
  | unknownField (kind field field' : String) : Resembles (.unknownField kind field) (.unknownField kind field')
  | invalidRequest (reason reason' : String) : Resembles (.invalidRequest reason) (.invalidRequest reason')

open QueryError (Resembles)

/-! ## Stages -/

section LookUps

variable {ms ns : Members} {kind : ClauseKind}

theorem firstPresent?_congr : ∀ {keys : List String}, (∀ key ∈ keys, ns.lookup key = ms.lookup key) →
    firstPresent? ns keys = firstPresent? ms keys
  | [], _ => rfl
  | key :: keys, h => by
    obtain ⟨hkey, hkeys⟩ := List.forall_mem_cons.1 h
    rw [firstPresent?, firstPresent?, hkey, firstPresent?_congr hkeys]

theorem forall_key_congr (test : String → Prop) (h : ∀ key, ms.lookup key = none ↔ ns.lookup key = none) :
    (∀ m ∈ ms, test m.1) ↔ ∀ n ∈ ns, test n.1 := by
  rw [Members.forall_key_iff, Members.forall_key_iff]
  simp only [ne_eq, h]

theorem checkKeys_agree (h : ∀ key, ms.lookup key = none ↔ ns.lookup key = none) (used : List String) :
    Agree Resembles Eq (checkKeys kind used ms) (checkKeys kind used ns) := by
  rw [checkKeys_eq_forM, checkKeys_eq_forM]
  have hpass := forall_key_congr (fun key => (used.contains key || kind.requiredFields.contains key) = true) h
  exact Agree.forM_passes hpass fun _ _ => .unknownField ..

theorem decodePoint_agree (h : ∀ key, ns.lookup key = ms.lookup key) :
    Agree Resembles Eq (decodePoint ms) (decodePoint ns) := by
  have hcoordinate (name : String) : coordinate ms name = coordinate ns name := by rw [coordinate, coordinate, h]
  have hnone (key : String) : ms.lookup key = none ↔ ns.lookup key = none := by rw [h]
  have hpass := forall_key_congr (fun key => (key == "lat" || key == "lon") = true) hnone
  rw [decodePoint_eq, decodePoint_eq]
  refine (Agree.of_eq .rfl (hcoordinate "lat")).bind fun lat _ hlat => ?_
  refine (Agree.of_eq .rfl (hcoordinate "lon")).bind fun lon _ hlon => ?_
  subst hlat hlon
  refine Agree.bind (Agree.forM_passes hpass fun _ _ => ?_) fun _ _ _ => .ok rfl
  exact .unknownField ..

/-- The values are the same, or objects with the same look-ups. -/
inductive SameLookups : Json → Json → Prop
  | rfl (v : Json) : SameLookups v v
  | obj {cs ds : Members} : (∀ key, ds.lookup key = cs.lookup key) → SameLookups (.obj cs) (.obj ds)

/-- The objects have the same look-ups, and so do their points. -/
structure Members.SameClause (ms ns : Members) : Prop where
  others : ∀ key, key ≠ "point" → ns.lookup key = ms.lookup key
  point : Option.Rel SameLookups (ms.lookup "point") (ns.lookup "point")

namespace Members.SameClause

variable (h : ms.SameClause ns)
include h

theorem lookup_rel (key : String) : Option.Rel SameLookups (ms.lookup key) (ns.lookup key) := by
  by_cases hkey : key = "point"
  · exact hkey ▸ h.point
  · rw [h.others key hkey]
    cases ms.lookup key with
    | none => exact .none
    | some v => exact .some (.rfl v)

theorem fieldValue_agree (kind : ClauseKind) (field : String) :
    Agree Resembles SameLookups (fieldValue kind ms field) (fieldValue kind ns field) := by
  have hrel := h.lookup_rel field
  unfold fieldValue
  generalize ms.lookup field = o, ns.lookup field = o' at hrel
  cases hrel with
  | none => exact .error (.rfl _)
  | some hvw =>
    cases hvw with
    | obj hcs => exact .ok (.obj hcs)
    | rfl =>
      next v =>
      cases v with
      | null => exact .error (.rfl _)
      | _ => exact .ok (.rfl _)

theorem typedField_point_agree : Agree Resembles (fun cs ds : Members => ∀ key, ds.lookup key = cs.lookup key)
    (typedField kind ms "point" "an object" Json.obj?) (typedField kind ns "point" "an object" Json.obj?) := by
  have hvalue := h.fieldValue_agree kind "point"
  unfold typedField
  generalize fieldValue kind ms "point" = x, fieldValue kind ns "point" = y at hvalue
  cases hvalue with
  | error he => exact .error he
  | ok hvw =>
    cases hvw with
    | obj hcs => exact .ok hcs
    | rfl =>
      next v =>
      cases v with
      | obj cs => exact .ok fun _ => rfl
      | _ => exact .error (.rfl _)

theorem checkPresent_agree (fields : List String) :
    Agree Resembles Eq (checkPresent kind ms fields) (checkPresent kind ns fields) := by
  rw [checkPresent_eq_forM, checkPresent_eq_forM]
  exact Agree.forM fun field => (h.fieldValue_agree kind field).map fun _ _ _ => rfl

theorem decodeClause_agree (kind : ClauseKind) :
    Agree Resembles Eq (decodeClause kind ms) (decodeClause kind ns) := by
  -- only a distance clause has a field called `point`
  by_cases hkind : kind = .geoDistance
  · subst hkind
    have htyped {α : Type} {field : String} (hfield : field ≠ "point") (expected : String) (view : Json → Option α) :
        typedField .geoDistance ms field expected view = typedField .geoDistance ns field expected view := by
      simp only [typedField, fieldValue, h.others field hfield]
    refine (Agree.of_eq .rfl (htyped (by decide) ..)).bind fun field _ hfield => ?_
    refine (Agree.of_eq .rfl (htyped (by decide) ..)).bind fun distance _ hdistance => ?_
    refine (Agree.of_eq .rfl (htyped (by decide) ..)).bind fun unit _ hunit => ?_
    refine h.typedField_point_agree.bind fun cs ds hcs => ?_
    refine (decodePoint_agree hcs).bind fun p _ hp => ?_
    subst hfield hdistance hunit hp
    exact .ok rfl
  · refine Agree.of_eq .rfl (decodeClause_congr fun field hfield => h.others field ?_)
    rintro rfl
    cases kind <;> first | exact hkind rfl | exact absurd hfield (by decide)

/-- All stages read the same from both objects. -/
theorem ofMembers_agree : Agree Resembles Eq (Filter.ofMembers ms) (Filter.ofMembers ns) := by
  have hkind : decodeKind ms = decodeKind ns := by
    have hfirst : firstPresent? ns kindKeys = firstPresent? ms kindKeys :=
      firstPresent?_congr fun key hkey => h.others key fun he => absurd (he ▸ hkey) (by decide)
    rw [decodeKind, decodeKind, hfirst]
  have hnegation : firstPresent? ns negationKeys = firstPresent? ms negationKeys :=
    firstPresent?_congr fun key hkey => h.others key fun he => absurd (he ▸ hkey) (by decide)
  unfold Filter.ofMembers
  rw [hnegation]
  refine (Agree.of_eq .rfl hkind).bind ?_
  rintro ⟨key, kind⟩ - rfl
  refine (checkKeys_agree (fun key => Members.eq_none_iff_of_rel (h.lookup_rel key)) _).bind fun _ _ _ => ?_
  refine (Agree.of_eq .rfl rfl).bind fun negate _ hnegate => ?_
  refine (h.checkPresent_agree _).bind fun _ _ _ => ?_
  refine (h.decodeClause_agree kind).bind fun clause _ hclause => ?_
  subst hnegate hclause
  exact .ok rfl

end Members.SameClause

end LookUps

/-! ## Members in another order -/

/-- The value is an object with its members in another order and with related values in it, or it stays as it is. -/
inductive ObjectReordered (within : String → Json → Json → Prop) : Json → Json → Prop
  | same (v : Json) : ObjectReordered within v v
  | obj {ms ns : Members} : Members.Reordered within ms ns → ObjectReordered within (.obj ms) (.obj ns)

/-- What reordering a clause does to its values: a point is reordered too, and the others stay. -/
def WithinClause (key : String) : Json → Json → Prop :=
  if key = "point" then ObjectReordered fun _ => Eq else Eq

/-- The members of a clause and those of its point are put in another order. -/
def ClauseReordered : Json → Json → Prop := ObjectReordered WithinClause

theorem ObjectReordered.sameLookups {v w : Json} (h : ObjectReordered (fun _ => Eq) v w) (hv : v.WellFormed) :
    SameLookups v w := by
  cases h with
  | same => exact .rfl v
  | obj h => exact .obj fun key => Members.eq_of_rel_eq (h.lookup_rel hv.1 key)

theorem Members.sameClause_of_reordered {ms ns : Members} (h : Members.Reordered WithinClause ms ns)
    (hms : (Json.obj ms).WellFormed) : ms.SameClause ns := by
  refine ⟨fun key hkey => ?_, ?_⟩
  · have hrel := h.lookup_rel hms.1 key
    rw [WithinClause, if_neg hkey] at hrel
    exact Members.eq_of_rel_eq hrel
  · have hrel := h.lookup_rel hms.1 "point"
    rw [WithinClause, if_pos rfl] at hrel
    cases hv : ms.lookup "point" with
    | none =>
      rw [(Members.eq_none_iff_of_rel hrel).1 hv]
      exact .none
    | some v =>
      obtain ⟨w, hw, hvw⟩ := Members.rel_some.1 (hv ▸ hrel)
      rw [hw]
      exact .some (hvw.sameLookups (hms.lookup hv))

/-- A clause that is reordered is decoded to the same filter, or refused with an error that resembles the one before. -/
theorem Filter.agree_of_clauseReordered {v w : Json} (h : ClauseReordered v w) (hv : v.WellFormed) :
    Agree Resembles Eq (Filter.ofJson v) (Filter.ofJson w) := by
  cases h with
  | same => exact Agree.of_eq .rfl rfl
  | obj h => exact (Members.sameClause_of_reordered h hv).ofMembers_agree

end QueryDsl
