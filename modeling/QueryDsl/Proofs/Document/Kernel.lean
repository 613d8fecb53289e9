import QueryDsl.Document.Compile
import QueryDsl.Proofs.Json.Equality

/-!
# Which requests have the same query

The fragment of a filter tells everything about it, with one exception: the field of a distance clause shares an object
with `distance` and `unit`, and on a field with one of these names the point takes the place of the distance or of the
unit (`Clause.SameButHidden`).

- `Clause.same_body_iff`, `Filter.same_fragment_iff`: two filters have the same fragment when they are the same, or the
  same but for the part that is hidden, and at no other time.
- `Request.same_query_iff`: two queries are the same when what they tell of their requests is (`Request.SameSearch`).
  Of a request with identifiers nothing else is told.
- `same_compiled_iff`: both together.
-/

namespace QueryDsl

open Json

/-! ## Clauses -/

namespace Clause

variable {c d : Clause}

theorem same_pointJson {p q : GeoPoint} :
    (pointJson p).same (pointJson q) = true ↔ p.lat.same q.lat = true ∧ p.lon.same q.lon = true := by
  simp [pointJson, Json.same, sameMembers, Members.lookup_cons]

theorem same_boundsJson {a b : Bounds} : (boundsJson a).same (boundsJson b) = true ↔
    a.lower.same b.lower = true ∧ a.upper.same b.upper = true ∧ a.includeLower = b.includeLower ∧
      a.includeUpper = b.includeUpper := by
  simp [boundsJson, Json.same, sameMembers, Members.lookup_cons]

section Distance

variable {f g u w : String} {x y : Number} {p q : GeoPoint}

/-- What a distance clause has under its kind. The point takes the place of the member that has the field's name. -/
def distanceBody (f : String) (x : Number) (u : String) (p : GeoPoint) : Members :=
  put f (pointJson p) [("distance", .num x), ("unit", .str u)]

theorem nodup_distanceBody : ((distanceBody f x u p).map Prod.fst).Nodup :=
  nodup_map_fst_put f (pointJson p) (by simp)

theorem lookup_distanceBody (name : String) : (distanceBody f x u p).lookup name =
    if name = f then some (pointJson p)
    else if name = "distance" then some (.num x) else if name = "unit" then some (.str u) else none := by
  rw [distanceBody, lookup_put, Members.lookup_cons, Members.lookup_cons, List.lookup_nil]

/-- The field is where the point is: under the other two names are a number and a text. -/
theorem field_eq_of_rel_lookup
    (h : Option.Rel (fun v w => v.same w = true) ((distanceBody f x u p).lookup f) ((distanceBody g y w q).lookup f)) :
    f = g := by
  rw [lookup_distanceBody, lookup_distanceBody, if_pos rfl] at h
  by_contra hne
  rw [if_neg hne] at h
  split at h
  · cases h with
    | some h => simp [pointJson, Json.same] at h
  · split at h
    · cases h with
      | some h => simp [pointJson, Json.same] at h
    · cases h

/-- Distance fragments are the same when they have one field and one point, and agree in what the field leaves. -/
theorem same_body_geoDistance : (geoDistance f x u p).body.same (geoDistance g y w q).body = true ↔
    f = g ∧ (pointJson p).same (pointJson q) = true ∧ (f = "distance" ∨ x.same y = true) ∧ (f = "unit" ∨ u = w) := by
  show (Json.obj (distanceBody f x u p)).same (.obj (distanceBody g y w q)) = true ↔ _
  rw [same_obj_iff nodup_distanceBody nodup_distanceBody]
  constructor
  · intro h
    obtain rfl := field_eq_of_rel_lookup (h f)
    have hpoint := h f
    have hdistance := h "distance"
    have hunit := h "unit"
    simp only [lookup_distanceBody, if_true] at hpoint hdistance hunit
    refine ⟨rfl, by simpa using hpoint, ?_, ?_⟩
    · by_cases hf : f = "distance"
      · exact Or.inl hf
      · rw [if_neg (Ne.symm hf), if_neg (Ne.symm hf)] at hdistance
        exact Or.inr (by simpa [Json.same] using hdistance)
    · by_cases hf : f = "unit"
      · exact Or.inl hf
      · rw [if_neg (Ne.symm hf), if_neg (Ne.symm hf)] at hunit
        exact Or.inr (by simpa [Json.same] using hunit)
  · rintro ⟨rfl, hpoint, hdistance, hunit⟩ name
    rw [lookup_distanceBody, lookup_distanceBody]
    split_ifs with hf hx hu
    · exact .some hpoint
    · subst hx
      have hxy : x.same y = true := hdistance.resolve_left (Ne.symm hf)
      exact .some (by rw [Json.same, hxy])
    · subst hu
      obtain rfl : u = w := hunit.resolve_left (Ne.symm hf)
      exact .some (by simp [Json.same])
    · exact .none

end Distance

/-- Two distance clauses of which the fragment hides the only part that differs: they have one field and one point, and
on a field called `distance` one unit, on a field called `unit` one distance. -/
def SameButHidden : Clause → Clause → Prop
  | geoDistance f x u p, geoDistance g y w q =>
    f = g ∧ p.lat.same q.lat = true ∧ p.lon.same q.lon = true ∧ (f = "distance" ∧ u = w ∨ f = "unit" ∧ x.same y = true)
  | _, _ => False

theorem kind_eq_of_same (h : c.same d = true) : c.kind = d.kind := by
  cases c <;> cases d <;> first | rfl | cases h

theorem kind_eq_of_sameButHidden (h : c.SameButHidden d) : c.kind = d.kind := by
  cases c <;> cases d <;> first | rfl | cases h

/-- Within a kind, the body tells the clause up to what is hidden. -/
theorem same_body_iff (hkind : c.kind = d.kind) :
    c.body.same d.body = true ↔ c.same d = true ∨ c.SameButHidden d := by
  cases c <;> cases d <;> simp only [kind, reduceCtorEq] at hkind
  case geoDistance.geoDistance f x u p g y w q =>
    rw [same_body_geoDistance, same_pointJson]
    simp only [same, Bool.and_eq_true, beq_iff_eq, SameButHidden]
    constructor
    · -- the field has at most one of the two names, so at most one part is hidden
      rintro ⟨hfield, ⟨hlat, hlon⟩, hdistance | hdistance, hunit | hunit⟩
      · exact absurd (hdistance.symm.trans hunit) (by decide)
      · exact Or.inr ⟨hfield, hlat, hlon, Or.inl ⟨hdistance, hunit⟩⟩
      · exact Or.inr ⟨hfield, hlat, hlon, Or.inr ⟨hunit, hdistance⟩⟩
      · exact Or.inl ⟨⟨⟨⟨hfield, hdistance⟩, hunit⟩, hlat⟩, hlon⟩
    · rintro (⟨⟨⟨⟨hfield, hdistance⟩, hunit⟩, hlat⟩, hlon⟩ | ⟨hfield, hlat, hlon, ⟨hf, hunit⟩ | ⟨hf, hdistance⟩⟩)
      · exact ⟨hfield, ⟨hlat, hlon⟩, Or.inr hdistance, Or.inr hunit⟩
      · exact ⟨hfield, ⟨hlat, hlon⟩, Or.inl hf, Or.inr hunit⟩
      · exact ⟨hfield, ⟨hlat, hlon⟩, Or.inr hdistance, Or.inl hf⟩
  -- the body of any other clause has one member, under the field
  all_goals simp [body, same_single, same_boundsJson, Json.same, same, SameButHidden, and_assoc]

theorem same_fragment_iff : c.fragment.same d.fragment = true ↔ c.same d = true ∨ c.SameButHidden d := by
  rw [fragment, fragment, same_single]
  constructor
  · rintro ⟨hname, hbody⟩
    exact (same_body_iff (ClauseKind.name_inj hname)).1 hbody
  · intro h
    have hkind : c.kind = d.kind := h.elim kind_eq_of_same kind_eq_of_sameButHidden
    exact ⟨congrArg ClauseKind.name hkind, (same_body_iff hkind).2 h⟩

end Clause

/-! ## Filters -/

namespace Filter

/-- The filters have one negation, and clauses that are the same but for what the fragment hides. -/
def SameButHidden (f g : Filter) : Prop := f.negate = g.negate ∧ f.clause.SameButHidden g.clause

/-- No fragment of a clause looks like a negation. -/
theorem not_same_fragment_negateFragment {c : Clause} {v : Json} :
    ¬ c.fragment.same (negateFragment v) = true ∧ ¬ (negateFragment v).same c.fragment = true := by
  simp only [Clause.fragment, negateFragment, same_single, c.kind.name_ne_not, c.kind.name_ne_not.symm, false_and,
    not_false_eq_true, and_self]

theorem same_fragment_iff (f g : Filter) :
    f.fragment.same g.fragment = true ↔ f.same g = true ∨ f.SameButHidden g := by
  obtain ⟨c, b⟩ := f
  obtain ⟨d, b'⟩ := g
  simp only [fragment, same, SameButHidden, Bool.and_eq_true, beq_iff_eq]
  cases b with
  | true =>
    cases b' with
    | true => simp [negateFragment, same_single, Clause.same_fragment_iff]
    | false => simp [not_same_fragment_negateFragment]
  | false =>
    cases b' with
    | true => simp [not_same_fragment_negateFragment]
    | false => simp [Clause.same_fragment_iff]

end Filter

/-! ## Requests -/

namespace Request

/-- What the queries tell of two requests is the same: both have identifiers, and these are the same, or neither has
any, and they have one text and filters with the same fragments. -/
inductive SameSearch (a b : Request) : Prop
  | byIds : a.ids ≠ [] → b.ids ≠ [] → sameElements a.ids b.ids = true → SameSearch a b
  | byContent : a.ids = [] → b.ids = [] → a.text = b.text →
      List.Forall₂ (fun f g => f.fragment.same g.fragment = true) a.filters b.filters → SameSearch a b

variable {a b : Request}

/-- An empty text stands for none, so no text is lost. -/
theorem textOption_inj {s t : String} :
    (if s = "" then none else some s) = (if t = "" then none else some t) ↔ s = t := by
  by_cases hs : s = "" <;> by_cases ht : t = "" <;> simp [hs, ht, eq_comm]

/-- Identifiers make a shape of their own. -/
theorem not_same_query_of_ids (ha : a.ids ≠ []) (hb : b.ids = []) :
    ¬ a.query.same b.query = true ∧ ¬ b.query.same a.query = true := by
  rw [query_of_ids ha]
  by_cases hf : b.filters = []
  · rw [query_of_text hb hf]
    by_cases ht : b.text = "" <;> simp [ht, Query.same]
  · rw [query_of_filters hb hf]
    simp [Query.same]

/-- Without identifiers, the shape of a query tells whether there are filters and whether there is a text. -/
theorem same_query_of_no_ids (ha : a.ids = []) (hb : b.ids = []) : a.query.same b.query = true ↔
    a.text = b.text ∧ List.Forall₂ (fun f g => f.fragment.same g.fragment = true) a.filters b.filters := by
  by_cases hf : a.filters = []
  · by_cases hg : b.filters = []
    · rw [query_of_text ha hf, query_of_text hb hg, hf, hg]
      by_cases hs : a.text = "" <;> by_cases ht : b.text = "" <;> simp [hs, ht, Query.same, @eq_comm _ ""]
    · rw [query_of_text ha hf, query_of_filters hb hg, hf, List.forall₂_nil_left_iff]
      by_cases hs : a.text = "" <;> simp [hs, hg, Query.same]
  · by_cases hg : b.filters = []
    · rw [query_of_filters ha hf, query_of_text hb hg, hg, List.forall₂_nil_right_iff]
      by_cases ht : b.text = "" <;> simp [ht, hf, Query.same]
    · rw [query_of_filters ha hf, query_of_filters hb hg, Query.same, Bool.and_eq_true, beq_iff_eq, textOption_inj,
        sameElements_iff, List.forall₂_map_left_iff, List.forall₂_map_right_iff, and_comm]

theorem same_query_iff : a.query.same b.query = true ↔ a.SameSearch b := by
  by_cases ha : a.ids = []
  · by_cases hb : b.ids = []
    · rw [same_query_of_no_ids ha hb]
      constructor
      · rintro ⟨htext, hfilters⟩
        exact .byContent ha hb htext hfilters
      · rintro (⟨hne, -⟩ | ⟨-, -, htext, hfilters⟩)
        · exact absurd ha hne
        · exact ⟨htext, hfilters⟩
    · refine iff_of_false (not_same_query_of_ids hb ha).2 ?_
      rintro (⟨hne, -⟩ | ⟨-, hb', -⟩)
      · exact hne ha
      · exact hb hb'
  · by_cases hb : b.ids = []
    · refine iff_of_false (not_same_query_of_ids ha hb).1 ?_
      rintro (⟨-, hne, -⟩ | ⟨ha', -⟩)
      · exact hne hb
      · exact ha ha'
    · rw [query_of_ids ha, query_of_ids hb, Query.same]
      constructor
      · exact .byIds ha hb
      · rintro (⟨-, -, hids⟩ | ⟨ha', -⟩)
        · exact hids
        · exact absurd ha' ha

end Request

/-- **Which requests compile to the same.** The queries of two requests are the same exactly when what they tell is
(`Request.SameSearch`). The fragments of two filters are the same exactly when the filters are, or when these are
distance clauses that differ in no more than their field hides (`Filter.SameButHidden`). -/
theorem same_compiled_iff :
    (∀ a b : Request, a.query.same b.query = true ↔ a.SameSearch b) ∧
      ∀ f g : Filter, f.fragment.same g.fragment = true ↔ f.same g = true ∨ f.SameButHidden g :=
  ⟨fun _ _ => Request.same_query_iff, Filter.same_fragment_iff⟩

/-- On a field called `unit` the unit is lost, and requests for miles and for kilometres have one query. -/
example : let r (unit : String) : Request :=
      { filters := [⟨.geoDistance "unit" (.int ⟨1, by decide, by decide⟩) unit ⟨.null, .null⟩, true⟩] }
    (r "mi").query.same (r "km").query = true ∧ (r "mi").same (r "km") = false := by decide

end QueryDsl
