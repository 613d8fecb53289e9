import QueryDsl.Proofs.Document.Kernel

/-!
# What a distance fragment keeps

A distance fragment has its point under the field, always. The distance and the unit stand beside it under names of
their own, and on a field with one of these names the point takes the place of the distance or of the unit
(`geoDistance_fragment`): then filters that differ in this part alone have one fragment.
-/

namespace QueryDsl

open Json

section Distance

variable {f g u w : String} {x y : Number} {p q : GeoPoint}

namespace Clause

/-- What stands beside the point is kept on every field but the one that has its name. -/
theorem lookup_distanceBody_iff {name : String} {v : Json}
    (hname : [("distance", .num x), ("unit", .str u)].lookup name = some v) (hv : pointJson p ≠ v) :
    (distanceBody f x u p).lookup name = some v ↔ f ≠ name := by
  rw [distanceBody, lookup_put, hname]
  by_cases hf : name = f
  · rw [if_pos hf, Option.some.injEq]
    exact iff_of_false hv (not_not_intro hf.symm)
  · rw [if_neg hf]
    exact iff_of_true rfl (Ne.symm hf)

theorem fragment_geoDistance (f : String) (x : Number) (u : String) (p : GeoPoint) :
    (geoDistance f x u p).fragment = .single "geo_distance" (.obj (distanceBody f x u p)) := rfl

/-- Two distance fragments are the same when what they have under the kind is. -/
theorem same_fragment_geoDistance : (geoDistance f x u p).fragment.same (geoDistance g y w q).fragment = true ↔
    f = g ∧ (pointJson p).same (pointJson q) = true ∧ (f = "distance" ∨ x.same y = true) ∧ (f = "unit" ∨ u = w) := by
  rw [← same_body_geoDistance]
  exact same_single.trans (and_iff_right rfl)

/-- The point takes the place of any distance. -/
theorem distanceBody_on_distance (x y : Number) (u : String) (p : GeoPoint) :
    distanceBody "distance" x u p = distanceBody "distance" y u p := rfl

/-- The point takes the place of any unit. -/
theorem distanceBody_on_unit (x : Number) (u w : String) (p : GeoPoint) :
    distanceBody "unit" x u p = distanceBody "unit" x w p := rfl

end Clause

namespace Filter

/-- A fragment in front of which a negation is written or not. -/
def negatedIf (negate : Bool) (fragment : Json) : Json := if negate then negateFragment fragment else fragment

theorem fragment_mk (c : Clause) (b : Bool) : fragment ⟨c, b⟩ = negatedIf b c.fragment := rfl

/-- A negation in front of both of two fragments is no matter. -/
theorem same_negatedIf {v v' : Json} (b : Bool) : (negatedIf b v).same (negatedIf b v') = v.same v' := by
  cases b with
  | false => rfl
  | true =>
    have hiff : (negateFragment v).same (negateFragment v') = true ↔ v.same v' = true :=
      same_single.trans (and_iff_right rfl)
    exact Bool.eq_iff_iff.2 hiff

end Filter

/-- **What a distance fragment keeps.** The object under `geo_distance` has each key once, and under the field it has
the point. It has the distance under `distance` exactly where the field is not called so, and the unit under `unit`
likewise. Filters that differ in the distance alone have different fragments, unless the field is called `distance`;
then they have one fragment, whatever the distance. So it is with the unit. -/
theorem geoDistance_fragment (f : String) (x : Number) (u : String) (p : GeoPoint) (negate : Bool) :
    let fragment (x : Number) (u : String) : Json := Filter.fragment ⟨.geoDistance f x u p, negate⟩
    (∃ ms : Members, fragment x u = Filter.negatedIf negate (.single "geo_distance" (.obj ms)) ∧
      (ms.map Prod.fst).Nodup ∧ ms.lookup f = some (.obj [("lat", p.lat), ("lon", p.lon)]) ∧
      (ms.lookup "distance" = some (.num x) ↔ f ≠ "distance") ∧ (ms.lookup "unit" = some (.str u) ↔ f ≠ "unit")) ∧
    (∀ y, f ≠ "distance" → x.same y = false → (fragment x u).same (fragment y u) = false) ∧
    (∀ w, f ≠ "unit" → u ≠ w → (fragment x u).same (fragment x w) = false) ∧
    (f = "distance" → ∀ y, fragment x u = fragment y u) ∧
    (f = "unit" → ∀ w, fragment x u = fragment x w) := by
  intro fragment
  have hfragment (y : Number) (w : String) : fragment y w =
      Filter.negatedIf negate (.single "geo_distance" (.obj (Clause.distanceBody f y w p))) := by
    rw [← Clause.fragment_geoDistance]
    exact Filter.fragment_mk _ negate
  have hsame (y : Number) (w : String) : (fragment x u).same (fragment y w) = true →
      (f = "distance" ∨ x.same y = true) ∧ (f = "unit" ∨ u = w) := by
    intro h
    rw [hfragment, hfragment, Filter.same_negatedIf, ← Clause.fragment_geoDistance, ← Clause.fragment_geoDistance,
      Clause.same_fragment_geoDistance] at h
    exact h.2.2
  refine ⟨⟨Clause.distanceBody f x u p, hfragment x u, Clause.nodup_distanceBody, ?_,
    Clause.lookup_distanceBody_iff rfl Json.noConfusion, Clause.lookup_distanceBody_iff rfl Json.noConfusion⟩,
    ?_, ?_, ?_, ?_⟩
  · rw [Clause.lookup_distanceBody, if_pos rfl]
    rfl
  · intro y hf hxy
    by_contra h
    rcases (hsame y u (Bool.of_not_eq_false h)).1 with hdistance | hxy'
    · exact hf hdistance
    · simp [hxy] at hxy'
  · intro w hf huw
    by_contra h
    rcases (hsame x w (Bool.of_not_eq_false h)).2 with hunit | huw'
    · exact hf hunit
    · exact huw huw'
  · rintro rfl y
    rw [hfragment, hfragment, Clause.distanceBody_on_distance x y]
  · rintro rfl w
    rw [hfragment, hfragment, Clause.distanceBody_on_unit x u w]

/-- On a field called `unit`, a negated filter keeps its distance and loses its unit. -/
theorem geoDistance_fragment_unit :
    let one : Number := .int ⟨1, by decide, by decide⟩
    let two : Number := .int ⟨2, by decide, by decide⟩
    let fragment (x : Number) (u : String) : Json := Filter.fragment ⟨.geoDistance "unit" x u ⟨.null, .arr []⟩, true⟩
    (fragment one "mi").same (fragment two "mi") = false ∧ fragment one "mi" = fragment one "km" := by
  intro one two fragment
  obtain ⟨-, hdistance, -, -, hunit⟩ := geoDistance_fragment "unit" one "mi" ⟨.null, .arr []⟩ true
  exact ⟨hdistance two (by decide) (by decide), hunit rfl "km"⟩

/-- On a field called `distance` the distance is lost: filters for one mile and for two have one fragment. -/
theorem geoDistance_fragment_hides_distance :
    let one : Number := .int ⟨1, by decide, by decide⟩
    let two : Number := .int ⟨2, by decide, by decide⟩
    let fragment (x : Number) : Json :=
      Filter.fragment ⟨.geoDistance "distance" x "mi" ⟨.num one, .num two⟩, false⟩
    one.same two = false ∧ (fragment one).same (fragment two) = true ∧ fragment one = .single "geo_distance"
      (.obj [("distance", .obj [("lat", .num one), ("lon", .num two)]), ("unit", .str "mi")]) := by
  intro one two fragment
  exact ⟨by decide, by decide, rfl⟩

end Distance

end QueryDsl
