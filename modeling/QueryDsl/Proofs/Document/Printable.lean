import QueryDsl.Proofs.Document.Rendering
import QueryDsl.Proofs.Json.Printable

/-!
# Printable documents

A request is made of JSON values and of texts (`Request.values`). Where its values are printable, so are the fragments
of its filters, the document of its query and the body of its search, whatever the texts are: no object that is made
has a key twice, and no number in it is a double.
-/

namespace QueryDsl

open Json

/-! ## Values -/

/-- The JSON values in a clause. -/
def Clause.values : Clause → List Json
  | term _ value => [value]
  | terms _ values => values
  | range _ bounds => [bounds.lower, bounds.upper]
  | geoDistance _ distance _ point => [.num distance, point.lat, point.lon]
  | docType _ => []
  | fieldExists _ => []
  | fieldMissing _ => []

/-- The JSON values in a request. -/
def Request.values (r : Request) : List Json := r.filters.flatMap (fun f => f.clause.values) ++ r.ids

theorem Request.forall_mem_values {r : Request} {p : Json → Prop} :
    (∀ v ∈ r.values, p v) ↔ (∀ f ∈ r.filters, ∀ v ∈ f.clause.values, p v) ∧ ∀ id ∈ r.ids, p id := by
  simp only [values, List.forall_mem_append, List.mem_flatMap, forall_exists_index, and_imp]
  exact and_congr ⟨fun h f hf v hv => h v f hf hv, fun h v f hf hv => h f hf v hv⟩ Iff.rfl

/-! ## Documents -/

/-- The fragment of a clause tells its values. -/
theorem Clause.printable_fragment {c : Clause} (h : ∀ v ∈ c.values, v.Printable) : c.fragment.Printable := by
  rw [fragment, printable_single]
  cases c with
  | term field value => simpa [body, values] using h
  | terms field values => simpa [body, Clause.values] using h
  | range field bounds => simpa [body, values, boundsJson] using h
  | geoDistance field distance unit point =>
    obtain ⟨hdistance, hlat, hlon⟩ : (Json.num distance).Printable ∧ point.lat.Printable ∧ point.lon.Printable := by
      simpa [values] using h
    -- the point may take the place of a member, which leaves the keys apart
    refine printable_obj.2 ⟨nodup_distanceBody, forall_mem_put ?_ ?_⟩
    · simpa [pointJson] using ⟨hlat, hlon⟩
    · simpa using hdistance
  | _ => simp [body]

theorem Filter.printable_fragment {f : Filter} (h : ∀ v ∈ f.clause.values, v.Printable) : f.fragment.Printable := by
  have hfragment := f.clause.printable_fragment h
  cases hnegate : f.negate <;> simpa [fragment, negateFragment, hnegate] using hfragment

/-- The values that a query holds. -/
def Query.values : Query → List Json
  | matchAll => []
  | ids values => values
  | queryString _ => []
  | filtered fragments _ => fragments

theorem Query.printable_toJson {q : Query} (h : ∀ v ∈ q.values, v.Printable) : q.toJson.Printable := by
  cases q with
  | filtered fragments text =>
    have hand : (Json.single "and" (.arr fragments)).Printable := by simpa [values] using h
    cases text <;> simpa [toJson, textQuery] using hand
  | ids values => simpa [toJson, constantScore, Query.values] using h
  | _ => simp [toJson, constantScore, textQuery]

theorem SearchBody.printable_wordMember (key : String) (word : Option UInt64) :
    ∀ m ∈ wordMember key word, m.2.Printable := by
  cases word <;> simp [wordMember]

namespace Request

variable {r : Request}

theorem printable_query (h : ∀ v ∈ r.values, v.Printable) : r.query.toJson.Printable := by
  obtain ⟨hfilters, hids⟩ := forall_mem_values.1 h
  refine Query.printable_toJson ?_
  by_cases hnoIds : r.ids = []
  · by_cases hnoFilters : r.filters = []
    · rw [query_of_text hnoIds hnoFilters]
      split <;> simp [Query.values]
    · rw [query_of_filters hnoIds hnoFilters]
      exact List.forall_mem_map.2 fun f hf => f.printable_fragment (hfilters f hf)
  · rw [query_of_ids hnoIds]
    exact hids

theorem printable_body (h : ∀ v ∈ r.values, v.Printable) : (SearchBody.ofRequest r).toJson.Printable := by
  refine printable_obj.2 ⟨(SearchBody.ofRequest r).nodup_members, List.forall_mem_cons.2 ⟨printable_query h, ?_⟩⟩
  exact List.forall_mem_append.2 ⟨SearchBody.printable_wordMember _ _, SearchBody.printable_wordMember _ _⟩

end Request

end QueryDsl
