import QueryDsl.Document.Compile

/-!
# What compiled queries mean

An `Engine` knows of each search document whether it has one of some identifiers, whether it matches a text, and
whether it meets a filter fragment that is no negation. On top of that, `Engine.evalQuery` reads a query document as a
condition on search documents, straight from its JSON; a document of any other shape has no value.

`evalQuery_query`: the document of a request always has a value, which is what the request asks for
(`Request.selects`). Neither the order of the filters nor how often one of them is given changes it.
-/

namespace QueryDsl

universe u

/-- What a search engine knows about documents of a type. -/
structure Engine (δ : Type u) where
  /-- Whether a document has one of the identifiers. -/
  hasId : List Json → δ → Bool
  /-- Whether a document matches the text. -/
  matchesText : String → δ → Bool
  /-- Whether a document meets the fragment, which has one key other than `not`. -/
  meets : Json → δ → Bool

/-! ## Evaluation of documents -/

namespace Engine

variable {δ : Type u} (e : Engine δ) (d : δ)

/-- The value of a filter fragment. -/
def evalFilter : Json → Option Bool
  | .obj [(key, v)] => if key = "not" then (evalFilter v).map (!·) else some (e.meets (.single key v) d)
  | _ => none

/-- Whether every one of some fragments holds, if all of them have values. -/
def evalFilters : List Json → Option Bool
  | [] => some true
  | f :: fs => do return (← e.evalFilter d f) && (← evalFilters fs)

/-- The value of a query document. -/
def evalQuery : Json → Option Bool
  | .obj [("constant_score", .obj [("query", q)])] => evalQuery q
  | .obj [("filtered", .obj [("filter", .obj [("and", .arr fs)])])] => e.evalFilters d fs
  | .obj [("filtered", .obj [("filter", .obj [("and", .arr fs)]), ("query", q)])] => do
    return (← e.evalFilters d fs) && (← evalQuery q)
  | .obj [("filtered", .obj [("query", q), ("filter", .obj [("and", .arr fs)])])] => do
    return (← e.evalFilters d fs) && (← evalQuery q)
  | .obj [("match_all", .obj [])] => some true
  | .obj [("ids", .obj [("values", .arr values)])] => some (e.hasId values d)
  | .obj [("query_string", .obj [("query", .str text)])] => some (e.matchesText text d)
  | _ => none

end Engine

/-- Whether a request asks for a document: by identifier if it has any, else by every filter and by the text. -/
def Request.selects {δ : Type u} (e : Engine δ) (r : Request) (d : δ) : Bool :=
  if r.ids ≠ [] then e.hasId r.ids d
  else
    r.filters.all (fun f => e.meets f.clause.fragment d != f.negate) && (r.text = "" || e.matchesText r.text d)

namespace Engine

section Values

variable {δ : Type u} (e : Engine δ) (d : δ)

/-! ## Filters -/

/-- A fragment without its wrap is left to the engine, whatever its field is called. -/
theorem evalFilter_fragment (c : Clause) : e.evalFilter d c.fragment = some (e.meets c.fragment d) := by
  show e.evalFilter d (.obj [(c.kind.name, c.body)]) = _
  rw [evalFilter, if_neg c.kind.name_ne_not]
  rfl

/-- The wrap is negation. -/
theorem evalFilter_negateFragment (f : Json) :
    e.evalFilter d (negateFragment f) = (e.evalFilter d f).map (!·) := by
  show e.evalFilter d (.obj [("not", f)]) = _
  rw [evalFilter, if_pos rfl]

/-- A filter holds where its clause and its flag differ. -/
theorem evalFilter_filter (f : Filter) :
    e.evalFilter d f.fragment = some (e.meets f.clause.fragment d != f.negate) := by
  unfold Filter.fragment
  cases f.negate with
  | true => rw [if_pos rfl, evalFilter_negateFragment, evalFilter_fragment]; simp
  | false => rw [if_neg (by simp), evalFilter_fragment]; simp

/-- Compiled filters all have values. -/
theorem evalFilters_map_fragment (fs : List Filter) : e.evalFilters d (fs.map Filter.fragment) =
    some (fs.all fun f => e.meets f.clause.fragment d != f.negate) := by
  induction fs with
  | nil => rfl
  | cons f fs ih =>
    rw [List.map_cons, evalFilters, evalFilter_filter, ih]
    rfl

/-! ## The shapes of a query -/

theorem evalQuery_constantScore (q : Json) : e.evalQuery d (Query.constantScore q) = e.evalQuery d q := by
  rw [Query.constantScore, Json.single, Json.single, evalQuery]

theorem evalQuery_textQuery (text : String) :
    e.evalQuery d (Query.textQuery text) = some (e.matchesText text d) := by
  rw [Query.textQuery, Json.single, Json.single, evalQuery]

/-- A filtered query without a text means its filters. -/
theorem evalQuery_filtered_none (fragments : List Json) :
    e.evalQuery d (Query.filtered fragments none).toJson = e.evalFilters d fragments := by
  show e.evalQuery d (.obj [("filtered", .obj [("filter", .obj [("and", .arr fragments)])])]) = _
  rw [evalQuery]

/-- A filtered query with a text means its filters and the text. -/
theorem evalQuery_filtered_some (fragments : List Json) (text : String) :
    e.evalQuery d (Query.filtered fragments (some text)).toJson =
      (e.evalFilters d fragments).map (· && e.matchesText text d) := by
  show e.evalQuery d (.obj [("filtered", .obj [("filter", .obj [("and", .arr fragments)]),
    ("query", Query.textQuery text)])]) = _
  rw [evalQuery, evalQuery_textQuery]
  cases e.evalFilters d fragments <;> rfl

/-- The document of a request has a value, and it is what the request asks for. -/
theorem evalQuery_toJson_query (r : Request) : e.evalQuery d r.query.toJson = some (r.selects e d) := by
  unfold Request.query Request.selects
  by_cases hi : r.ids = []
  · by_cases hf : r.filters = []
    · by_cases ht : r.text = ""
      · simp [hi, hf, ht, Query.toJson, evalQuery_constantScore, Json.single, evalQuery]
      · simp [hi, hf, ht, Query.toJson, evalQuery_constantScore, evalQuery_textQuery]
    · by_cases ht : r.text = ""
      · simp [hi, hf, ht, evalQuery_filtered_none, evalFilters_map_fragment]
      · simp [hi, hf, ht, evalQuery_filtered_some, evalFilters_map_fragment]
  · simp [hi, Query.toJson, evalQuery_constantScore, Json.single, evalQuery]

/-- What a request asks for depends on which filters it has only. -/
theorem selects_congr_filters {r : Request} {fs : List Filter} (h₁ : fs ⊆ r.filters) (h₂ : r.filters ⊆ fs) :
    Request.selects e { r with filters := fs } d = r.selects e d := by
  have hall (p : Filter → Bool) : fs.all p = r.filters.all p := by
    rw [Bool.eq_iff_iff, List.all_eq_true, List.all_eq_true]
    exact ⟨fun h f hf => h f (h₂ hf), fun h f hf => h f (h₁ hf)⟩
  simp only [Request.selects, hall]

/-- **Compilation keeps the meaning.** The document of a request has a value for every engine and every search
document, and it is what the request asks for; filters may be put in another order or repeated. -/
theorem evalQuery_query (r : Request) :
    e.evalQuery d r.query.toJson = some (r.selects e d) ∧
      ∀ fs : List Filter, fs ⊆ r.filters → r.filters ⊆ fs →
        e.evalQuery d (Request.query { r with filters := fs }).toJson = e.evalQuery d r.query.toJson := by
  refine ⟨evalQuery_toJson_query e d r, fun fs h₁ h₂ => ?_⟩
  rw [evalQuery_toJson_query, evalQuery_toJson_query, selects_congr_filters e d h₁ h₂]

/-- Two filters on fields named like parts of a query, in either order. -/
theorem evalQuery_query_swap :
    let e : Engine Unit := ⟨fun _ _ => false, fun text _ => text = "abc", fun f _ => f matches .obj [("exists", _)]⟩
    let f : Filter := ⟨.fieldExists "not", false⟩
    let g : Filter := ⟨.term "and" .null, true⟩
    let r : Request := { text := "abc", filters := [f, g] }
    e.evalQuery () r.query.toJson = some true ∧
      e.evalQuery () (Request.query { r with filters := [g, f] }).toJson = e.evalQuery () r.query.toJson := by
  intro e f g r
  have h := evalQuery_query e () r
  exact ⟨h.1.trans (by decide), h.2 [g, f] (by simp [r]) (by simp [r])⟩

end Values

end Engine

end QueryDsl
