import QueryDsl.Document.SearchBody
import QueryDsl.Proofs.Document.Kernel
import QueryDsl.Proofs.Request.Parts

/-!
# Documents and bodies tell everything

The documents of two queries are the same only if the queries are (`Query.same_toJson_iff`), and so it is with the
bodies of searches (`SearchBody.same_toJson_iff`). The queries are arbitrary here: they may have no identifiers, no
fragments or an empty text, and any JSON as identifiers and fragments.
-/

namespace QueryDsl

open Json

/-! ## Documents -/

namespace Query

theorem same_textQuery_iff {s t : String} : (textQuery s).same (textQuery t) = true ↔ s = t := by
  simp [textQuery, same_single, Json.same]

/-- What a filtered document holds: the fragments and, if there is one, the text. -/
def filteredMembers (fragments : List Json) (text : Option String) : Members :=
  ("filter", .single "and" (.arr fragments)) :: (text.map fun t => ("query", textQuery t)).toList

theorem same_filteredMembers_iff {fs gs : List Json} {s t : Option String} :
    (Json.obj (filteredMembers fs s)).same (.obj (filteredMembers gs t)) = true ↔
      sameElements fs gs = true ∧ s = t := by
  cases s <;> cases t <;>
    simp [filteredMembers, Json.same, sameMembers, Members.lookup_cons, same_single, same_textQuery_iff]

/-- The document of a query tells the query: its name tells the shape, and nothing in it is lost. -/
theorem same_toJson_iff (x y : Query) : x.toJson.same y.toJson = true ↔ x.same y = true := by
  have hdocument (fs : List Json) (s : Option String) :
      (filtered fs s).toJson = .single "filtered" (.obj (filteredMembers fs s)) := rfl
  cases x <;> cases y
  case filtered.filtered fs s gs t =>
    rw [hdocument, hdocument, same_single, same_filteredMembers_iff, Query.same, Bool.and_eq_true, beq_iff_eq]
    simp only [true_and]
  all_goals simp [toJson, constantScore, textQuery, same_single, Query.same, Json.same, sameMembers]

end Query

/-! ## Bodies -/

namespace SearchBody

theorem lookup_wordMember (key : String) (word : Option UInt64) (name : String) :
    (wordMember key word).lookup name = if name = key then word.map wordJson else none := by
  cases word with
  | none => simp [wordMember]
  | some w => simp [wordMember, Members.lookup_cons, wordJson]

theorem rel_map_wordJson {o o' : Option UInt64} :
    Option.Rel (fun v w => v.same w = true) (o.map wordJson) (o'.map wordJson) ↔ o = o' := by
  have hword (m n : UInt64) : (wordJson m).same (wordJson n) = true ↔ m = n := by
    simp only [wordJson, Json.same, Number.same, Integer.ofWord, beq_iff_eq, Int.natCast_inj, UInt64.toNat_inj]
  cases o <;> cases o' <;> simp [hword]

/-- The members of a body. -/
def members (b : SearchBody) : Members :=
  ("query", b.query.toJson) :: (wordMember "size" b.size ++ wordMember "from" b.offset)

theorem nodup_members (b : SearchBody) : (b.members.map Prod.fst).Nodup := by
  obtain ⟨q, size, offset⟩ := b
  cases size <;> cases offset <;> simp [members, wordMember]

theorem lookup_members (b : SearchBody) (name : String) : b.members.lookup name =
    if name = "query" then some b.query.toJson else if name = "size" then b.size.map wordJson
    else if name = "from" then b.offset.map wordJson else none := by
  rw [members, Members.lookup_cons, List.lookup_append, lookup_wordMember, lookup_wordMember]
  grind

/-- A body tells its query and its page. -/
theorem same_toJson_iff (a b : SearchBody) : a.toJson.same b.toJson = true ↔ a.same b = true := by
  show (Json.obj a.members).same (.obj b.members) = true ↔ _
  rw [same_obj_iff a.nodup_members b.nodup_members]
  simp only [SearchBody.same, Bool.and_eq_true, beq_iff_eq, ← Query.same_toJson_iff, lookup_members]
  constructor
  · intro h
    have hquery : a.query.toJson.same b.query.toJson = true := by simpa using h "query"
    have hsize : a.size = b.size := by simpa [rel_map_wordJson] using h "size"
    have hoffset : a.offset = b.offset := by simpa [rel_map_wordJson] using h "from"
    exact ⟨⟨hquery, hsize⟩, hoffset⟩
  · rintro ⟨⟨hquery, hsize⟩, hoffset⟩ name
    rw [hsize, hoffset]
    split
    · exact .some hquery
    · split
      · exact rel_map_wordJson.2 rfl
      · split
        · exact rel_map_wordJson.2 rfl
        · exact .none

end SearchBody

/-! ## Requests -/

namespace Request

variable {a b : Request}

theorem sameFilters_iff {fs gs : List Filter} :
    sameFilters fs gs = true ↔ List.Forall₂ (fun f g => f.same g = true) fs gs := by
  induction fs generalizing gs with
  | nil => cases gs <;> simp [sameFilters]
  | cons f fs ih =>
    cases gs with
    | nil => simp [sameFilters]
    | cons g gs => rw [sameFilters, Bool.and_eq_true, ih, List.forall₂_cons]

/-- Requests that are the same have the same query. -/
theorem same_query_of_same (h : a.same b = true) : a.query.same b.query = true := by
  simp only [Request.same, Bool.and_eq_true, beq_iff_eq, sameFilters_iff] at h
  obtain ⟨⟨⟨⟨htext, hfilters⟩, hids⟩, -⟩, -⟩ := h
  rw [same_query_iff]
  by_cases ha : a.ids = []
  · refine .byContent ha ?_ htext (hfilters.imp fun f g hfg => (Filter.same_fragment_iff f g).2 (Or.inl hfg))
    rw [sameElements_iff, ha, List.forall₂_nil_left_iff] at hids
    exact hids
  · refine .byIds ha (fun hb => ?_) hids
    rw [sameElements_iff, hb, List.forall₂_nil_right_iff] at hids
    exact ha hids

theorem same_body_of_same (h : a.same b = true) : (SearchBody.ofRequest a).same (.ofRequest b) = true := by
  have hquery := same_query_of_same h
  simp only [Request.same, Bool.and_eq_true, beq_iff_eq] at h
  obtain ⟨⟨-, hsize⟩, hoffset⟩ := h
  simp [SearchBody.same, SearchBody.ofRequest, hquery, hsize, hoffset]

end Request

/-- **Rendering is unambiguous and respects equality.** The documents of two queries are the same exactly when the
queries are, and the bodies of two searches exactly when their queries and pages are. Requests that are the same have
the same body. Values are the same exactly when they differ in the order of members alone, at whatever depth. -/
theorem same_rendered_iff :
    (∀ x y : Query, x.toJson.same y.toJson = true ↔ x.same y = true) ∧
    (∀ x y : SearchBody, x.toJson.same y.toJson = true ↔
      x.query.same y.query = true ∧ x.size = y.size ∧ x.offset = y.offset) ∧
    (∀ a b : Request, a.same b = true → (SearchBody.ofRequest a).same (.ofRequest b) = true) ∧
    ∀ v w : Json, v.WellFormed → w.WellFormed → (v.same w = true ↔ SameUpToOrder v w) := by
  refine ⟨Query.same_toJson_iff, fun x y => ?_, fun a b => Request.same_body_of_same, fun v w => same_iff_sameUpToOrder⟩
  rw [SearchBody.same_toJson_iff, SearchBody.same, Bool.and_eq_true, Bool.and_eq_true, beq_iff_eq, beq_iff_eq,
    and_assoc]

/-- Two terms whose values differ in the order of members, in an object and in an object below an array. -/
theorem same_rendered_reordered_terms :
    let v : Json := .obj [("a", .null), ("b", .arr [.obj [("x", .bool true), ("y", .str "z")]])]
    let w : Json := .obj [("b", .arr [.obj [("y", .str "z"), ("x", .bool true)]]), ("a", .null)]
    let r (v : Json) : Request := { text := "abc", filters := [⟨.term "f" v, true⟩], size := some 10 }
    (SearchBody.ofRequest (r v)).same (.ofRequest (r w)) = true ∧ SameUpToOrder v w := by
  intro v w r
  have hv : v.WellFormed := by simp [v, WellFormed, WellFormedMembers, WellFormedElements]
  have hw : w.WellFormed := by simp [w, WellFormed, WellFormedMembers, WellFormedElements]
  exact ⟨same_rendered_iff.2.2.1 (r v) (r w) (by decide), (same_rendered_iff.2.2.2 v w hv hw).1 (by decide)⟩

end QueryDsl
