import QueryDsl.Proofs.Clause.Reordering
import QueryDsl.Proofs.Clause.Respelling
import QueryDsl.Proofs.Request.Insertion

/-!
# Requests with their members in another order

Objects that say the same, up to filters that are read alike (`Members.Corresponds`), are decoded alike
(`Members.Corresponds.ofJson_agree`). The members of a request object, of its clauses and of their points may stand in
any order, and keys with two names may go by either (`ofJson_reordered`).
-/

namespace QueryDsl

open Checks

/-- The elements of a list are related one by one; any other value stays. -/
inductive ListWith (R : Json → Json → Prop) : Json → Json → Prop
  | same (v : Json) : ListWith R v v
  | arr {xs ys : List Json} : List.Forall₂ R xs ys → ListWith R (.arr xs) (.arr ys)

namespace Members

variable {ms mid ns : Members} {R : Json → Json → Prop}

/-- The value of the text is the chosen one. -/
theorem part_text : ms.part .text = (ms.lookup (ms.choose "q" "freeText")).getD .null := by
  simp only [part, RequestKey.names, firstPresent?_pair, Option.map_map, Function.comp_def, Option.map_id']

/-- The objects say the same of a request, up to the elements of the filters. -/
structure Corresponds (R : Json → Json → Prop) (ms ns : Members) : Prop where
  text : SameChoice "q" "freeText" ms ns
  filters : Option.Rel (ListWith R) (ms.lookup "filters") (ns.lookup "filters")
  others : ∀ key, key ∉ RequestKey.text.names → key ≠ "filters" → ns.lookup key = ms.lookup key

namespace Corresponds

theorem symm (h : Corresponds R ms ns) : Corresponds (flip R) ns ms := by
  refine ⟨h.text.symm, ?_, fun key htext hfilters => (h.others key htext hfilters).symm⟩
  have hfilters := h.filters
  generalize ms.lookup "filters" = o, ns.lookup "filters" = o' at hfilters
  cases hfilters with
  | none => exact .none
  | some hvw =>
    cases hvw with
    | same => exact .some (.same _)
    | arr hxs => exact .some (.arr hxs.flip)

theorem forall_mem_requestNames_iff (h : Corresponds R ms ns) :
    (∀ m ∈ ms, m.1 ∈ requestNames) ↔ ∀ n ∈ ns, n.1 ∈ requestNames := by
  rw [forall_key_iff (· ∈ requestNames), forall_key_iff (· ∈ requestNames)]
  refine forall_congr' fun key => ?_
  by_cases hkey : key ∈ requestNames
  · simp only [hkey, implies_true]
  · have htext : key ∉ RequestKey.text.names :=
      fun hmem => hkey (mem_requestNames.2 ⟨.text, RequestKey.ofKey?_eq_some.2 hmem⟩)
    have hfilters : key ≠ "filters" := by
      rintro rfl
      exact hkey (by decide)
    rw [h.others key htext hfilters]

theorem part_eq (h : Corresponds R ms ns) {key : RequestKey} (hkey : key ≠ .filters) : ns.part key = ms.part key := by
  by_cases htext : key = .text
  · rw [htext, part_text, part_text, h.text.chosen]
  · rw [part_eq_lookup htext, part_eq_lookup htext, h.others]
    · cases key <;> first | exact absurd rfl htext | decide
    · cases key <;> first | exact absurd rfl hkey | decide

theorem part_filters (h : Corresponds R ms ns) : ListWith R (ms.part .filters) (ns.part .filters) := by
  rw [part_eq_lookup (by decide), part_eq_lookup (by decide)]
  have hfilters := h.filters
  show ListWith R ((ms.lookup "filters").getD .null) ((ns.lookup "filters").getD .null)
  generalize ms.lookup "filters" = o, ns.lookup "filters" = o' at hfilters
  cases hfilters with
  | none => exact .same .null
  | some hvw => exact hvw

/-- An object that corresponds to one that holds parts holds the same parts, but for related filters. -/
theorem exists_objectForm (h : Corresponds R ms ns) (hR : ∀ v, R v v) {p : Parts} (hp : p.ObjectForm ms) :
    ∃ fs, Parts.ObjectForm { p with filters := fs } ns ∧ List.Forall₂ R (p.filters.getD []) (fs.getD []) := by
  have hform {fs : Option (List Json)} (hfs : ns.part .filters = fs.elim .null .arr) :
      Parts.ObjectForm { p with filters := fs } ns := by
    refine ⟨h.forall_mem_requestNames_iff.1 hp.known, h.text.single.1 hp.oneText, fun key => ?_⟩
    cases key with
    | filters => exact hfs
    | _ => exact (h.part_eq (by decide)).trans (hp.holds _)
  have hfilters := h.part_filters
  rw [hp.holds .filters, Parts.element] at hfilters
  generalize hw : ns.part .filters = w at hfilters
  cases hxs : p.filters with
  | none =>
    rw [hxs] at hfilters
    cases hfilters with
    | same => exact ⟨none, hform hw, .nil⟩
  | some xs =>
    rw [hxs] at hfilters
    cases hfilters with
    | same => exact ⟨some xs, hform hw, List.forall₂_same.2 fun v _ => hR v⟩
    | @arr _ ys hys => exact ⟨some ys, hform hw, hys⟩

/-- Objects that say the same are decoded alike, if their filters are. -/
theorem ofJson_agree {E : QueryError → QueryError → Prop} (hE : ∀ e, E e e)
    (hinvalid : ∀ reason reason', E (.invalidRequest reason) (.invalidRequest reason'))
    (hms : (ms.map Prod.fst).Nodup) (hns : (ns.map Prod.fst).Nodup)
    (h : Corresponds (fun v w => Agree E Eq (Filter.ofJson v) (Filter.ofJson w)) ms ns) :
    Agree E Eq (Request.ofJson (.obj ms)) (Request.ofJson (.obj ns)) := by
  have hrefl (v : Json) : Agree E Eq (Filter.ofJson v) (Filter.ofJson v) := Agree.of_eq hE rfl
  by_cases hform : ∃ p : Parts, p.ObjectForm ms
  · obtain ⟨p, hp⟩ := hform
    obtain ⟨fs, hp', hfs⟩ := h.exists_objectForm hrefl hp
    rw [Request.ofJson_of_objectForm hms hp, Request.ofJson_of_objectForm hns hp', Request.ofParts, Request.ofParts,
      decodeFilters_eq_mapM, decodeFilters_eq_mapM]
    refine (Agree.of_eq hE rfl).bind fun _ _ _ => (Agree.mapM hfs fun _ _ hvw => hvw).map fun gs gs' hgs => ?_
    rw [List.forall₂_eq_eq_eq] at hgs
    rw [hgs]
    rfl
  · -- neither object holds parts, and both are refused as requests, for whatever reason
    have hform' : ¬ ∃ p : Parts, p.ObjectForm ns := by
      rintro ⟨p, hp⟩
      obtain ⟨fs, hp', -⟩ := h.symm.exists_objectForm hrefl hp
      exact hform ⟨_, hp'⟩
    obtain ⟨reason, hreason⟩ := Request.refused_of_forall_not_objectForm (not_exists.1 hform)
    obtain ⟨reason', hreason'⟩ := Request.refused_of_forall_not_objectForm (not_exists.1 hform')
    rw [hreason, hreason']
    exact .error (hinvalid reason reason')

end Corresponds

end Members

/-! ## Other orders and other names -/

/-- What reordering a request does to its values: the clauses are reordered too, and the other values stay. -/
def WithinRequest (R : Json → Json → Prop) (key : String) : Json → Json → Prop :=
  if key = "filters" then ListWith R else Eq

namespace Members

variable {ms mid ns : Members} {R : Json → Json → Prop}

/-- Objects whose look-ups are related correspond. -/
theorem Corresponds.of_lookup_rel (h : ∀ key, Option.Rel (WithinRequest R key) (ms.lookup key) (ns.lookup key)) :
    Corresponds R ms ns := by
  have hother {key : String} (hkey : key ≠ "filters") : ns.lookup key = ms.lookup key := by
    have hrel := h key
    rw [WithinRequest, if_neg hkey] at hrel
    exact eq_of_rel_eq hrel
  refine ⟨.of_lookup_eq (hother (by decide)) (hother (by decide)), ?_, fun key _ => hother⟩
  have hrel := h "filters"
  rwa [WithinRequest, if_pos rfl] at hrel

/-- Another name for the text changes nothing else. -/
theorem Corresponds.of_respelled (h : Respelled RequestKey.text.names ms ns) : Corresponds R ms ns := by
  have hother {key : String} (hkey : key ∉ RequestKey.text.names) : ns.lookup key = ms.lookup key := by
    simp only [RequestKey.names, List.mem_cons, List.not_mem_nil, or_false, not_or] at hkey
    exact h.lookup_eq hkey.1 hkey.2
  refine ⟨h.sameChoice, ?_, fun key htext _ => hother htext⟩
  rw [hother (by decide)]
  cases ms.lookup "filters" with
  | none => exact .none
  | some v => exact .some (.same v)

/-- The relation of the filters may be replaced by another one that their elements have. -/
theorem Corresponds.imp {S : Json → Json → Prop} (h : Corresponds R ms ns)
    (hRS : ∀ xs, ms.lookup "filters" = some (.arr xs) → ∀ v ∈ xs, ∀ w, R v w → S v w) : Corresponds S ms ns := by
  refine ⟨h.text, ?_, h.others⟩
  have hfilters := h.filters
  cases hv : ms.lookup "filters" with
  | none =>
    rw [(eq_none_iff_of_rel hfilters).1 hv]
    exact .none
  | some v =>
    obtain ⟨w, hw, hvw⟩ := rel_some.1 (hv ▸ hfilters)
    rw [hw]
    cases hvw with
    | same => exact .some (.same v)
    | @arr xs ys hxs =>
      refine .some (.arr ?_)
      have hmem : List.Forall₂ (fun v w => v ∈ xs ∧ R v w) xs ys :=
        (List.forall₂_and_left xs ys).2 ⟨fun v hv => hv, hxs⟩
      exact hmem.imp fun v w h => hRS xs hv v h.1 w h.2

/-- The members of the request, of its clauses and of their points are put in another order. -/
def RequestReordered : Members → Members → Prop := Reordered (WithinRequest ClauseReordered)

/-- The text of the request, and the kind and the negation of its clauses, may go by another name. -/
def RequestRespelled (ms ns : Members) : Prop :=
  ∃ mid, Respelled RequestKey.text.names ms mid ∧ Alike (WithinRequest ClauseRespelled) mid ns

end Members

namespace Request

variable {ms ns : Members}

/-- A request that is reordered is decoded to the same, or refused with an error that resembles the one before. -/
theorem agree_of_reordered (h : ms.RequestReordered ns) (hms : (Json.obj ms).WellFormed) :
    Agree QueryError.Resembles Eq (ofJson (.obj ms)) (ofJson (.obj ns)) := by
  have hcorresponds := Members.Corresponds.of_lookup_rel (h.lookup_rel hms.1)
  refine Members.Corresponds.ofJson_agree .rfl .invalidRequest hms.1 (h.nodup_iff.1 hms.1) (hcorresponds.imp ?_)
  intro xs hxs v hv w hvw
  exact Filter.agree_of_clauseReordered hvw (Json.wellFormedElements_iff.1 (hms.lookup hxs) v hv)

/-- A request that is respelled is decoded to the same. -/
theorem ofJson_of_respelled {r : Request} (h : ms.RequestRespelled ns) (hr : ofJson (.obj ms) = .ok r) :
    ofJson (.obj ns) = .ok r := by
  obtain ⟨mid, htext, halike⟩ := h
  have hms : (ms.map Prod.fst).Nodup := (ofJson_obj_eq_ok.1 hr).1
  have hmid : (mid.map Prod.fst).Nodup := htext.nodup hms
  have hns : (ns.map Prod.fst).Nodup := halike.map_fst_eq ▸ hmid
  have hfirst : Agree (fun _ _ => True) Eq (ofJson (.obj ms)) (ofJson (.obj mid)) :=
    (Members.Corresponds.of_respelled htext).ofJson_agree (fun _ => trivial) (fun _ _ => trivial) hms hmid
  have hclauses := (Members.Corresponds.of_lookup_rel halike.lookup_rel).imp fun _ _ _ _ _ h =>
    Filter.agree_of_clauseRespelled h
  exact (hclauses.ofJson_agree (fun _ => trivial) (fun _ _ => trivial) hmid hns).eq_ok (hfirst.eq_ok hr)

/-- **Order and spelling do not matter.** A request object whose members are put in another order, with those of its
clauses and of their points, is decoded to the same request; an error is the same, except that another stray field of
the same kind of clause may be named and that the reason for refusing the request may be worded otherwise. A request
that is accepted is decoded to the same where keys go by their other names. -/
theorem ofJson_reordered (ms ns : Members) :
    ((Json.obj ms).WellFormed → ms.RequestReordered ns →
      (∀ r, ofJson (.obj ms) = .ok r → ofJson (.obj ns) = .ok r) ∧
      ∀ e, ofJson (.obj ms) = .error e → ∃ e', ofJson (.obj ns) = .error e' ∧ e.Resembles e') ∧
    (ms.RequestRespelled ns → ∀ r, ofJson (.obj ms) = .ok r → ofJson (.obj ns) = .ok r) := by
  refine ⟨fun hms h => ?_, fun h r => ofJson_of_respelled h⟩
  have hagree := agree_of_reordered h hms
  exact ⟨fun r hr => hagree.eq_ok hr, fun e he => hagree.exists_eq_error he⟩

/-- A distance clause and its request, with the members from back to front, and then with the other names. -/
theorem ofJson_reordered_distance :
    let point : Members := [("lon", .str "13"), ("lat", .str "52")]
    let clause (kind negation : String) (point : Members) : Members :=
      [(kind, .str "geo_distance"), (negation, .bool true), ("field", .str "place"), ("distance", wordJson 3),
        ("unit", .str "km"), ("point", .obj point)]
    let ms (text : String) (clause : Members) : Members := [(text, .str "abc"), ("filters", .arr [.obj clause])]
    let r : Request := { text := "abc", filters :=
      [⟨.geoDistance "place" (.int (.ofWord 3)) "km" ⟨.str "52", .str "13"⟩, true⟩] }
    ofJson (.obj (ms "freeText" (clause "kind" "negate" point.reverse).reverse).reverse) = .ok r ∧
      ofJson (.obj (ms "q" (clause "type" "not" point))) = .ok r := by
  intro point clause ms r
  have hr : ofJson (.obj (ms "freeText" (clause "kind" "negate" point))) = .ok r := rfl
  constructor
  · have hpoint : ObjectReordered (fun _ => Eq) (.obj point) (.obj point.reverse) :=
      .obj ⟨point, List.forall₂_same.2 fun _ _ => ⟨rfl, rfl⟩, (List.reverse_perm point).symm⟩
    have hclause : ClauseReordered (.obj (clause "kind" "negate" point))
        (.obj (clause "kind" "negate" point.reverse).reverse) :=
      .obj ⟨clause "kind" "negate" point.reverse, by simp [Members.Alike, clause, WithinClause, hpoint],
        (List.reverse_perm _).symm⟩
    have hms : Members.RequestReordered (ms "freeText" (clause "kind" "negate" point))
        (ms "freeText" (clause "kind" "negate" point.reverse).reverse).reverse :=
      ⟨ms "freeText" (clause "kind" "negate" point.reverse).reverse,
        .cons ⟨rfl, rfl⟩ (.cons ⟨rfl, .arr (.cons hclause .nil)⟩ .nil), (List.reverse_perm _).symm⟩
    refine ((ofJson_reordered _ _).1 ?_ hms).1 r hr
    simp [ms, clause, point, wordJson, Json.WellFormed, Json.WellFormedMembers, Json.WellFormedElements]
  · have hkind : Members.Respelled kindKeys (clause "kind" "negate" point) (clause "type" "negate" point) :=
      @Members.Respelled.rename _ _ "kind" "type" (by decide) (by decide) rfl
    have hnegation : Members.Respelled negationKeys (clause "type" "negate" point) (clause "type" "not" point) :=
      @Members.Respelled.rename _ _ "negate" "not" (by decide) (by decide) rfl
    have htext (c : Members) : Members.Respelled RequestKey.text.names (ms "freeText" c) (ms "q" c) :=
      @Members.Respelled.rename _ _ "freeText" "q" (by decide) (by decide) rfl
    have hms : Members.RequestRespelled (ms "freeText" (clause "kind" "negate" point))
        (ms "q" (clause "type" "not" point)) :=
      ⟨_, htext _, .cons ⟨rfl, rfl⟩ (.cons ⟨rfl, .arr (.cons (.obj hkind hnegation) .nil)⟩ .nil)⟩
    exact (ofJson_reordered _ _).2 hms r hr

end Request

end QueryDsl
