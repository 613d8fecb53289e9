import QueryDsl.Document.Compile
import QueryDsl.Proofs.Request.ObjectForm

/-!
# The filters of a request in its document

A request object without identifiers and with some filters is compiled to a filtered document, whose and-list holds
the fragment of each filter in its place (`Members.compiles_filtered_iff`). So the and-list of a joined list of filters
is the joined and-list, and another filter in one place changes this place alone (`compiles_filtered`).
-/

namespace QueryDsl

open Checks

/-- The document that asks for all of some fragments, and for a text if there is one. -/
def filteredDocument (fragments : List Json) (text : String) : Json :=
  .obj [("filtered", .obj (("filter", .obj [("and", .arr fragments)]) ::
    if text = "" then [] else [("query", .obj [("query_string", .obj [("query", .str text)])])]))]

theorem filteredDocument_inj {gs hs : List Json} {s t : String} (h : filteredDocument gs s = filteredDocument hs t) :
    gs = hs ∧ s = t := by
  unfold filteredDocument at h
  split at h <;> split at h <;> simp_all

/-- The fragments are those of the filters that the values describe, each in its place. -/
def FragmentsOf (cs gs : List Json) : Prop :=
  gs.map Except.ok = cs.map fun c => (Filter.ofJson c).map Filter.fragment

namespace FragmentsOf

variable {cs ds gs hs : List Json}

theorem unique (hg : FragmentsOf cs gs) (hh : FragmentsOf cs hs) : gs = hs :=
  List.map_injective_iff.2 (fun _ _ => Except.ok.inj) (hg.trans hh.symm)

theorem length_eq (h : FragmentsOf cs gs) : gs.length = cs.length := by
  simpa using congrArg List.length h

theorem append (hg : FragmentsOf cs gs) (hh : FragmentsOf ds hs) : FragmentsOf (cs ++ ds) (gs ++ hs) := by
  unfold FragmentsOf at *
  rw [List.map_append, List.map_append, hg, hh]

/-- Where two lists of values agree, their fragments do. -/
theorem getElem?_eq (hg : FragmentsOf cs gs) (hh : FragmentsOf ds hs) {j : Nat} (h : cs[j]? = ds[j]?) :
    gs[j]? = hs[j]? := by
  have hmap : (gs.map Except.ok)[j]? = (hs.map (Except.ok (ε := QueryError)))[j]? := by
    rw [hg, hh, List.getElem?_map, List.getElem?_map, h]
  rw [List.getElem?_map, List.getElem?_map] at hmap
  exact Option.map_injective (fun _ _ => Except.ok.inj) hmap

/-- Values that are decoded to filters have the fragments of the filters. -/
theorem of_forall₂ {fs : List Filter} (h : List.Forall₂ (fun c f => Filter.ofJson c = .ok f) cs fs) :
    FragmentsOf cs (fs.map Filter.fragment) := by
  unfold FragmentsOf
  induction h with
  | nil => rfl
  | cons hc _ ih =>
    rw [List.map_cons, List.map_cons, List.map_cons, ih, hc]
    rfl

end FragmentsOf

/-! ## Documents of request objects -/

namespace Members

/-- The object has no identifiers: they are absent, null or an empty list. -/
def WithoutIds (ms : Members) : Prop := ∀ v, ms.lookup "ids" = some v → v = .null ∨ v = .arr []

/-- The object is a request with the document. -/
def Compiles (ms : Members) (document : Json) : Prop := (Query.ofJson (.obj ms)).map Query.toJson = .ok document

/-- The object with another list of filters. -/
def withFilters (ms : Members) (cs : List Json) : Members := Json.put "filters" (.arr cs) ms

theorem lookup_withFilters (ms : Members) (cs : List Json) (name : String) :
    (ms.withFilters cs).lookup name = if name = "filters" then some (.arr cs) else ms.lookup name :=
  Json.lookup_put ..

end Members

namespace Parts

variable {p : Parts} {ms : Members}

/-- A part that the object has as a value is that value. -/
theorem ObjectForm.element_eq (h : p.ObjectForm ms) (key : RequestKey) {v : Json} (hkey : key.name ∈ key.names)
    (hv : ms.lookup key.name = some v) : p.element key = v :=
  (h.holds key).symm.trans (part_eq_of_lookup h.oneText hkey hv)

theorem ObjectForm.filters_eq (h : p.ObjectForm ms) {cs : List Json} (hcs : ms.lookup "filters" = some (.arr cs)) :
    p.filters = some cs :=
  elim_null_inj Json.arr.inj (by simp) (h.element_eq .filters (by decide) hcs)

theorem ObjectForm.ids_eq_nil (h : p.ObjectForm ms) (hids : ms.WithoutIds) : p.ids.getD [] = [] := by
  have hpart := h.holds .ids
  simp only [Members.part, RequestKey.names, firstPresent?, element] at hpart
  cases hl : ms.lookup "ids" with
  | none => cases hp : p.ids <;> simp_all
  | some v =>
    rcases hids v hl with rfl | rfl <;> cases hp : p.ids <;> simp_all

end Parts

namespace Request

variable {r : Request}

/-- Without identifiers, filters make a filtered document. -/
theorem toJson_query_of_filters (hids : r.ids = []) (hfilters : r.filters ≠ []) :
    r.query.toJson = filteredDocument (r.filters.map Filter.fragment) r.text := by
  unfold query filteredDocument
  by_cases ht : r.text = "" <;>
    simp [hids, hfilters, ht, Query.toJson, Json.single, Query.textQuery]

/-- Without filters, no document is filtered. -/
theorem toJson_query_ne_filtered (hfilters : r.filters = []) (gs : List Json) (t : String) :
    r.query.toJson ≠ filteredDocument gs t := by
  unfold query filteredDocument
  by_cases hids : r.ids = [] <;> by_cases ht : r.text = "" <;>
    simp [hids, hfilters, ht, Query.toJson, Query.constantScore, Json.single]

end Request

namespace Members

variable {ms : Members} {cs gs : List Json} {t : String}

/-- The filters of a request object are decoded one by one. -/
theorem exists_parts_of_ofJson {r : Request} (hr : Request.ofJson (.obj ms) = .ok r)
    (hcs : ms.lookup "filters" = some (.arr cs)) :
    ∃ (p : Parts) (fs : List Filter), p.ObjectForm ms ∧ p.IdsFit ∧
      List.Forall₂ (fun c f => Filter.ofJson c = .ok f) cs fs ∧ r = p.request fs := by
  obtain ⟨-, p, hp, hparts⟩ := Request.ofJson_obj_eq_ok.1 hr
  obtain ⟨hids, fs, hfs, rfl⟩ := Request.ofParts_eq_ok.1 hparts
  rw [hp.filters_eq hcs, Option.getD_some] at hfs
  exact ⟨p, fs, hp, hids, hfs, rfl⟩

/-- What an object with some filters is compiled to, if it has no identifiers. -/
theorem compiles_filtered_iff (hids : ms.WithoutIds) (hcs : ms.lookup "filters" = some (.arr cs)) :
    ms.Compiles (filteredDocument gs t) ↔
      cs ≠ [] ∧ FragmentsOf cs gs ∧ ∃ r, Request.ofJson (.obj ms) = .ok r ∧ r.text = t := by
  unfold Compiles Query.ofJson
  cases hr : Request.ofJson (.obj ms) with
  | error e => simp [Except.map]
  | ok r =>
    obtain ⟨p, fs, hp, -, hfs, rfl⟩ := exists_parts_of_ofJson hr hcs
    have hnil : cs = [] ↔ fs = [] := by rw [← List.length_eq_zero_iff, ← List.length_eq_zero_iff, hfs.length_eq]
    have hfragments := FragmentsOf.of_forall₂ hfs
    by_cases hcs : cs = []
    · have hne := Request.toJson_query_ne_filtered (r := p.request fs) (hnil.1 hcs) gs t
      simp [Except.map, hcs, hne]
    · have hdoc := Request.toJson_query_of_filters (r := p.request fs) (hp.ids_eq_nil hids) (mt hnil.2 hcs)
      simp only [Except.map, hdoc, Except.ok.injEq, ne_eq, hcs, not_false_eq_true, true_and, exists_eq_left']
      constructor
      · intro h
        obtain ⟨rfl, rfl⟩ := filteredDocument_inj h
        exact ⟨hfragments, rfl⟩
      · rintro ⟨hgs, rfl⟩
        rw [hgs.unique hfragments]
        rfl

/-- Requests that differ in their filters alone are joined to one. -/
theorem exists_ofJson_append {xs ys : List Json} {r s : Request}
    (hr : Request.ofJson (.obj (ms.withFilters xs)) = .ok r) (hs : Request.ofJson (.obj (ms.withFilters ys)) = .ok s) :
    ∃ u, Request.ofJson (.obj (ms.withFilters (xs ++ ys))) = .ok u ∧ u.text = r.text := by
  obtain ⟨p, fs, hp, hids, hfs, rfl⟩ := exists_parts_of_ofJson hr (lookup_withFilters ..)
  obtain ⟨-, fs', -, -, hfs', -⟩ := exists_parts_of_ofJson hs (lookup_withFilters ..)
  have hform : Parts.ObjectForm { p with filters := some (xs ++ ys) } (ms.withFilters (xs ++ ys)) := by
    refine hp.update .filters (by decide) (fun name hname => ?_) ?_ fun k hk => ?_
    · have hname : name ≠ "filters" := hname
      rw [lookup_withFilters, lookup_withFilters, if_neg hname, if_neg hname]
    · exact lookup_withFilters ..
    · cases k <;> first | rfl | exact absurd rfl hk
  have hkeys : ((ms.withFilters (xs ++ ys)).map Prod.fst).Nodup := by
    have hkeys := (Request.ofJson_obj_eq_ok.1 hr).1
    unfold withFilters at hkeys ⊢
    rwa [Json.map_fst_put] at hkeys ⊢
  refine ⟨_, Request.ofJson_obj_eq_ok.2 ⟨hkeys, _, hform, Request.ofParts_eq_ok.2 ⟨hids, fs ++ fs', ?_, rfl⟩⟩, rfl⟩
  exact List.rel_append hfs hfs'

theorem WithoutIds.withFilters (h : ms.WithoutIds) (cs : List Json) : (ms.withFilters cs).WithoutIds := by
  intro v hv
  rw [lookup_withFilters, if_neg (by decide)] at hv
  exact h v hv

end Members

/-- **No filter is lost, repeated or moved.** A request object without identifiers and with filters is compiled to the
filtered document with the fragments of its filters, each in its place, and with the text unless that is empty. Joined
lists of filters have the joined fragments, and another filter in one place changes the fragment there alone. -/
theorem compiles_filtered (ms : Members) (hids : ms.WithoutIds) :
    (∀ cs r, cs ≠ [] → ms.lookup "filters" = some (.arr cs) → Request.ofJson (.obj ms) = .ok r →
      ∃ gs, FragmentsOf cs gs ∧ gs.length = cs.length ∧ ms.Compiles (filteredDocument gs r.text)) ∧
    (∀ xs ys gs hs t u, (ms.withFilters xs).Compiles (filteredDocument gs t) →
      (ms.withFilters ys).Compiles (filteredDocument hs u) →
      (ms.withFilters (xs ++ ys)).Compiles (filteredDocument (gs ++ hs) t)) ∧
    (∀ cs i c gs hs t u, (ms.withFilters cs).Compiles (filteredDocument gs t) →
      (ms.withFilters (cs.set i c)).Compiles (filteredDocument hs u) →
      hs.length = gs.length ∧ ∀ j, j ≠ i → hs[j]? = gs[j]?) := by
  have hiff (cs : List Json) (gs : List Json) (t : String) :
      (ms.withFilters cs).Compiles (filteredDocument gs t) ↔ cs ≠ [] ∧ FragmentsOf cs gs ∧
        ∃ r, Request.ofJson (.obj (ms.withFilters cs)) = .ok r ∧ r.text = t :=
    Members.compiles_filtered_iff (hids.withFilters cs) (Members.lookup_withFilters ..)
  refine ⟨fun cs r hne hcs hr => ?_, fun xs ys gs hs t u hx hy => ?_, fun cs i c gs hs t u hc hset => ?_⟩
  · obtain ⟨-, fs, -, -, hfs, -⟩ := Members.exists_parts_of_ofJson hr hcs
    have hfragments := FragmentsOf.of_forall₂ hfs
    exact ⟨_, hfragments, hfragments.length_eq,
      (Members.compiles_filtered_iff hids hcs).2 ⟨hne, hfragments, _, hr, rfl⟩⟩
  · obtain ⟨hxs, hgs, r, hr, rfl⟩ := (hiff ..).1 hx
    obtain ⟨-, hhs, s, hs', -⟩ := (hiff ..).1 hy
    exact (hiff ..).2 ⟨by simp [hxs], hgs.append hhs, Members.exists_ofJson_append hr hs'⟩
  · obtain ⟨-, hgs, -⟩ := (hiff ..).1 hc
    obtain ⟨-, hhs, -⟩ := (hiff ..).1 hset
    refine ⟨?_, fun j hj => hhs.getElem?_eq hgs (List.getElem?_set_ne hj.symm)⟩
    rw [hgs.length_eq, hhs.length_eq, List.length_set]

/-- A filter on a field named like the list of filters, joined with a negated one. -/
theorem compiles_filtered_joined :
    let ms : Members := [("ids", .arr []), ("filters", .null), ("freeText", .str "abc")]
    let x : Json := .obj [("field", .str "and"), ("kind", .str "exists")]
    let y : Json := .obj [("not", .bool true), ("type", .str "type"), ("value", .str "message")]
    (ms.withFilters [x, y]).Compiles (filteredDocument
      [.obj [("exists", .obj [("field", .str "and")])],
        .obj [("not", .obj [("type", .obj [("value", .str "message")])])]] "abc") := by
  intro ms x y
  have hids : ms.WithoutIds := by
    intro v hv
    exact Or.inr (Option.some.inj hv).symm
  exact (compiles_filtered ms hids).2.1 [x] [y] _ _ "abc" "abc" rfl rfl

end QueryDsl
