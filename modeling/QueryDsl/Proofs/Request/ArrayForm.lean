import QueryDsl.Document.SearchBody
import QueryDsl.Proofs.Request.Parts

/-!
# Requests that are not objects

Beside objects, arrays are requests too: an array gives the parts in the order of `RequestKey.all`, and parts that are
null may be left out at its end (`Parts.WrittenAs`). The empty array is the request for everything.

- A run over the elements of an array (`map_element_addElements`, `exists_addElements`): what is read is what was
  written, and whatever is written so is read.
- `refusedAsRequest_iff_of_not_object`: what a value that is no object gives at each of the three ways in. It is
  refused as a request unless it is the array form of some parts, and then the filters among them decide.
-/

namespace QueryDsl

open Checks

/-! ## The array form -/

namespace Parts

/-- The array holds the parts in their order; nulls may be missing at its end. -/
def WrittenAs (p : Parts) (xs : List Json) : Prop :=
  ∃ n, xs ++ List.replicate n .null = RequestKey.all.map p.element

/-- The value is an array that holds the parts, and its identifiers fit. -/
def ArrayForm (p : Parts) (v : Json) : Prop := ∃ xs, v = .arr xs ∧ p.WrittenAs xs ∧ p.IdsFit

/-- As many nulls are missing as there are parts without an element. -/
theorem WrittenAs.padded {p : Parts} {xs : List Json} (h : p.WrittenAs xs) :
    xs ++ List.replicate (RequestKey.all.length - xs.length) .null = RequestKey.all.map p.element ∧
      xs.length ≤ RequestKey.all.length := by
  obtain ⟨n, hn⟩ := h
  have hlen := congrArg List.length hn
  rw [List.length_append, List.length_replicate, List.length_map] at hlen
  rw [← hlen, Nat.add_sub_cancel_left]
  exact ⟨hn, Nat.le_add_right _ _⟩

end Parts

namespace Draft

/-- A run over an array: the parts that were met hold its elements, then nulls, and the other parts stay. -/
theorem map_element_addElements : ∀ {keys : List RequestKey} {xs : List Json} {d d' : Draft}, keys.Nodup →
    xs.length ≤ keys.length → (∀ k ∈ keys, d.parts.element k = .null) → d.addElements keys xs = .ok d' →
    keys.map d'.parts.element = xs ++ List.replicate (keys.length - xs.length) .null ∧
      ∀ k, k ∉ keys → d'.parts.element k = d.parts.element k
  | [], xs, d, d', _, hlen, _, h => by
    obtain rfl := List.length_eq_zero_iff.1 (Nat.le_zero.1 hlen)
    cases h
    simp
  | key :: keys, [], d, d', _, _, hnull, h => by
    cases h
    refine ⟨?_, fun _ _ => rfl⟩
    rw [List.nil_append, List.length_nil, Nat.sub_zero, List.map_eq_replicate_iff.2 hnull]
  | key :: keys, x :: xs, d, d', hnodup, hlen, hnull, h => by
    obtain ⟨hkey, hnodup⟩ := List.nodup_cons.1 hnodup
    unfold addElements at h
    split at h
    · cases h
    · next d₁ hset =>
      -- the step fills the place of `key`, which the rest of the run leaves alone, and no place of the other keys
      obtain ⟨hx, hstay⟩ := parts_set hset
      have hne {k : RequestKey} (hk : k ∈ keys) : k ≠ key := fun e => hkey (e ▸ hk)
      have hnull₁ (k : RequestKey) (hk : k ∈ keys) : d₁.parts.element k = .null := by
        rw [hstay k (hne hk)]
        exact hnull k (List.mem_cons_of_mem _ hk)
      obtain ⟨hmap, hrest⟩ := map_element_addElements hnodup (Nat.le_of_succ_le_succ hlen) hnull₁ h
      constructor
      · rw [List.map_cons, hrest key hkey, hx, hmap, List.length_cons, List.length_cons, Nat.succ_sub_succ]
        rfl
      · intro k hk
        obtain ⟨hk, hks⟩ := not_or.1 (mt List.mem_cons.2 hk)
        rw [hrest k hks, hstay k hk]

/-- Elements that are the JSON of their parts are all read. -/
theorem exists_addElements (p : Parts) : ∀ {keys : List RequestKey} {xs : List Json} (d : Draft),
    xs <+: keys.map p.element → ∃ d', d.addElements keys xs = .ok d'
  | keys, [], d, _ => ⟨d, by cases keys <;> rfl⟩
  | [], x :: xs, d, h => by simp at h
  | key :: keys, x :: xs, d, h => by
    obtain ⟨rfl, hxs⟩ := List.cons_prefix_cons.1 h
    obtain ⟨d₁, hset⟩ := exists_set d p key
    obtain ⟨d', hrun⟩ := exists_addElements p d₁ hxs
    refine ⟨d', ?_⟩
    unfold addElements
    rw [hset]
    exact hrun

/-- An array makes a draft of the parts that it holds, and of no others. -/
theorem ofJson_arr_eq_ok {xs : List Json} {p : Parts} :
    (∃ d, Draft.ofJson (.arr xs) = .ok d ∧ d.parts = p) ↔ p.WrittenAs xs := by
  have hnull (k : RequestKey) : (Draft.parts {}).element k = .null := by cases k <;> rfl
  have hrun {d : Draft} (h : addElements {} RequestKey.all xs = .ok d) (hlen : xs.length ≤ RequestKey.all.length) :
      RequestKey.all.map d.parts.element = xs ++ List.replicate (RequestKey.all.length - xs.length) .null :=
    (map_element_addElements (by decide) hlen (fun k _ => hnull k) h).1
  unfold Draft.ofJson
  constructor
  · rintro ⟨d, h, rfl⟩
    dsimp only at h
    split at h
    · cases h
    · next d₁ hadd =>
      split at h
      · next hlen =>
        cases h
        exact ⟨_, (hrun hadd hlen).symm⟩
      · cases h
  · intro h
    obtain ⟨hpad, hlen⟩ := h.padded
    obtain ⟨d, hadd⟩ := exists_addElements p {} ⟨_, hpad⟩
    refine ⟨d, by simp only [hadd, if_pos hlen], Parts.ext_element fun k => ?_⟩
    have hmap := (hrun hadd hlen).trans hpad
    exact List.map_inj_left.1 hmap k (by cases k <;> decide)

end Draft

/-! ## The three ways in -/

/-- The value is refused as a request at each of the three ways in, for one reason. -/
def RefusedAsRequest (v : Json) : Prop :=
  ∃ reason, Request.ofJson v = .error (.invalidRequest reason) ∧ Query.ofJson v = .error (.invalidRequest reason) ∧
    SearchBody.ofJson v = .error (.invalidRequest reason)

/-- One error decides all three. -/
theorem refusedAsRequest_iff {v : Json} :
    RefusedAsRequest v ↔ ∃ reason, Request.ofJson v = .error (.invalidRequest reason) := by
  simp only [RefusedAsRequest, Query.ofJson, SearchBody.ofJson, map_eq_error, and_self]

namespace Parts

variable {p : Parts} {v : Json}

/-- Parts in the array form are the request. -/
theorem ArrayForm.ofJson_eq (h : p.ArrayForm v) :
    Request.ofJson v = (decodeFilters (p.filters.getD [])).map p.request := by
  obtain ⟨xs, rfl, hxs, hids⟩ := h
  obtain ⟨d, hd, rfl⟩ := Draft.ofJson_arr_eq_ok.2 hxs
  rw [Request.ofJson, hd]
  exact Request.ofDraft_eq hids

/-- Without an array form, the value is refused unless it is an object. -/
theorem refused_of_forall_not_arrayForm (hv : ∀ ms : Members, v ≠ .obj ms) (h : ∀ p : Parts, ¬ p.ArrayForm v) :
    RefusedAsRequest v := by
  rw [refusedAsRequest_iff, Request.ofJson]
  cases hd : Draft.ofJson v with
  | error e =>
    obtain ⟨reason, rfl⟩ := Draft.ofJson_eq_error hd
    exact ⟨reason, rfl⟩
  | ok d =>
    cases v with
    | arr xs => exact Request.ofDraft_eq_error fun hids => h _ ⟨xs, rfl, Draft.ofJson_arr_eq_ok.1 ⟨d, hd, rfl⟩, hids⟩
    | obj ms => exact absurd rfl (hv ms)
    | _ => cases hd

end Parts

/-- **What is no object.** A value that is no object is refused as a request exactly when it is the array form of no
parts, except of those whose filters are refused so. The array form of parts is their request, and gives its query and
its body, as far as the filters are clauses. -/
theorem refusedAsRequest_iff_of_not_object (v : Json) (hv : ∀ ms : Members, v ≠ .obj ms) :
    (RefusedAsRequest v ↔ ∀ p : Parts, p.ArrayForm v →
      ∃ reason, decodeFilters (p.filters.getD []) = .error (.invalidRequest reason)) ∧
    ∀ p : Parts, p.ArrayForm v →
      Request.ofJson v = (decodeFilters (p.filters.getD [])).map p.request ∧
      Query.ofJson v = (decodeFilters (p.filters.getD [])).map (fun fs => (p.request fs).query) ∧
      SearchBody.ofJson v = (decodeFilters (p.filters.getD [])).map (fun fs => .ofRequest (p.request fs)) := by
  constructor
  · constructor
    · intro h p hp
      obtain ⟨reason, h⟩ := refusedAsRequest_iff.1 h
      rw [hp.ofJson_eq, map_eq_error] at h
      exact ⟨reason, h⟩
    · intro h
      by_cases hform : ∃ p : Parts, p.ArrayForm v
      · obtain ⟨p, hp⟩ := hform
        obtain ⟨reason, hreason⟩ := h p hp
        rw [refusedAsRequest_iff, hp.ofJson_eq]
        exact ⟨reason, map_eq_error.2 hreason⟩
      · exact Parts.refused_of_forall_not_arrayForm hv (not_exists.1 hform)
  · intro p hp
    rw [Query.ofJson, SearchBody.ofJson, hp.ofJson_eq]
    cases decodeFilters (p.filters.getD []) <;> exact ⟨rfl, rfl, rfl⟩

/-- A truth value is refused; an array with a text is a query for the text. -/
theorem not_object_flag_text : RefusedAsRequest (.bool true) ∧
    Query.ofJson (.arr [.str "abc"]) = .ok (.queryString "abc") := by
  constructor
  · refine (refusedAsRequest_iff_of_not_object (.bool true) (by simp)).1.2 ?_
    rintro p ⟨xs, h, -⟩
    cases h
  · have h := (refusedAsRequest_iff_of_not_object (.arr [.str "abc"]) (by simp)).2 { text := some "abc" }
      ⟨_, rfl, ⟨4, rfl⟩, by simp [Parts.IdsFit]⟩
    exact h.2.1.trans (by rfl)

/-- The empty array is no object, but it is the request for everything. -/
theorem not_object_empty_array : (∀ ms : Members, Json.arr [] ≠ .obj ms) ∧ ¬ RefusedAsRequest (.arr []) ∧
    Query.ofJson (.arr []) = .ok .matchAll ∧ SearchBody.ofJson (.arr []) = .ok ⟨.matchAll, none, none⟩ := by
  refine ⟨by simp, ?_, rfl, rfl⟩
  rintro ⟨reason, h, -⟩
  cases h

end QueryDsl
