import Mathlib.Data.List.Forall2
import Mathlib.Data.List.Nodup
import Mathlib.Data.List.Perm.Basic
import QueryDsl.Json.Basic

/-!
# Looking up members

An object that has each key once is known by its look-ups: a key is looked up with its own value
(`lookup_eq_some_iff_mem`), and the order of the members does not matter (`lookup_eq_of_perm`, `perm_of_lookup_eq`).

Members with the same keys and with related values, in another order, have related look-ups, and no others do
(`reordered_iff`).
-/

namespace QueryDsl.Members

variable {ms ns : List (String × Json)}

theorem lookup_cons (key name : String) (v : Json) (ms : List (String × Json)) :
    ((key, v) :: ms).lookup name = if name = key then some v else ms.lookup name := by
  rw [List.lookup_cons]
  by_cases h : name = key
  · simp [h]
  · simp [h, beq_false_of_ne]

theorem lookup_eq_none {name : String} : ms.lookup name = none ↔ ∀ m ∈ ms, m.1 ≠ name := by
  rw [List.lookup_eq_none_iff]
  exact forall₂_congr fun m _ => bne_iff_ne.trans ne_comm

theorem lookup_ne_none {name : String} : ms.lookup name ≠ none ↔ name ∈ ms.map Prod.fst := by
  rw [Ne, lookup_eq_none]
  simp [eq_comm]

/-- Whether every key passes a test can be told by look-ups. -/
theorem forall_key_iff (test : String → Prop) : (∀ m ∈ ms, test m.1) ↔ ∀ key, ms.lookup key ≠ none → test key := by
  simp only [lookup_ne_none, List.mem_map, forall_exists_index, and_imp, forall_apply_eq_imp_iff₂]

/-- Each key of an object is looked up with its own value. -/
theorem lookup_eq_some_iff_mem (h : (ms.map Prod.fst).Nodup) {m : String × Json} :
    ms.lookup m.1 = some m.2 ↔ m ∈ ms := by
  constructor
  · intro hm
    obtain ⟨before, after, rfl, -⟩ := List.lookup_eq_some_iff.1 hm
    exact List.mem_append_right _ List.mem_cons_self
  · intro hm
    obtain ⟨before, after, rfl⟩ := List.append_of_mem hm
    refine List.lookup_eq_some_iff.2 ⟨before, after, rfl, fun n hn => ?_⟩
    rw [List.map_append, List.map_cons] at h
    have hne : n.1 ≠ m.1 := (List.nodup_append.1 h).2.2 n.1 (List.mem_map_of_mem hn) m.1 List.mem_cons_self
    simpa [bne] using hne.symm

/-- Look-ups do not depend on the order of the members. -/
theorem lookup_eq_of_perm (h : ms.Perm ns) (hkeys : (ms.map Prod.fst).Nodup) (key : String) :
    ns.lookup key = ms.lookup key := by
  have hkeys' : (ns.map Prod.fst).Nodup := (h.map Prod.fst).nodup_iff.1 hkeys
  cases hm : ms.lookup key with
  | some v =>
    have hmem : (key, v) ∈ ms := (lookup_eq_some_iff_mem hkeys (m := (key, v))).1 hm
    exact (lookup_eq_some_iff_mem hkeys' (m := (key, v))).2 (h.mem_iff.1 hmem)
  | none => exact lookup_eq_none.2 fun n hn => lookup_eq_none.1 hm n (h.mem_iff.2 hn)

theorem lookup_map_keys (value : String → Json) (key : String) :
    (ms.map fun m => (m.1, value m.1)).lookup key = (ms.lookup key).map fun _ => value key := by
  induction ms with
  | nil => rfl
  | cons m ms ih =>
    obtain ⟨name, v⟩ := m
    rw [List.map_cons, lookup_cons, lookup_cons, ih]
    split
    · next h => rw [h, Option.map_some]
    · rfl

/-- Members that are left out by their keys are not found, and the others are found as before. -/
theorem lookup_filter_key (test : String → Bool) (name : String) :
    (ms.filter fun m => test m.1).lookup name = if test name then ms.lookup name else none := by
  induction ms with
  | nil => simp
  | cons m ms ih =>
    obtain ⟨key, v⟩ := m
    by_cases h : name = key
    · subst h
      cases htest : test name <;> simp [htest, ih]
    · cases htest : test key <;> simp [htest, lookup_cons, h, ih]

/-- Two lists with the same look-ups differ in their order alone. -/
theorem perm_of_lookup_eq (hms : (ms.map Prod.fst).Nodup) (hns : (ns.map Prod.fst).Nodup)
    (h : ∀ key, ns.lookup key = ms.lookup key) : ms.Perm ns := by
  refine (List.perm_ext_iff_of_nodup hms.of_map hns.of_map).2 fun m => ?_
  rw [← lookup_eq_some_iff_mem hms, ← lookup_eq_some_iff_mem hns, h]

/-! ## Related values -/

/-- The members have the same keys in the same order, and under each key the values are related. -/
def Alike (within : String → Json → Json → Prop) (ms ns : List (String × Json)) : Prop :=
  List.Forall₂ (fun m n => m.1 = n.1 ∧ within m.1 m.2 n.2) ms ns

/-- The members are alike once they are put in another order. -/
def Reordered (within : String → Json → Json → Prop) (ms ns : List (String × Json)) : Prop :=
  ∃ mid, Alike within ms mid ∧ mid.Perm ns

theorem rel_some {R : Json → Json → Prop} {v : Json} {o : Option Json} :
    Option.Rel R (some v) o ↔ ∃ w, o = some w ∧ R v w := by
  cases o <;> simp

theorem eq_none_iff_of_rel {R : Json → Json → Prop} {o o' : Option Json} (h : Option.Rel R o o') :
    o = none ↔ o' = none := by
  cases h <;> simp

theorem eq_of_rel_eq {o o' : Option Json} (h : Option.Rel Eq o o') : o' = o := by
  cases h with
  | some h => rw [h]
  | none => rfl

variable {within : String → Json → Json → Prop}

theorem Alike.map_fst_eq (h : Alike within ms ns) : ms.map Prod.fst = ns.map Prod.fst := by
  induction h with
  | nil => rfl
  | cons hm _ ih => rw [List.map_cons, List.map_cons, hm.1, ih]

theorem Alike.lookup_rel (h : Alike within ms ns) (key : String) :
    Option.Rel (within key) (ms.lookup key) (ns.lookup key) := by
  induction h with
  | nil => exact .none
  | @cons m n ms ns hm _ ih =>
    obtain ⟨name, v⟩ := m
    obtain ⟨name', w⟩ := n
    obtain ⟨rfl, hvw⟩ := hm
    rw [lookup_cons, lookup_cons]
    split
    · next hkey => exact .some (hkey ▸ hvw)
    · exact ih

theorem Reordered.nodup_iff (h : Reordered within ms ns) : (ms.map Prod.fst).Nodup ↔ (ns.map Prod.fst).Nodup := by
  obtain ⟨mid, halike, hperm⟩ := h
  rw [halike.map_fst_eq]
  exact (hperm.map Prod.fst).nodup_iff

theorem Reordered.lookup_rel (h : Reordered within ms ns) (hms : (ms.map Prod.fst).Nodup) (key : String) :
    Option.Rel (within key) (ms.lookup key) (ns.lookup key) := by
  obtain ⟨mid, halike, hperm⟩ := h
  rw [lookup_eq_of_perm hperm (halike.map_fst_eq ▸ hms)]
  exact halike.lookup_rel key

/-- What can be looked up decides whether members are alike in some order. -/
theorem reordered_iff (hms : (ms.map Prod.fst).Nodup) (hns : (ns.map Prod.fst).Nodup) : Reordered within ms ns ↔
    ∀ key, Option.Rel (within key) (ms.lookup key) (ns.lookup key) := by
  constructor
  · intro h
    exact h.lookup_rel hms
  · intro h
    -- the second values, in the order of the first
    let mid := ms.map fun m => (m.1, (ns.lookup m.1).getD .null)
    have hkeys : mid.map Prod.fst = ms.map Prod.fst := by simp [mid]
    have halike : Alike within ms mid := by
      refine List.forall₂_map_right_iff.2 (List.forall₂_same.2 fun m hm => ⟨rfl, ?_⟩)
      obtain ⟨w, hw, hvw⟩ := rel_some.1 ((lookup_eq_some_iff_mem hms).2 hm ▸ h m.1)
      simpa [hw] using hvw
    refine ⟨mid, halike, perm_of_lookup_eq (hkeys ▸ hms) hns fun key => ?_⟩
    have hmid : mid.lookup key = (ms.lookup key).map fun _ => (ns.lookup key).getD .null :=
      lookup_map_keys (fun name => (ns.lookup name).getD .null) key
    rw [hmid]
    cases hm : ms.lookup key with
    | none => exact (eq_none_iff_of_rel (h key)).1 hm
    | some v =>
      obtain ⟨w, hw, -⟩ := rel_some.1 (hm ▸ h key)
      simp [hw]

end QueryDsl.Members
