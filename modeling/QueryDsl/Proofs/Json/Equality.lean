import Mathlib.Data.List.Forall2
import QueryDsl.Proofs.Json.Lookup

/-!
# Equality of JSON values

`Json.same` in terms of look-ups: two objects that have each key once are the same exactly when every key has the same
value in both or is in neither (`same_obj_iff`). So the order of members does not matter, at whatever depth
(`same_iff_sameUpToOrder`).
-/

namespace QueryDsl.Json

variable {v w : Json} {xs ys : List Json} {ms ns : List (String × Json)}

/-! ## Arrays and objects -/

theorem sameElements_iff : sameElements xs ys = true ↔ List.Forall₂ (fun v w => v.same w = true) xs ys := by
  induction xs generalizing ys with
  | nil => cases ys <;> simp [sameElements]
  | cons x xs ih =>
    cases ys with
    | nil => simp [sameElements]
    | cons y ys => rw [sameElements, Bool.and_eq_true, ih, List.forall₂_cons]

theorem sameMembers_iff : sameMembers ms ns = true ↔ ∀ m ∈ ms, ∃ w, ns.lookup m.1 = some w ∧ m.2.same w = true := by
  induction ms with
  | nil => simp [sameMembers]
  | cons m ms ih =>
    obtain ⟨key, v⟩ := m
    rw [sameMembers, Bool.and_eq_true, ih, List.forall_mem_cons]
    refine and_congr_left fun _ => ?_
    cases ns.lookup key <;> simp

/-- **The order of members does not matter.** Objects are the same exactly when each key has the same value in both, or
is in neither. -/
theorem same_obj_iff (hms : (ms.map Prod.fst).Nodup) (hns : (ns.map Prod.fst).Nodup) :
    (Json.obj ms).same (.obj ns) = true ↔
      ∀ key, Option.Rel (fun v w => v.same w = true) (ms.lookup key) (ns.lookup key) := by
  rw [same, Bool.and_eq_true, beq_iff_eq, sameMembers_iff]
  constructor
  · rintro ⟨hlen, hvalues⟩ key
    -- every key of the first object is in the second, which has as many
    have hsubset : ms.map Prod.fst ⊆ ns.map Prod.fst := by
      intro k hk
      obtain ⟨m, hm, rfl⟩ := List.mem_map.1 hk
      obtain ⟨w, hw, -⟩ := hvalues m hm
      exact Members.lookup_ne_none.1 (by simp [hw])
    have hperm : (ms.map Prod.fst).Perm (ns.map Prod.fst) :=
      (List.subperm_of_subset hms hsubset).perm_of_length_le (by simp [hlen])
    cases hm : ms.lookup key with
    | some v =>
      obtain ⟨w, hw, hvw⟩ := hvalues (key, v) ((Members.lookup_eq_some_iff_mem hms (m := (key, v))).1 hm)
      rw [hw]
      exact .some hvw
    | none =>
      have hns : ns.lookup key = none := by
        by_contra hn
        exact Members.lookup_ne_none.2 (hperm.mem_iff.2 (Members.lookup_ne_none.1 hn)) hm
      rw [hns]
      exact .none
  · intro h
    have hkeys (key : String) : key ∈ ms.map Prod.fst ↔ key ∈ ns.map Prod.fst := by
      rw [← Members.lookup_ne_none, ← Members.lookup_ne_none]
      exact not_congr (Members.eq_none_iff_of_rel (h key))
    have hperm : (ms.map Prod.fst).Perm (ns.map Prod.fst) := (List.perm_ext_iff_of_nodup hms hns).2 hkeys
    refine ⟨by simpa using hperm.length_eq, fun m hm => ?_⟩
    exact Members.rel_some.1 ((Members.lookup_eq_some_iff_mem hms).2 hm ▸ h m.1)

theorem same_single {key name : String} :
    (single key v).same (single name w) = true ↔ key = name ∧ v.same w = true := by
  simp only [single, same, List.length_singleton, BEq.rfl, Bool.true_and, sameMembers_iff, List.forall_mem_singleton,
    Members.lookup_cons, List.lookup_nil]
  by_cases h : key = name
  · simp [h]
  · simp [h]

/-! ## The order of members -/

/-- The values differ in the order of the members of their objects, at any depth, and in the way their numbers are
written. -/
inductive SameUpToOrder : Json → Json → Prop
  | null : SameUpToOrder .null .null
  | bool (b : Bool) : SameUpToOrder (.bool b) (.bool b)
  | num {m n : Number} : m.same n = true → SameUpToOrder (.num m) (.num n)
  | str (s : String) : SameUpToOrder (.str s) (.str s)
  | arr {xs ys : List Json} : List.Forall₂ SameUpToOrder xs ys → SameUpToOrder (.arr xs) (.arr ys)
  /-- The members are those of `mid`, key by key, and `mid` is put in another order. -/
  | obj {ms mid ns : List (String × Json)} : ms.map Prod.fst = mid.map Prod.fst →
      List.Forall₂ SameUpToOrder (ms.map Prod.snd) (mid.map Prod.snd) → mid.Perm ns →
      SameUpToOrder (.obj ms) (.obj ns)

theorem wellFormedMembers_iff : WellFormedMembers ms ↔ ∀ m ∈ ms, m.2.WellFormed := by
  induction ms with
  | nil => simp [WellFormedMembers]
  | cons m ms ih => rw [WellFormedMembers, List.forall_mem_cons, ih]

theorem wellFormedElements_iff : WellFormedElements xs ↔ ∀ x ∈ xs, x.WellFormed := by
  induction xs with
  | nil => simp [WellFormedElements]
  | cons x xs ih => rw [WellFormedElements, List.forall_mem_cons, ih]

theorem WellFormed.lookup (h : (Json.obj ms).WellFormed) {key : String} (hv : ms.lookup key = some v) :
    v.WellFormed :=
  wellFormedMembers_iff.1 h.2 (key, v) ((Members.lookup_eq_some_iff_mem h.1 (m := (key, v))).1 hv)

/-- The members of one of two objects, in another order, are alike those of the other. -/
theorem same_obj_iff_reordered (hms : (ms.map Prod.fst).Nodup) (hns : (ns.map Prod.fst).Nodup) :
    (Json.obj ms).same (.obj ns) = true ↔ Members.Reordered (fun _ v w => v.same w = true) ms ns := by
  rw [same_obj_iff hms hns, Members.reordered_iff hms hns]

mutual

/-- **Equality of values.** Well-formed values are the same exactly when they differ in the order of members alone,
at whatever depth, up to the way numbers are written. -/
theorem same_iff_sameUpToOrder : ∀ {v w : Json}, v.WellFormed → w.WellFormed →
    (v.same w = true ↔ SameUpToOrder v w)
  | .null, w, _, _ => by
    constructor
    · intro h
      cases w <;> first | exact .null | cases h
    · rintro ⟨⟩
      rfl
  | .bool b, w, _, _ => by
    constructor
    · intro h
      cases w <;> simp only [same, beq_iff_eq, Bool.false_eq_true] at h
      subst h
      exact .bool _
    · rintro ⟨⟩
      simp [same]
  | .num m, w, _, _ => by
    constructor
    · intro h
      cases w <;> simp only [same, Bool.false_eq_true] at h
      exact .num h
    · rintro (_ | _ | h)
      exact h
  | .str s, w, _, _ => by
    constructor
    · intro h
      cases w <;> simp only [same, beq_iff_eq, Bool.false_eq_true] at h
      subst h
      exact .str _
    · rintro ⟨⟩
      simp [same]
  | .arr xs, w, hv, hw => by
    constructor
    · intro h
      cases w <;> simp only [same, Bool.false_eq_true] at h
      exact .arr ((sameElements_iff_sameUpToOrder hv hw).1 h)
    · rintro (_ | _ | _ | _ | h)
      rw [same]
      exact (sameElements_iff_sameUpToOrder hv hw).2 h
  | .obj ms, w, hv, hw => by
    constructor
    · intro h
      cases w with
      | obj ns =>
        obtain ⟨mid, halike, hperm⟩ := (same_obj_iff_reordered hv.1 hw.1).1 h
        have hmid : WellFormedMembers mid :=
          wellFormedMembers_iff.2 fun m hm => wellFormedMembers_iff.1 hw.2 m (hperm.mem_iff.1 hm)
        obtain ⟨hkeys, hvalues⟩ := (alike_iff_sameUpToOrder hv.2 hmid).1 halike
        exact .obj hkeys hvalues hperm
      | _ => cases h
    · rintro (_ | _ | _ | _ | _ | ⟨hkeys, hvalues, hperm⟩)
      have hmid : WellFormedMembers _ :=
        wellFormedMembers_iff.2 fun m hm => wellFormedMembers_iff.1 hw.2 m (hperm.mem_iff.1 hm)
      exact (same_obj_iff_reordered hv.1 hw.1).2
        ⟨_, (alike_iff_sameUpToOrder hv.2 hmid).2 ⟨hkeys, hvalues⟩, hperm⟩

theorem sameElements_iff_sameUpToOrder : ∀ {xs ys : List Json}, WellFormedElements xs → WellFormedElements ys →
    (sameElements xs ys = true ↔ List.Forall₂ SameUpToOrder xs ys)
  | [], [], _, _ => by simp [sameElements]
  | [], y :: ys, _, _ => by simp [sameElements]
  | x :: xs, [], _, _ => by simp [sameElements]
  | x :: xs, y :: ys, hxs, hys => by
    rw [sameElements, Bool.and_eq_true, List.forall₂_cons, same_iff_sameUpToOrder hxs.1 hys.1,
      sameElements_iff_sameUpToOrder hxs.2 hys.2]

theorem alike_iff_sameUpToOrder : ∀ {ms ns : List (String × Json)}, WellFormedMembers ms → WellFormedMembers ns →
    (Members.Alike (fun _ v w => v.same w = true) ms ns ↔ ms.map Prod.fst = ns.map Prod.fst ∧
      List.Forall₂ SameUpToOrder (ms.map Prod.snd) (ns.map Prod.snd))
  | [], [], _, _ => by simp [Members.Alike]
  | [], n :: ns, _, _ => by simp [Members.Alike]
  | m :: ms, [], _, _ => by simp [Members.Alike]
  | (key, v) :: ms, n :: ns, hms, hns => by
    have hfirst : v.same n.2 = true ↔ SameUpToOrder v n.2 := same_iff_sameUpToOrder hms.1 hns.1
    have hrest := alike_iff_sameUpToOrder hms.2 hns.2
    unfold Members.Alike at hrest ⊢
    simp only [List.forall₂_cons, List.map_cons, List.cons.injEq, hfirst, hrest, and_assoc, and_left_comm]

end

end QueryDsl.Json
