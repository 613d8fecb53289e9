import QueryDsl.Proofs.Json.Equality

/-!
# What a text can tell of a value

A text is read as a value with the same members in the same order, as long as each object has each key once and every
number is an integer (`Printable`), and it has no more levels of arrays and objects than the reader takes (`depth`).

An array or an object is printable when what it holds is, so a document is printable when the values it is made of are.
-/

namespace QueryDsl

/-- Whether the number is an integer. -/
def Number.IsInteger (n : Number) : Prop := ∃ i, n = .int i

@[simp] theorem Number.isInteger_int (i : Integer) : (Number.int i).IsInteger := ⟨i, rfl⟩

namespace Json

/-! ## Levels -/

mutual

/-- How many levels of arrays and objects the value has. -/
def depth : Json → Nat
  | .arr xs => depthElements xs + 1
  | .obj ms => depthMembers ms + 1
  | _ => 0

/-- The greatest depth of an element. -/
def depthElements : List Json → Nat
  | [] => 0
  | x :: xs => max (depth x) (depthElements xs)

/-- The greatest depth of the value of a member. -/
def depthMembers : List (String × Json) → Nat
  | [] => 0
  | (_, v) :: rest => max (depth v) (depthMembers rest)

end

theorem depthElements_le {n : Nat} {xs : List Json} : depthElements xs ≤ n ↔ ∀ x ∈ xs, x.depth ≤ n := by
  induction xs with
  | nil => simp [depthElements]
  | cons x xs ih => rw [depthElements, Nat.max_le, ih, List.forall_mem_cons]

theorem depthMembers_le {n : Nat} {ms : List (String × Json)} :
    depthMembers ms ≤ n ↔ ∀ m ∈ ms, m.2.depth ≤ n := by
  induction ms with
  | nil => simp [depthMembers]
  | cons m ms ih => rw [depthMembers, Nat.max_le, ih, List.forall_mem_cons]

/-! ## Numbers -/

mutual

/-- No number in the value is a double. -/
def FloatFree : Json → Prop
  | .num n => n.IsInteger
  | .arr xs => FloatFreeElements xs
  | .obj ms => FloatFreeMembers ms
  | _ => True

/-- No number in any of the elements is a double. -/
def FloatFreeElements : List Json → Prop
  | [] => True
  | x :: xs => FloatFree x ∧ FloatFreeElements xs

/-- No number in the value of any of the members is a double. -/
def FloatFreeMembers : List (String × Json) → Prop
  | [] => True
  | (_, v) :: rest => FloatFree v ∧ FloatFreeMembers rest

end

theorem floatFreeElements_iff {xs : List Json} : FloatFreeElements xs ↔ ∀ x ∈ xs, x.FloatFree := by
  induction xs with
  | nil => simp [FloatFreeElements]
  | cons x xs ih => rw [FloatFreeElements, List.forall_mem_cons, ih]

theorem floatFreeMembers_iff {ms : List (String × Json)} : FloatFreeMembers ms ↔ ∀ m ∈ ms, m.2.FloatFree := by
  induction ms with
  | nil => simp [FloatFreeMembers]
  | cons m ms ih => rw [FloatFreeMembers, List.forall_mem_cons, ih]

/-! ## Both -/

/-- The text of the value tells all of it: every number is an integer, and every object has each of its keys once. -/
structure Printable (v : Json) : Prop where
  floatFree : v.FloatFree
  wellFormed : v.WellFormed

section Printable

variable {v : Json} {xs : List Json} {ms : List (String × Json)}

@[simp] theorem printable_null : Printable .null := ⟨trivial, trivial⟩

@[simp] theorem printable_bool (b : Bool) : (Json.bool b).Printable := ⟨trivial, trivial⟩

@[simp] theorem printable_str (s : String) : (Json.str s).Printable := ⟨trivial, trivial⟩

@[simp] theorem printable_num {n : Number} : (Json.num n).Printable ↔ n.IsInteger :=
  ⟨fun h => h.floatFree, fun h => ⟨h, trivial⟩⟩

@[simp] theorem printable_arr : (Json.arr xs).Printable ↔ ∀ x ∈ xs, x.Printable := by
  constructor
  · rintro ⟨hfloat, hkeys⟩ x hx
    exact ⟨floatFreeElements_iff.1 hfloat x hx, wellFormedElements_iff.1 hkeys x hx⟩
  · intro h
    exact ⟨floatFreeElements_iff.2 fun x hx => (h x hx).floatFree,
      wellFormedElements_iff.2 fun x hx => (h x hx).wellFormed⟩

@[simp] theorem printable_obj :
    (Json.obj ms).Printable ↔ (ms.map Prod.fst).Nodup ∧ ∀ m ∈ ms, m.2.Printable := by
  constructor
  · rintro ⟨hfloat, hnodup, hkeys⟩
    exact ⟨hnodup, fun m hm => ⟨floatFreeMembers_iff.1 hfloat m hm, wellFormedMembers_iff.1 hkeys m hm⟩⟩
  · rintro ⟨hnodup, h⟩
    exact ⟨floatFreeMembers_iff.2 fun m hm => (h m hm).floatFree,
      hnodup, wellFormedMembers_iff.2 fun m hm => (h m hm).wellFormed⟩

@[simp] theorem printable_single {key : String} : (single key v).Printable ↔ v.Printable := by
  simp [single]

/-- What is set is all that is new. -/
theorem forall_mem_put {p : String × Json → Prop} {key : String} (hv : p (key, v)) (h : ∀ m ∈ ms, p m) :
    ∀ m ∈ put key v ms, p m := by
  induction ms with
  | nil => simpa [put] using hv
  | cons m ms ih =>
    obtain ⟨hm, hms⟩ := List.forall_mem_cons.1 h
    unfold put
    split
    · next heq => exact List.forall_mem_cons.2 ⟨heq ▸ hv, hms⟩
    · exact List.forall_mem_cons.2 ⟨hm, ih hms⟩

end Printable

end Json

end QueryDsl
