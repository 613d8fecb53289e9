import QueryDsl.Binary64.Basic

/-!
# JSON values

Numbers come in two classes: integers that fit a signed or an unsigned word of 64 bits, and finite doubles. Objects
are lists of members in the order of first insertion. `Json.put` keeps that order and keeps the keys apart
(`Json.nodup_map_fst_put`), so every object that is built with it has each key once (`Json.WellFormed`).

`Json.same` compares values: arrays in order, objects by key, numbers inside their class.
-/

namespace QueryDsl

/-- An integer that fits a signed or an unsigned word of 64 bits. -/
structure Integer where
  value : Int
  least_le : -9223372036854775808 ≤ value
  value_lt : value < 18446744073709551616
  deriving DecidableEq, Repr

namespace Integer

/-- The integer with a given value, where it fits. -/
def ofInt? (n : Int) : Option Integer :=
  if h : -9223372036854775808 ≤ n ∧ n < 18446744073709551616 then some ⟨n, h.1, h.2⟩ else none

/-- An unsigned word as an integer. -/
def ofWord (n : UInt64) : Integer :=
  ⟨n.toNat, by omega, by have := n.toNat_lt; omega⟩

/-- The integer as an unsigned word, unless it is negative. -/
def toWord? (n : Integer) : Option UInt64 :=
  if 0 ≤ n.value then some (UInt64.ofNat n.value.toNat) else none

end Integer

/-- A number of a JSON text. -/
inductive Number where
  | int (n : Integer)
  | float (x : Binary64)
  deriving DecidableEq, Repr

/-- Equality in value inside a class. An integer is never the same as a double. -/
def Number.same : Number → Number → Bool
  | .int m, .int n => m.value == n.value
  | .float x, .float y => x.same y
  | _, _ => false

/-- A JSON value. -/
inductive Json where
  | null
  | bool (b : Bool)
  | num (n : Number)
  | str (s : String)
  | arr (elements : List Json)
  | obj (members : List (String × Json))

namespace Json

instance : Inhabited Json := ⟨.null⟩

/-! ## Members of an object -/

/-- Sets the value of a key: in its place if the key is there, else as a new last member. -/
def put (key : String) (value : Json) : List (String × Json) → List (String × Json)
  | [] => [(key, value)]
  | (k, v) :: rest => if k = key then (k, value) :: rest else (k, v) :: put key value rest

/-- An object with one member. -/
def single (key : String) (value : Json) : Json := .obj [(key, value)]

/-- A key is looked up as it was set, and setting it leaves every other key alone. -/
theorem lookup_put (key k : String) (value : Json) (members : List (String × Json)) :
    (put key value members).lookup k = if k = key then some value else members.lookup k := by
  induction members with
  | nil => grind [put]
  | cons m rest ih => grind [put]

/-- Setting a key adds it behind the other keys, unless it is there. -/
theorem map_fst_put (key : String) (value : Json) (members : List (String × Json)) :
    (put key value members).map Prod.fst =
      if key ∈ members.map Prod.fst then members.map Prod.fst else members.map Prod.fst ++ [key] := by
  induction members with
  | nil => simp [put]
  | cons m rest ih => grind [put]

/-- Keys that are apart stay apart when one is set. -/
theorem nodup_map_fst_put (key : String) (value : Json) {members : List (String × Json)}
    (h : (members.map Prod.fst).Nodup) : ((put key value members).map Prod.fst).Nodup := by
  rw [map_fst_put]
  split
  · exact h
  · next notMem => exact List.nodup_append.2 ⟨h, by simp, by grind⟩

/-! ## Values of one kind -/

/-- The truth value of a boolean. -/
def bool? : Json → Option Bool
  | .bool b => some b
  | _ => none

/-- The number of a number. -/
def num? : Json → Option Number
  | .num n => some n
  | _ => none

/-- The text of a string. -/
def str? : Json → Option String
  | .str s => some s
  | _ => none

/-- The elements of an array. -/
def arr? : Json → Option (List Json)
  | .arr xs => some xs
  | _ => none

/-- The members of an object. -/
def obj? : Json → Option (List (String × Json))
  | .obj ms => some ms
  | _ => none

section Views

variable {v : Json}

@[simp] theorem bool?_eq_some {b : Bool} : v.bool? = some b ↔ v = .bool b := by cases v <;> simp [bool?]

@[simp] theorem num?_eq_some {n : Number} : v.num? = some n ↔ v = .num n := by cases v <;> simp [num?]

@[simp] theorem str?_eq_some {s : String} : v.str? = some s ↔ v = .str s := by cases v <;> simp [str?]

@[simp] theorem arr?_eq_some {xs : List Json} : v.arr? = some xs ↔ v = .arr xs := by cases v <;> simp [arr?]

@[simp] theorem obj?_eq_some {ms : List (String × Json)} : v.obj? = some ms ↔ v = .obj ms := by
  cases v <;> simp [obj?]

end Views

/-! ## Equality of values -/

mutual

/-- Equality in value: the order of the members of an object does not count, the order of elements does. -/
def same : Json → Json → Bool
  | .null, .null => true
  | .bool a, .bool b => a == b
  | .num m, .num n => m.same n
  | .str s, .str t => s == t
  | .arr xs, .arr ys => sameElements xs ys
  | .obj ms, .obj ns => ms.length == ns.length && sameMembers ms ns
  | _, _ => false

/-- Whether two lists are equal in value, place by place. -/
def sameElements : List Json → List Json → Bool
  | [], [] => true
  | x :: xs, y :: ys => same x y && sameElements xs ys
  | _, _ => false

/-- Whether each member has an equal value under its key among the others. -/
def sameMembers : List (String × Json) → List (String × Json) → Bool
  | [], _ => true
  | (key, v) :: rest, others =>
    (match others.lookup key with
      | some w => same v w
      | none => false) && sameMembers rest others

end

/-! ## Well-formed values -/

mutual

/-- Every object in the value has each of its keys once. -/
def WellFormed : Json → Prop
  | .arr xs => WellFormedElements xs
  | .obj ms => (ms.map Prod.fst).Nodup ∧ WellFormedMembers ms
  | _ => True

/-- Every element is well formed. -/
def WellFormedElements : List Json → Prop
  | [] => True
  | x :: xs => WellFormed x ∧ WellFormedElements xs

/-- The value of every member is well formed. -/
def WellFormedMembers : List (String × Json) → Prop
  | [] => True
  | (_, v) :: rest => WellFormed v ∧ WellFormedMembers rest

end

end Json

end QueryDsl
