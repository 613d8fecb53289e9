import Mathlib.Logic.Function.Iterate
import QueryDsl.Clause.Fragment

/-!
# Negations around a fragment

The flag of a filter can be set any number of times and gives one wrap (`Filter.fragment_negated_iterate`). Every
further wrap is a level more. Taking wraps off until none is left (`Json.peelNot`) ends with a value that is no wrap,
and there is one way to do so (`Json.peelNot_eq_iff`). No fragment of a clause is a wrap, so it ends at the fragment
without the flag (`wrapped_fragment`).
-/

namespace QueryDsl

namespace Json

/-! ## Wraps -/

/-- The value inside all outer objects with the one key `not`, behind their number. -/
def peelNot : Json → Nat × Json
  | .obj [(key, v)] => if key = "not" then ((peelNot v).1 + 1, (peelNot v).2) else (0, .obj [(key, v)])
  | v => (0, v)

/-- The value is no object with the one key `not`. -/
def NoWrap (v : Json) : Prop := ∀ w, v ≠ negateFragment w

variable {u v : Json}

/-- One wrap is one level. -/
theorem peelNot_negateFragment (v : Json) : (negateFragment v).peelNot = (v.peelNot.1 + 1, v.peelNot.2) := by
  show (Json.obj [("not", v)]).peelNot = _
  rw [peelNot, if_pos rfl]

/-- A value that is no wrap has no level. -/
theorem NoWrap.peelNot (h : v.NoWrap) : v.peelNot = (0, v) := by
  unfold Json.peelNot
  split
  · next key w =>
    refine if_neg ?_
    rintro rfl
    exact h w rfl
  · rfl

/-- As many wraps as are put around a value are taken off, and those that it has. -/
theorem peelNot_iterate (n : Nat) (v : Json) : (negateFragment^[n] v).peelNot = (v.peelNot.1 + n, v.peelNot.2) := by
  induction n with
  | zero => rfl
  | succ n ih => rw [Function.iterate_succ_apply', peelNot_negateFragment, ih, Nat.add_assoc]

/-- What is left is no wrap, and with its wraps it is the value. -/
theorem peelNot_spec (v : Json) : negateFragment^[v.peelNot.1] v.peelNot.2 = v ∧ v.peelNot.2.NoWrap := by
  fun_induction peelNot v with
  | case1 v ih => exact ⟨by rw [Function.iterate_succ_apply', ih.1]; rfl, ih.2⟩
  | case2 key v hkey => exact ⟨rfl, fun w hw => hkey (by cases hw; rfl)⟩
  | case3 v hv => exact ⟨rfl, fun w hw => hv "not" w hw⟩

/-- **There is one way to take wraps off until none is left.** -/
theorem peelNot_eq_iff {n : Nat} : v.peelNot = (n, u) ↔ v = negateFragment^[n] u ∧ u.NoWrap := by
  constructor
  · intro h
    have hspec := v.peelNot_spec
    rw [h] at hspec
    exact ⟨hspec.1.symm, hspec.2⟩
  · rintro ⟨rfl, hu⟩
    rw [peelNot_iterate, hu.peelNot, Nat.zero_add]

end Json

open Json

/-! ## Fragments -/

/-- The fragment of a clause is no wrap, whatever the clause holds. -/
theorem Clause.noWrap_fragment (c : Clause) : c.fragment.NoWrap := by
  intro w h
  obtain ⟨hkey, -⟩ := Prod.mk.inj (List.cons.inj (Json.obj.inj h)).1
  exact c.kind.name_ne_not hkey

namespace Filter

/-- The flag is set once. -/
theorem negated_iterate (f : Filter) : ∀ n, negated^[n] f = { f with negate := f.negate || decide (1 ≤ n) }
  | 0 => by simp
  | n + 1 => by rw [Function.iterate_succ_apply', negated_iterate f n]; simp [negated]

/-- However often the flag is set, it is one wrap. -/
theorem fragment_negated_iterate (f : Filter) (n : Nat) :
    (negated^[n] f).fragment = negateFragment^[if f.negate = true ∨ 1 ≤ n then 1 else 0] f.clause.fragment := by
  rw [negated_iterate, fragment]
  by_cases h : f.negate = true ∨ 1 ≤ n
  · rw [if_pos h, if_pos (by simpa using h)]
    rfl
  · rw [if_neg h, if_neg (by simpa using h)]
    rfl

end Filter

/-- **Negation is one uniform wrap.** Around the fragment of a filter that is negated `n` times, with `w` wraps more,
there are `w + 1` wraps if the filter has its flag or is negated at all, and else `w`. Taking wraps off ends, after this
number of them, at the fragment of the clause; and nothing else is left by taking wraps off until none is left. -/
theorem wrapped_fragment (f : Filter) (n w : Nat) :
    let result := negateFragment^[w] (Filter.negated^[n] f).fragment
    let wraps := if f.negate = true ∨ 1 ≤ n then w + 1 else w
    result = negateFragment^[wraps] f.clause.fragment ∧ result.peelNot = (wraps, f.clause.fragment) ∧
      ∀ k u, result = negateFragment^[k] u ∧ u.NoWrap ↔ k = wraps ∧ u = f.clause.fragment := by
  intro result wraps
  have hresult : result = negateFragment^[wraps] f.clause.fragment := by
    have hwraps : wraps = w + if f.negate = true ∨ 1 ≤ n then 1 else 0 := by
      unfold wraps
      split <;> rfl
    rw [hwraps, Function.iterate_add_apply, ← Filter.fragment_negated_iterate]
  have hpeel : result.peelNot = (wraps, f.clause.fragment) :=
    peelNot_eq_iff.2 ⟨hresult, f.clause.noWrap_fragment⟩
  refine ⟨hresult, hpeel, fun k u => ?_⟩
  rw [← peelNot_eq_iff, hpeel, Prod.mk.injEq, eq_comm (a := wraps), eq_comm (a := f.clause.fragment)]

/-- A field called `not` with an object of that shape for its value: of the levels with this key only two are wraps. -/
theorem wrapped_fragment_field_not :
    let f : Filter := ⟨.term "not" (.obj [("not", .null)]), false⟩
    (negateFragment (Filter.negated (Filter.negated f)).fragment).peelNot =
      (2, .obj [("term", .obj [("not", .obj [("not", .null)])])]) := by
  intro f
  exact (wrapped_fragment f 2 1).2.1

end QueryDsl
