import Mathlib.Data.List.Forall2
import QueryDsl.Proofs.Checks

/-!
# Two runs that agree

Two readers agree when both succeed with related values or both fail with related errors (`Agree`). Chains of readers
agree when their stages do (`Agree.bind`, `Agree.mapM`).
-/

namespace QueryDsl.Checks

variable {ε α β γ δ : Type} {E : ε → ε → Prop} {R : α → β → Prop} {S : γ → δ → Prop}

/-- Two outcomes agree, values by one relation and errors by the other. -/
inductive Agree (E : ε → ε → Prop) (R : α → β → Prop) : Except ε α → Except ε β → Prop
  | ok {a : α} {b : β} : R a b → Agree E R (.ok a) (.ok b)
  | error {e e' : ε} : E e e' → Agree E R (.error e) (.error e')

namespace Agree

theorem of_eq (hE : ∀ e, E e e) {x y : Except ε α} (h : x = y) : Agree E Eq x y := by
  subst h
  cases x with
  | ok a => exact .ok rfl
  | error e => exact .error (hE e)

/-- Readers that succeed alike agree, if errors are not told apart. -/
theorem of_eq_ok_iff {x y : Except ε α} (h : ∀ a, x = .ok a ↔ y = .ok a) : Agree (fun _ _ => True) Eq x y := by
  cases x with
  | ok a =>
    rw [(h a).1 rfl]
    exact .ok rfl
  | error e =>
    cases y with
    | ok a => cases (h a).2 rfl
    | error e' => exact .error trivial

theorem eq_ok {x y : Except ε α} (h : Agree E Eq x y) {a : α} (hx : x = .ok a) : y = .ok a := by
  subst hx
  cases h with
  | ok hab => rw [hab]

theorem exists_eq_error {x : Except ε α} {y : Except ε β} (h : Agree E R x y) {e : ε} (hx : x = .error e) :
    ∃ e', y = .error e' ∧ E e e' := by
  subst hx
  cases h with
  | error he => exact ⟨_, rfl, he⟩

theorem bind {x : Except ε α} {y : Except ε β} {f : α → Except ε γ} {g : β → Except ε δ} (h : Agree E R x y)
    (hfg : ∀ a b, R a b → Agree E S (f a) (g b)) : Agree E S (x >>= f) (y >>= g) := by
  cases h with
  | ok hab => exact hfg _ _ hab
  | error he => exact .error he

theorem map {x : Except ε α} {y : Except ε β} {f : α → γ} {g : β → δ} (h : Agree E R x y)
    (hfg : ∀ a b, R a b → S (f a) (g b)) : Agree E S (x.map f) (y.map g) := by
  cases h with
  | ok hab => exact .ok (hfg _ _ hab)
  | error he => exact .error he

/-- Lists that are related element by element are read alike. -/
theorem mapM {T : α → β → Prop} {xs : List α} {ys : List β} {f : α → Except ε γ} {g : β → Except ε δ}
    (h : List.Forall₂ T xs ys) (hfg : ∀ a b, T a b → Agree E S (f a) (g b)) :
    Agree E (List.Forall₂ S) (xs.mapM f) (ys.mapM g) := by
  induction h with
  | nil => exact .ok .nil
  | cons hab _ ih =>
    rw [List.mapM_cons, List.mapM_cons]
    exact (hfg _ _ hab).bind fun _ _ hc => ih.bind fun _ _ hcs => .ok (.cons hc hcs)

theorem forM {xs : List α} {f g : α → Except ε Unit} (hfg : ∀ a, Agree E Eq (f a) (g a)) :
    Agree E Eq (forM xs f) (forM xs g) := by
  induction xs with
  | nil => exact .ok rfl
  | cons a xs ih =>
    rw [List.forM_cons, List.forM_cons]
    exact (hfg a).bind fun _ _ _ => ih

/-- Tests of two lists agree if both lists pass or neither does, and no errors are told apart. -/
theorem forM_passes {test : α → Bool} {test' : β → Bool} {error : α → ε} {error' : β → ε} {xs : List α} {ys : List β}
    (h : (∀ a ∈ xs, test a = true) ↔ ∀ b ∈ ys, test' b = true) (hE : ∀ a b, E (error a) (error' b)) :
    Agree E Eq (ForM.forM xs (passes test error)) (ForM.forM ys (passes test' error')) := by
  have hxs : ForM.forM xs (passes test error) = .ok () ↔ ∀ a ∈ xs, test a = true :=
    forM_eq_ok fun _ _ => passes_eq_ok
  have hys : ForM.forM ys (passes test' error') = .ok () ↔ ∀ b ∈ ys, test' b = true :=
    forM_eq_ok fun _ _ => passes_eq_ok
  cases hx : ForM.forM xs (passes test error) with
  | ok u =>
    rw [hys.2 (h.1 (hxs.1 hx))]
    exact .ok rfl
  | error e =>
    cases hy : ForM.forM ys (passes test' error') with
    | ok u =>
      rw [hxs.2 (h.2 (hys.1 hy))] at hx
      cases hx
    | error e' =>
      rw [forM_eq_error (fun _ _ => passes_eq_ok) fun _ _ => passes_eq_error] at hx hy
      obtain ⟨-, a, -, -, -, -, rfl⟩ := hx
      obtain ⟨-, b, -, -, -, -, rfl⟩ := hy
      exact .error (hE a b)

end Agree

end QueryDsl.Checks
