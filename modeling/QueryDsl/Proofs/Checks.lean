/-!
# Checks in order

A reader is a chain of stages of which each may fail. A chain succeeds when every stage does (`bind_eq_ok`,
`forM_eq_ok`), and its error is the one of the first stage that fails, all stages before it having succeeded
(`bind_eq_error`, `forM_eq_error`).
-/

namespace QueryDsl.Checks

variable {ε α β : Type}

theorem bind_eq_ok {x : Except ε α} {f : α → Except ε β} {b : β} :
    x >>= f = .ok b ↔ ∃ a, x = .ok a ∧ f a = .ok b := by
  cases x <;> simp [bind, Except.bind]

theorem bind_eq_error {x : Except ε α} {f : α → Except ε β} {e : ε} :
    x >>= f = .error e ↔ x = .error e ∨ ∃ a, x = .ok a ∧ f a = .error e := by
  cases x <;> simp [bind, Except.bind]

theorem pure_eq_ok {a b : α} : (pure a : Except ε α) = .ok b ↔ a = b := Except.ok.injEq a b ▸ Iff.rfl

theorem pure_ne_error {a : α} {e : ε} : (pure a : Except ε α) = .error e ↔ False := by simp [pure, Except.pure]

theorem map_eq_ok {x : Except ε α} {f : α → β} {b : β} : x.map f = .ok b ↔ ∃ a, x = .ok a ∧ f a = b := by
  cases x <;> simp [Except.map]

theorem map_eq_error {x : Except ε α} {f : α → β} {e : ε} : x.map f = .error e ↔ x = .error e := by
  cases x <;> simp [Except.map]

/-! ## Checks of lists -/

section Lists

variable {check : α → Except ε Unit} {ok : α → Prop} {l : List α}

/-- A list passes a check when every element does. -/
theorem forM_eq_ok (hok : ∀ a ∈ l, check a = .ok () ↔ ok a) {u : Unit} : forM l check = .ok u ↔ ∀ a ∈ l, ok a := by
  induction l with
  | nil => simp [pure, Except.pure]
  | cons a l ih =>
    obtain ⟨ha, hl⟩ := List.forall_mem_cons.1 hok
    rw [List.forM_cons, bind_eq_ok, ih hl, List.forall_mem_cons, ← ha]
    exact ⟨fun ⟨_, ha, hl⟩ => ⟨ha, hl⟩, fun ⟨ha, hl⟩ => ⟨(), ha, hl⟩⟩

/-- A list fails a check with the error of the first element that does. -/
theorem forM_eq_error {bad : α → Prop} {e : ε} (hok : ∀ a ∈ l, check a = .ok () ↔ ok a)
    (hbad : ∀ a ∈ l, check a = .error e ↔ bad a) : forM l check = .error e ↔
      ∃ before a after, l = before ++ a :: after ∧ (∀ b ∈ before, ok b) ∧ bad a := by
  induction l with
  | nil => simp [pure, Except.pure]
  | cons a l ih =>
    obtain ⟨hoka, hokl⟩ := List.forall_mem_cons.1 hok
    obtain ⟨hbada, hbadl⟩ := List.forall_mem_cons.1 hbad
    rw [List.forM_cons, bind_eq_error, ih hokl hbadl, hbada]
    constructor
    · rintro (h | ⟨⟨⟩, h, before, c, after, rfl, hb, hc⟩)
      · exact ⟨[], a, l, rfl, by simp, h⟩
      · exact ⟨a :: before, c, after, rfl, List.forall_mem_cons.2 ⟨hoka.1 h, hb⟩, hc⟩
    · rintro ⟨before, c, after, hl, hb, hc⟩
      cases before with
      | nil =>
        obtain ⟨rfl, rfl⟩ := List.cons.inj hl
        exact Or.inl hc
      | cons b before =>
        obtain ⟨rfl, rfl⟩ := List.cons.inj hl
        have hb := List.forall_mem_cons.1 hb
        exact Or.inr ⟨(), hoka.2 hb.1, before, c, after, rfl, hb.2, hc⟩

end Lists

/-! ## Tests

Looking for an element that fails a test is the check that every element passes it. -/

variable (test : α → Bool) (error : α → ε)

/-- The check of one element. -/
def passes (a : α) : Except ε Unit := if test a then .ok () else .error (error a)

variable {test error}

theorem passes_eq_ok {a : α} : passes test error a = .ok () ↔ test a = true := by
  unfold passes
  split <;> simp [*]

theorem passes_eq_error {a : α} {e : ε} : passes test error a = .error e ↔ ¬ test a = true ∧ e = error a := by
  unfold passes
  split <;> simp [*, eq_comm]

theorem elim_find?_eq_forM (test : α → Bool) (error : α → ε) (l : List α) :
    (l.find? fun a => !test a).elim (Except.ok ()) (fun a => .error (error a)) = forM l (passes test error) := by
  induction l with
  | nil => rfl
  | cons a l ih =>
    rw [List.forM_cons, List.find?_cons, passes]
    cases test a with
    | true => exact ih
    | false => rfl

end QueryDsl.Checks
