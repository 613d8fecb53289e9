import QueryDsl.Proofs.Agreement
import QueryDsl.Proofs.Clause.Acceptance
import QueryDsl.Proofs.Json.Lookup

/-!
# Clauses with other names for their keys

The kind and the negation of a clause each go by two names. An object in which one of two names is replaced by the
other, which is not there (`Members.Respelled`), is known by the same chosen value (`Members.SameChoice`). So a clause
that is respelled describes the same filter (`Members.SameMeaning.ofMembers_eq_ok_iff`).
-/

namespace QueryDsl

open Checks

namespace Members

variable {ms mid ns : Members}

/-! ## Names of keys -/

/-- The object with one key under another name. -/
def rename (old new : String) (ms : Members) : Members := ms.map fun m => (if m.1 = old then new else m.1, m.2)

/-- At most one of the names is replaced, by another of the names that is not there. -/
inductive Respelled (names : List String) (ms : Members) : Members → Prop
  | same : Respelled names ms ms
  | rename {old new : String} : old ∈ names → new ∈ names → ms.lookup new = none →
      Respelled names ms (ms.rename old new)

/-- The old name is gone, and what it had is under the new one. -/
theorem lookup_rename {old new : String} (h : ms.lookup new = none) (key : String) :
    (ms.rename old new).lookup key =
      if key = new then ms.lookup old else if key = old then none else ms.lookup key := by
  induction ms with
  | nil => simp [rename]
  | cons m ms ih =>
    obtain ⟨name, v⟩ := m
    rw [lookup_cons] at h
    split at h
    · cases h
    · next hnew =>
      have ih := ih h
      unfold rename at ih ⊢
      rw [List.map_cons, lookup_cons, lookup_cons, lookup_cons, ih]
      grind

/-- No key is doubled by a new name. -/
theorem Respelled.nodup {names : List String} (h : Respelled names ms ns) (hms : (ms.map Prod.fst).Nodup) :
    (ns.map Prod.fst).Nodup := by
  cases h with
  | same => exact hms
  | @rename old new _ _ habsent =>
    have hkeys : (ms.rename old new).map Prod.fst =
        (ms.map Prod.fst).map fun key => if key = old then new else key := by
      rw [Members.rename, List.map_map, List.map_map]
      rfl
    have hnew : new ∉ ms.map Prod.fst := fun hmem => lookup_ne_none.2 hmem habsent
    rw [hkeys]
    refine List.Nodup.map_on (fun x hx y hy hxy => ?_) hms
    split at hxy
    · next hxold =>
      split at hxy
      · next hyold => rw [hxold, hyold]
      · exact absurd (hxy ▸ hy) hnew
    · split at hxy
      · exact absurd (hxy ▸ hx) hnew
      · exact hxy

/-- One of two names at most is there, in both objects or in neither, and it has the same value. -/
structure SameChoice (preferred other : String) (ms ns : Members) : Prop where
  chosen : ns.lookup (ns.choose preferred other) = ms.lookup (ms.choose preferred other)
  single : ms.lookup preferred = none ∨ ms.lookup other = none ↔ ns.lookup preferred = none ∨ ns.lookup other = none

section Choice

variable {a b : String}

/-- The chosen one of two names has the value of the first that is there. -/
theorem lookup_choose : ms.lookup (ms.choose a b) = (ms.lookup a).or (ms.lookup b) := by
  unfold choose
  cases ha : ms.lookup a with
  | some v => simp [ha]
  | none => simp

theorem SameChoice.of_lookup_eq (ha : ns.lookup a = ms.lookup a) (hb : ns.lookup b = ms.lookup b) :
    SameChoice a b ms ns := by
  constructor
  · rw [lookup_choose, lookup_choose, ha, hb]
  · rw [ha, hb]

theorem SameChoice.symm (h : SameChoice a b ms ns) : SameChoice a b ns ms := ⟨h.chosen.symm, h.single.symm⟩

theorem SameChoice.trans (h : SameChoice a b ms mid) (h' : SameChoice a b mid ns) : SameChoice a b ms ns :=
  ⟨h'.chosen.trans h.chosen, h.single.trans h'.single⟩

/-- The value goes from one name to the other, and is the chosen one under both. -/
theorem Respelled.sameChoice (h : Respelled [a, b] ms ns) : SameChoice a b ms ns := by
  cases h with
  | same => exact .of_lookup_eq rfl rfl
  | @rename old new hold hnew habsent =>
    simp only [List.mem_cons, List.not_mem_nil, or_false] at hold hnew
    constructor
    · rw [lookup_choose, lookup_choose, lookup_rename habsent, lookup_rename habsent]
      grind
    · simp only [lookup_rename habsent]
      grind

theorem Respelled.lookup_eq (h : Respelled [a, b] ms ns) {key : String} (ha : key ≠ a) (hb : key ≠ b) :
    ns.lookup key = ms.lookup key := by
  cases h with
  | same => rfl
  | rename hold hnew habsent =>
    simp only [List.mem_cons, List.not_mem_nil, or_false] at hold hnew
    rw [lookup_rename habsent]
    grind

theorem choose_mem : ms.choose a b ∈ [a, b] := by
  unfold choose
  split <;> simp

/-- One of two names is there alone when it is the chosen one. -/
theorem single_iff (hab : a ≠ b) : ms.lookup a = none ∨ ms.lookup b = none ↔
    ∀ key ∈ [a, b], ms.lookup key ≠ none → key = ms.choose a b := by
  simp only [List.forall_mem_cons, List.not_mem_nil, false_implies, implies_true, and_true, choose]
  cases ha : ms.lookup a with
  | none => simp
  | some v =>
    simp only [reduceCtorEq, false_or, Option.isSome_some, if_true, implies_true, true_and, hab.symm, imp_false,
      ne_eq, not_not]

end Choice

/-! ## Clauses -/

/-- No field is called like the kind or the negation. -/
theorem not_mem_of_mem_requiredFields {kind : ClauseKind} {field : String} (h : field ∈ kind.requiredFields) :
    field ∉ kindKeys ++ negationKeys := by
  revert field
  cases kind <;> decide

/-- All keys mean something exactly when the kind and the negation go by one name each, and the rest are fields. -/
theorem forall_known_iff {kind : ClauseKind} : (∀ m ∈ ms, ms.Known kind m.1) ↔
    (ms.lookup "type" = none ∨ ms.lookup "kind" = none) ∧ (ms.lookup "not" = none ∨ ms.lookup "negate" = none) ∧
      ∀ key, key ∉ kindKeys ++ negationKeys → ms.lookup key ≠ none → key ∈ kind.requiredFields := by
  have hkind : ms.kindKey ∈ kindKeys := choose_mem
  have hnegation : ms.negationKey ∈ negationKeys := choose_mem
  have hdisjoint : ∀ key ∈ kindKeys, key ∉ negationKeys := by decide
  have hfields {key : String} (h : key ∈ kind.requiredFields) : key ∉ kindKeys ∧ key ∉ negationKeys :=
    not_or.1 (mt List.mem_append.2 (not_mem_of_mem_requiredFields h))
  rw [forall_key_iff (ms.Known kind), single_iff (by decide), single_iff (by decide)]
  constructor
  · -- a known key is of one sort alone: a name of the kind, of the negation, or a field
    intro h
    refine ⟨fun key hkey hne => ?_, fun key hkey hne => ?_, fun key hkey hne => ?_⟩
    · rcases h key hne with hk | rfl | hk
      · exact hk
      · exact absurd hnegation (hdisjoint _ hkey)
      · exact absurd hkey (hfields hk).1
    · rcases h key hne with rfl | hk | hk
      · exact absurd hkey (hdisjoint _ hkind)
      · exact hk
      · exact absurd hkey (hfields hk).2
    · rcases h key hne with rfl | rfl | hk
      · exact absurd (List.mem_append_left _ hkind) hkey
      · exact absurd (List.mem_append_right _ hnegation) hkey
      · exact hk
  · rintro ⟨hk, hn, hrest⟩ key hne
    by_cases hkey : key ∈ kindKeys
    · exact Or.inl (hk key hkey hne)
    · by_cases hkey' : key ∈ negationKeys
      · exact Or.inr (Or.inl (hn key hkey' hne))
      · exact Or.inr (Or.inr (hrest key (by simp [hkey, hkey']) hne))

/-- The objects say the same of a clause, by whichever names. -/
structure SameMeaning (ms ns : Members) : Prop where
  kind : SameChoice "type" "kind" ms ns
  negation : SameChoice "not" "negate" ms ns
  others : ∀ key, key ∉ kindKeys ++ negationKeys → ns.lookup key = ms.lookup key

/-- Objects that say the same are decoded to the same filter. -/
theorem SameMeaning.ofMembers_eq_ok_iff (h : SameMeaning ms ns) (f : Filter) :
    Filter.ofMembers ms = .ok f ↔ Filter.ofMembers ns = .ok f := by
  have hfield {kind : ClauseKind} {field : String} (hfield : field ∈ kind.requiredFields) :
      ns.lookup field = ms.lookup field := h.others field (not_mem_of_mem_requiredFields hfield)
  rw [Filter.ofMembers_eq_ok, Filter.ofMembers_eq_ok]
  refine exists_congr fun kind => ?_
  have hnames : ms.Names kind ↔ ns.Names kind := by
    unfold Names
    rw [kindKey, kindKey, h.kind.chosen]
  have hknown : (∀ m ∈ ms, ms.Known kind m.1) ↔ ∀ m ∈ ns, ns.Known kind m.1 := by
    rw [forall_known_iff, forall_known_iff, h.kind.single, h.negation.single]
    refine and_congr_right fun _ => and_congr_right fun _ => forall₂_congr fun key hkey => ?_
    rw [h.others key hkey]
  have hnegation : ms.lookup ms.negationKey = ns.lookup ns.negationKey := h.negation.chosen.symm
  have hpresent : (∀ field ∈ kind.requiredFields, ms.Present field) ↔
      ∀ field ∈ kind.requiredFields, ns.Present field := by
    refine forall₂_congr fun field hf => ?_
    rw [Present, Present, hfield hf]
  have hclause : decodeClause kind ms = decodeClause kind ns := decodeClause_congr fun field => hfield
  rw [hnames, hknown, hpresent, hclause, NegationFits, NegationFits, hnegation]

/-- Another name for the kind leaves the negation alone, and the other way round. -/
theorem SameMeaning.of_respelled (hkind : Respelled kindKeys ms mid) (hnegation : Respelled negationKeys mid ns) :
    SameMeaning ms ns := by
  constructor
  · refine hkind.sameChoice.trans (.of_lookup_eq ?_ ?_)
    · exact hnegation.lookup_eq (by decide) (by decide)
    · exact hnegation.lookup_eq (by decide) (by decide)
  · refine .trans (.of_lookup_eq ?_ ?_) hnegation.sameChoice
    · exact hkind.lookup_eq (by decide) (by decide)
    · exact hkind.lookup_eq (by decide) (by decide)
  · intro key hkey
    simp only [kindKeys, negationKeys, List.mem_append, List.mem_cons, List.not_mem_nil, or_false, not_or] at hkey
    rw [hnegation.lookup_eq hkey.2.1 hkey.2.2, hkind.lookup_eq hkey.1.1 hkey.1.2]

end Members

/-- The kind and the negation of a clause may each go by the other name, if that is not there. -/
inductive ClauseRespelled : Json → Json → Prop
  | same (v : Json) : ClauseRespelled v v
  | obj {ms mid ns : Members} : Members.Respelled kindKeys ms mid → Members.Respelled negationKeys mid ns →
      ClauseRespelled (.obj ms) (.obj ns)

/-- A clause that is respelled is decoded to the same filter, or refused as before. -/
theorem Filter.agree_of_clauseRespelled {v w : Json} (h : ClauseRespelled v w) :
    Agree (fun _ _ => True) Eq (ofJson v) (ofJson w) := by
  cases h with
  | same => exact Agree.of_eq (fun _ => trivial) rfl
  | obj hkind hnegation =>
    exact Agree.of_eq_ok_iff (Members.SameMeaning.of_respelled hkind hnegation).ofMembers_eq_ok_iff

end QueryDsl
