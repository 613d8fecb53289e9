import QueryDsl.Proofs.Checks
import QueryDsl.Proofs.Clause.Schema

/-!
# The stages before the fields

The kind, the keys, the negation and the presence of the fields: for each of these stages of `Filter.ofMembers`, when
it succeeds and with what (`…_eq_ok`), and which error it gives when it fails (`…_eq_error`), in the terms of the form
of clause objects. Keys and fields are checked one after the other (`checkKeys_eq_forM`, `checkPresent_eq_forM`).
-/

namespace QueryDsl

open Checks

variable {ms : Members} {kind : ClauseKind}

/-! ## Chosen keys -/

/-- Of two keys, the chosen one is looked up. -/
theorem firstPresent?_pair (ms : Members) (preferred other : String) :
    firstPresent? ms [preferred, other] =
      (ms.lookup (ms.choose preferred other)).map (ms.choose preferred other, ·) := by
  unfold Members.choose
  cases h : ms.lookup preferred with
  | some v => simp [firstPresent?, h]
  | none =>
    cases h' : ms.lookup other <;> simp [firstPresent?, h, h']

/-- Neither of two keys is there exactly when the chosen one is not. -/
theorem lookup_choose_eq_none {preferred other : String} :
    ms.lookup (ms.choose preferred other) = none ↔ ms.lookup preferred = none ∧ ms.lookup other = none := by
  unfold Members.choose
  cases h : ms.lookup preferred with
  | some v => simp [h]
  | none => simp

/-- A member's key has a value. -/
theorem lookup_ne_none_of_mem {m : String × Json} (h : m ∈ ms) : ms.lookup m.1 ≠ none := by
  intro hn
  have := List.lookup_eq_none_iff.1 hn m h
  simp at this

/-! ## The kind -/

theorem ofName?_eq_some {name : String} : ClauseKind.ofName? name = some kind ↔ kind.name = name := by
  constructor
  · intro h
    simpa using List.find?_some h
  · rintro rfl
    exact ClauseKind.ofName?_name kind

theorem ofName_eq_ok {name : String} : ClauseKind.ofName name = .ok kind ↔ kind.name = name := by
  rw [← ofName?_eq_some, ClauseKind.ofName]
  cases ClauseKind.ofName? name <;> simp

theorem ofName_eq_error {name : String} {e : QueryError} :
    ClauseKind.ofName name = .error e ↔ (∀ kind : ClauseKind, kind.name ≠ name) ∧ e = .unsupportedKind name := by
  simp only [ne_eq, ← ofName?_eq_some, ← Option.eq_none_iff_forall_ne_some, ClauseKind.ofName]
  cases ClauseKind.ofName? name <;> simp [eq_comm]

/-- The kind is read from the chosen key alone. -/
theorem decodeKind_eq (ms : Members) : decodeKind ms =
    match ms.lookup ms.kindKey with
    | none => .error (.missingField "<unknown>" "type")
    | some v =>
      match v.str? with
      | none => .error (.invalidField "<unknown>" ms.kindKey "a string")
      | some name => (ClauseKind.ofName name).map (ms.kindKey, ·) := by
  unfold decodeKind
  rw [kindKeys, firstPresent?_pair]
  show _ = match ms.lookup (ms.choose "type" "kind") with | none => _ | some v => _
  cases ms.lookup (ms.choose "type" "kind") <;> rfl

theorem decodeKind_eq_ok {key : String} : decodeKind ms = .ok (key, kind) ↔ key = ms.kindKey ∧ ms.Names kind := by
  rw [decodeKind_eq, Members.Names]
  cases ms.lookup ms.kindKey with
  | none => simp
  | some v =>
    cases v with
    | str name =>
      simp only [Json.str?, map_eq_ok, ofName_eq_ok, Prod.mk.injEq, Option.some.injEq, Json.str.injEq]
      constructor
      · rintro ⟨_, hname, hkey, rfl⟩
        exact ⟨hkey.symm, hname.symm⟩
      · rintro ⟨hkey, hname⟩
        exact ⟨kind, hname.symm, hkey.symm, rfl⟩
    | _ => simp [Json.str?]

theorem decodeKind_eq_error {e : QueryError} : decodeKind ms = .error e ↔
    (ms.lookup "type" = none ∧ ms.lookup "kind" = none ∧ e = .missingField "<unknown>" "type") ∨
    (∃ v, ms.lookup ms.kindKey = some v ∧ (∀ s, v ≠ .str s) ∧ e = .invalidField "<unknown>" ms.kindKey "a string") ∨
    (∃ s, ms.lookup ms.kindKey = some (.str s) ∧ (∀ kind : ClauseKind, kind.name ≠ s) ∧ e = .unsupportedKind s) := by
  rw [decodeKind_eq, ← and_assoc, ← lookup_choose_eq_none, ← Members.kindKey]
  cases ms.lookup ms.kindKey with
  | none => simp [eq_comm]
  | some v =>
    cases v with
    | str name => simp [Json.str?, map_eq_error, ofName_eq_error]
    | _ => simp [Json.str?, eq_comm]

/-! ## Keys and negation -/

theorem checkKeys_eq_forM (kind : ClauseKind) (used : List String) (ms : Members) : checkKeys kind used ms =
    forM ms (passes (fun m => used.contains m.1 || kind.requiredFields.contains m.1)
      fun m => .unknownField kind.name m.1) := by
  rw [← elim_find?_eq_forM, checkKeys]
  cases ms.find? _ <;> rfl

/-- The keys that the decoder has used when it looks for others. -/
def Members.usedKeys (ms : Members) : List String :=
  ms.kindKey :: (firstPresent? ms negationKeys).toList.map Prod.fst

/-- A member's key means something exactly when it was used or is a field. -/
theorem used_or_required_iff {m : String × Json} (hm : m ∈ ms) :
    (ms.usedKeys.contains m.1 || kind.requiredFields.contains m.1) = true ↔ ms.Known kind m.1 := by
  rw [Members.usedKeys, negationKeys, firstPresent?_pair, ← Members.negationKey]
  cases h : ms.lookup ms.negationKey with
  | some v => simp [Members.Known, or_assoc]
  | none =>
    -- no key was used for the negation, and none could have been: the chosen one is not there
    have hne : m.1 ≠ ms.negationKey := fun he => lookup_ne_none_of_mem hm (he ▸ h)
    simp [Members.Known, hne]

theorem checkKeys_eq_ok {u : Unit} : checkKeys kind ms.usedKeys ms = .ok u ↔ ∀ m ∈ ms, ms.Known kind m.1 := by
  rw [checkKeys_eq_forM]
  refine forM_eq_ok fun m hm => ?_
  rw [passes_eq_ok, used_or_required_iff hm]

/-- The first key that means nothing decides the error. -/
theorem checkKeys_eq_error {e : QueryError} : checkKeys kind ms.usedKeys ms = .error e ↔
    ∃ before m after, ms = before ++ m :: after ∧ (∀ m ∈ before, ms.Known kind m.1) ∧
      ¬ ms.Known kind m.1 ∧ e = .unknownField kind.name m.1 := by
  rw [checkKeys_eq_forM]
  refine forM_eq_error (fun m hm => passes_eq_ok.trans (used_or_required_iff hm)) fun m hm => ?_
  rw [passes_eq_error, used_or_required_iff hm]

/-- The negation is read from the chosen key alone. -/
theorem decodeNegation_eq_ok {b : Bool} : decodeNegation kind (firstPresent? ms negationKeys) = .ok b ↔
    ms.NegationFits ∧ (b = true ↔ ms.lookup ms.negationKey = some (.bool true)) := by
  rw [negationKeys, firstPresent?_pair, ← Members.negationKey, Members.NegationFits]
  cases ms.lookup ms.negationKey with
  | none => cases b <;> simp [decodeNegation]
  | some v =>
    cases v with
    | null => cases b <;> simp [decodeNegation]
    | bool c => cases b <;> cases c <;> simp [decodeNegation]
    | _ => simp [decodeNegation]

/-- There is a flag when the negation is absent, null or a boolean. -/
theorem exists_decodeNegation_iff :
    (∃ b, decodeNegation kind (firstPresent? ms negationKeys) = .ok b) ↔ ms.NegationFits := by
  simp only [decodeNegation_eq_ok, exists_and_left, and_iff_left_iff_imp]
  classical exact fun _ => ⟨decide _, decide_eq_true_iff⟩

theorem decodeNegation_eq_error {e : QueryError} :
    decodeNegation kind (firstPresent? ms negationKeys) = .error e ↔
      ∃ v, ms.lookup ms.negationKey = some v ∧ v ≠ .null ∧ (∀ b, v ≠ .bool b) ∧
        e = .invalidField kind.name ms.negationKey "a boolean" := by
  rw [negationKeys, firstPresent?_pair, ← Members.negationKey]
  cases ms.lookup ms.negationKey with
  | none => simp [decodeNegation]
  | some v => cases v <;> simp [decodeNegation, eq_comm]

/-! ## Fields -/

/-- A value that must be there and must not be null, or else an error. -/
def presentOr (e : QueryError) : Option Json → Except QueryError Json
  | none => .error e
  | some .null => .error e
  | some v => .ok v

theorem presentOr_eq_ok {e : QueryError} {o : Option Json} {v : Json} :
    presentOr e o = .ok v ↔ o = some v ∧ v ≠ .null := by
  unfold presentOr
  cases o with
  | none => simp
  | some w => cases w <;> simp <;> rintro rfl <;> simp

theorem presentOr_eq_error {d e : QueryError} {o : Option Json} :
    presentOr d o = .error e ↔ (¬ ∃ v, o = some v ∧ v ≠ .null) ∧ e = d := by
  unfold presentOr
  cases o with
  | none => simp [eq_comm]
  | some w => cases w <;> simp [eq_comm]

theorem fieldValue_eq_presentOr (kind : ClauseKind) (ms : Members) (field : String) :
    fieldValue kind ms field = presentOr (.missingField kind.name field) (ms.lookup field) := rfl

theorem fieldValue_eq_ok {field : String} {v : Json} :
    fieldValue kind ms field = .ok v ↔ ms.lookup field = some v ∧ v ≠ .null := by
  rw [fieldValue_eq_presentOr, presentOr_eq_ok]

theorem fieldValue_eq_error {field : String} {e : QueryError} :
    fieldValue kind ms field = .error e ↔ ¬ ms.Present field ∧ e = .missingField kind.name field := by
  rw [fieldValue_eq_presentOr, presentOr_eq_error, Members.Present]

theorem checkPresent_eq_forM (fields : List String) : checkPresent kind ms fields =
    forM fields fun field => (fieldValue kind ms field).map fun _ => () := by
  induction fields with
  | nil => rfl
  | cons field fields ih =>
    rw [checkPresent, List.forM_cons, ih]
    cases fieldValue kind ms field <;> rfl

theorem checkPresent_eq_ok {fields : List String} {u : Unit} :
    checkPresent kind ms fields = .ok u ↔ ∀ field ∈ fields, ms.Present field := by
  rw [checkPresent_eq_forM]
  exact forM_eq_ok fun field _ => by simp [map_eq_ok, fieldValue_eq_ok, Members.Present]

/-- The first field that is absent or null decides the error. -/
theorem checkPresent_eq_error {fields : List String} {e : QueryError} : checkPresent kind ms fields = .error e ↔
    ∃ before field after, fields = before ++ field :: after ∧ (∀ f ∈ before, ms.Present f) ∧
      ¬ ms.Present field ∧ e = .missingField kind.name field := by
  rw [checkPresent_eq_forM]
  refine forM_eq_error (fun field _ => ?_) fun field _ => map_eq_error.trans fieldValue_eq_error
  simp [map_eq_ok, fieldValue_eq_ok, Members.Present]

end QueryDsl
