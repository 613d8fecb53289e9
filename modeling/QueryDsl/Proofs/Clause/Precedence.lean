import QueryDsl.Proofs.Clause.Acceptance

/-!
# Which error a clause gives

`Members.FirstFault` says of an object which stage of the decoder it violates first, and the error for it: every case
asks that the stages before it are passed. `ofJson_obj_eq_error_iff`: this error is the one that decoding gives, and
every object without the right form has one.
-/

namespace QueryDsl

open Checks

namespace Members

/-- The first stage that an object violates, by its error. -/
inductive FirstFault (ms : Members) : QueryError → Prop
  /-- Neither key for the kind is there. -/
  | noKind : ms.lookup "type" = none → ms.lookup "kind" = none → FirstFault ms (.missingField "<unknown>" "type")
  /-- The kind is not a string. -/
  | kindNotText {v : Json} : ms.lookup ms.kindKey = some v → (∀ s, v ≠ .str s) →
      FirstFault ms (.invalidField "<unknown>" ms.kindKey "a string")
  /-- The string names no kind. -/
  | noSuchKind {s : String} : ms.lookup ms.kindKey = some (.str s) → (∀ kind : ClauseKind, kind.name ≠ s) →
      FirstFault ms (.unsupportedKind s)
  /-- A key means nothing, and every key before it means something. -/
  | strayKey {kind : ClauseKind} {before after : Members} {m : String × Json} : ms.Names kind →
      ms = before ++ m :: after → (∀ b ∈ before, ms.Known kind b.1) → ¬ ms.Known kind m.1 →
      FirstFault ms (.unknownField kind.name m.1)
  /-- The negation is neither null nor a flag. -/
  | negationNotFlag {kind : ClauseKind} {v : Json} : ms.Names kind → (∀ m ∈ ms, ms.Known kind m.1) →
      ms.lookup ms.negationKey = some v → v ≠ .null → (∀ b, v ≠ .bool b) →
      FirstFault ms (.invalidField kind.name ms.negationKey "a boolean")
  /-- A field is absent or null, and every field before it is there. -/
  | fieldMissing {kind : ClauseKind} {before after : List String} {field : String} : ms.Names kind →
      (∀ m ∈ ms, ms.Known kind m.1) → ms.NegationFits → kind.requiredFields = before ++ field :: after →
      (∀ f ∈ before, ms.Present f) → ¬ ms.Present field → FirstFault ms (.missingField kind.name field)
  /-- All fields are there; one holds the wrong value, and every field before it holds what it should. -/
  | wrongValue {kind : ClauseKind} {before after : List String} {field : String} {v : Json} {e : QueryError} :
      ms.Names kind → (∀ m ∈ ms, ms.Known kind m.1) → ms.NegationFits →
      (∀ f ∈ kind.requiredFields, ms.Present f) → kind.requiredFields = before ++ field :: after →
      (∀ f ∈ before, ms.Fits f) → ms.lookup field = some v → FieldFault kind field v e → FirstFault ms e

end Members

namespace Filter

variable {ms : Members} {e : QueryError}

/-- An error is the error of a stage, all stages before it being passed. -/
theorem ofMembers_eq_error : ofMembers ms = .error e ↔ decodeKind ms = .error e ∨ ∃ kind, ms.Names kind ∧
    (checkKeys kind ms.usedKeys ms = .error e ∨ (∀ m ∈ ms, ms.Known kind m.1) ∧
      (decodeNegation kind (firstPresent? ms negationKeys) = .error e ∨ ms.NegationFits ∧
        (checkPresent kind ms kind.requiredFields = .error e ∨ (∀ f ∈ kind.requiredFields, ms.Present f) ∧
          decodeClause kind ms = .error e))) := by
  have hused : ms.kindKey :: (firstPresent? ms negationKeys).toList.map Prod.fst = ms.usedKeys := rfl
  simp only [ofMembers, bind_eq_error, Prod.exists, decodeKind_eq_ok, and_assoc, exists_and_left, exists_eq_left,
    hused, checkKeys_eq_ok, checkPresent_eq_ok, exists_const, pure_ne_error, and_false, exists_false, or_false,
    exists_and_right, exists_decodeNegation_iff]

/-- The decoder gives the error of the first stage that is violated. -/
theorem ofMembers_eq_error_iff_firstFault : ofMembers ms = .error e ↔ ms.FirstFault e := by
  rw [ofMembers_eq_error, decodeKind_eq_error]
  constructor
  · rintro ((⟨htype, hkind, rfl⟩ | ⟨v, hv, hs, rfl⟩ | ⟨s, hs, hk, rfl⟩) | ⟨kind, hnames, h⟩)
    · exact .noKind htype hkind
    · exact .kindNotText hv hs
    · exact .noSuchKind hs hk
    · rcases h with h | ⟨hkeys, h | ⟨hfits, h | ⟨hpresent, h⟩⟩⟩
      · obtain ⟨before, m, after, hms, hb, hm, rfl⟩ := checkKeys_eq_error.1 h
        exact .strayKey hnames hms hb hm
      · obtain ⟨v, hv, hn, hb, rfl⟩ := decodeNegation_eq_error.1 h
        exact .negationNotFlag hnames hkeys hv hn hb
      · obtain ⟨before, field, after, hf, hb, hm, rfl⟩ := checkPresent_eq_error.1 h
        exact .fieldMissing hnames hkeys hfits hf hb hm
      · obtain ⟨before, field, after, hf, hb, v, hv, hm⟩ := (decodeClause_eq_error hpresent).1 h
        exact .wrongValue hnames hkeys hfits hpresent hf hb hv hm
  · intro h
    cases h with
    | noKind htype hkind => exact Or.inl (Or.inl ⟨htype, hkind, rfl⟩)
    | kindNotText hv hs => exact Or.inl (Or.inr (Or.inl ⟨_, hv, hs, rfl⟩))
    | noSuchKind hs hk => exact Or.inl (Or.inr (Or.inr ⟨_, hs, hk, rfl⟩))
    | strayKey hnames hms hb hm =>
      refine Or.inr ⟨_, hnames, Or.inl ?_⟩
      exact checkKeys_eq_error.2 ⟨_, _, _, hms, hb, hm, rfl⟩
    | negationNotFlag hnames hkeys hv hn hb =>
      refine Or.inr ⟨_, hnames, Or.inr ⟨hkeys, Or.inl ?_⟩⟩
      exact decodeNegation_eq_error.2 ⟨_, hv, hn, hb, rfl⟩
    | fieldMissing hnames hkeys hfits hf hb hm =>
      refine Or.inr ⟨_, hnames, Or.inr ⟨hkeys, Or.inr ⟨hfits, Or.inl ?_⟩⟩⟩
      exact checkPresent_eq_error.2 ⟨_, _, _, hf, hb, hm, rfl⟩
    | wrongValue hnames hkeys hfits hpresent hf hb hv hm =>
      refine Or.inr ⟨_, hnames, Or.inr ⟨hkeys, Or.inr ⟨hfits, Or.inr ⟨hpresent, ?_⟩⟩⟩⟩
      exact (decodeClause_eq_error hpresent).2 ⟨_, _, _, hf, hb, _, hv, hm⟩

/-- An object violates a stage exactly when it has the right form for no kind. -/
theorem exists_firstFault_iff : (∃ e, ms.FirstFault e) ↔ ∀ kind, ¬ ms.Accepted kind := by
  simp only [← ofMembers_eq_error_iff_firstFault]
  constructor
  · rintro ⟨e, he⟩ kind h
    obtain ⟨f, hf, -⟩ := exists_ofMembers h
    rw [he] at hf
    cases hf
  · intro h
    cases hr : ofMembers ms with
    | ok f => exact absurd (describes_of_ofMembers hr).accepted (h f.kind)
    | error e => exact ⟨e, rfl⟩

/-- **Which error comes first.** An object is refused with an error exactly when that is the error of the first stage
that it violates, and an object violates a stage exactly when it has the right form for no kind. -/
theorem ofJson_obj_eq_error_iff (ms : Members) :
    (∀ e, ofJson (.obj ms) = .error e ↔ ms.FirstFault e) ∧ ((∃ e, ms.FirstFault e) ↔ ∀ kind, ¬ ms.Accepted kind) :=
  ⟨fun _ => ofMembers_eq_error_iff_firstFault, exists_firstFault_iff⟩

/-- A key that means nothing comes before a bad negation, and both come before an absent field. -/
example : ofJson (.obj [("not", .str "x"), ("type", .str "exists"), ("stray", .null)]) =
    .error (.unknownField "exists" "stray") := rfl

end Filter

end QueryDsl
