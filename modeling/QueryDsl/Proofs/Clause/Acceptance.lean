import QueryDsl.Clause.Fragment
import QueryDsl.Proofs.Clause.Fields

/-!
# Which clauses are accepted

`ofJson_eq_ok_iff`: a JSON value is decoded exactly when it is an object of the right form (`Members.Accepted`), and
the filter that comes out is the one that the object describes (`Members.Describes`): no key is without effect, and
the fragment of the filter is named by the string that named its kind.
-/

namespace QueryDsl

open Checks

namespace Members

/-- The object describes the filter: it is of the filter's kind, holds its values, and negates it exactly when the
negation is `true`. -/
structure Describes (ms : Members) (f : Filter) : Prop where
  accepted : ms.Accepted f.kind
  negates : f.negate = true ↔ ms.lookup ms.negationKey = some (.bool true)
  carries : ms.Carries f.clause

/-- An object is of at most one kind. -/
theorem Names.unique {ms : Members} {k l : ClauseKind} (hk : ms.Names k) (hl : ms.Names l) : k = l :=
  ClauseKind.name_inj (Json.str.inj (Option.some.inj (hk.symm.trans hl)))

/-- An object describes at most one filter. -/
theorem Describes.unique {ms : Members} {f g : Filter} (hf : ms.Describes f) (hg : ms.Describes g) : f = g := by
  obtain ⟨c, b⟩ := f
  obtain ⟨d, b'⟩ := g
  have hclause : c = d := hf.carries.unique hg.carries (hf.accepted.names.unique hg.accepted.names)
  have hnegate : b = b' := Bool.eq_iff_iff.2 (hf.negates.trans hg.negates.symm)
  rw [hclause, hnegate]

end Members

namespace Filter

variable {ms : Members} {f : Filter}

/-- All stages of the decoder are passed. -/
theorem ofMembers_eq_ok : ofMembers ms = .ok f ↔ ∃ kind, ms.Names kind ∧ (∀ m ∈ ms, ms.Known kind m.1) ∧
    (ms.NegationFits ∧ (f.negate = true ↔ ms.lookup ms.negationKey = some (.bool true))) ∧
    (∀ field ∈ kind.requiredFields, ms.Present field) ∧ decodeClause kind ms = .ok f.clause := by
  simp only [ofMembers, bind_eq_ok, Prod.exists, decodeKind_eq_ok, pure_eq_ok, decodeNegation_eq_ok,
    checkPresent_eq_ok]
  constructor
  · rintro ⟨_, kind, ⟨rfl, hnames⟩, ⟨⟩, hkeys, b, hb, -, hp, c, hc, rfl⟩
    exact ⟨kind, hnames, checkKeys_eq_ok.1 hkeys, hb, hp, hc⟩
  · rintro ⟨kind, hnames, hkeys, hb, hp, hc⟩
    exact ⟨_, kind, ⟨rfl, hnames⟩, (), checkKeys_eq_ok.2 hkeys, f.negate, hb, (), hp, f.clause, hc, rfl⟩

/-- The decoder gives the filter that the object describes. -/
theorem describes_of_ofMembers (h : ofMembers ms = .ok f) : ms.Describes f := by
  obtain ⟨kind, hnames, hkeys, ⟨hfits, hb⟩, -, hc⟩ := ofMembers_eq_ok.1 h
  have hfields := exists_decodeClause_iff.1 ⟨_, hc⟩
  obtain ⟨rfl, hcarries⟩ := carries_of_decodeClause hc
  exact ⟨⟨hnames, hkeys, hfits, hfields⟩, hb, hcarries⟩

/-- An object of the right form is decoded. -/
theorem exists_ofMembers {kind : ClauseKind} (h : ms.Accepted kind) : ∃ f, ofMembers ms = .ok f ∧ f.kind = kind := by
  obtain ⟨c, hc⟩ := exists_decodeClause_iff.2 h.fields
  obtain ⟨b, hb⟩ := (@exists_decodeNegation_iff ms kind).2 h.negation
  refine ⟨⟨c, b⟩, ?_, (carries_of_decodeClause hc).1⟩
  exact ofMembers_eq_ok.2 ⟨kind, h.names, h.known, decodeNegation_eq_ok.1 hb,
    fun field hf => (h.fields field hf).present, hc⟩

/-- The decoder gives a filter exactly when the object describes it. -/
theorem ofMembers_eq_ok_iff_describes : ofMembers ms = .ok f ↔ ms.Describes f := by
  constructor
  · exact describes_of_ofMembers
  · intro h
    obtain ⟨g, hg, -⟩ := exists_ofMembers h.accepted
    rwa [h.unique (describes_of_ofMembers hg)]

/-- Only objects are decoded. -/
theorem ofJson_eq_ok {v : Json} : ofJson v = .ok f ↔ ∃ ms : Members, v = .obj ms ∧ ms.Describes f := by
  cases v with
  | obj ms => simp [ofJson, ofMembers_eq_ok_iff_describes]
  | _ => simp [ofJson]

/-- The fragment of a filter has one key, below the wrap if it is negated: the name of its kind. -/
theorem fragment_eq (f : Filter) : f.fragment =
    if f.negate then .obj [("not", .obj [(f.kind.name, f.clause.body)])] else .obj [(f.kind.name, f.clause.body)] :=
  rfl

/-- **What is accepted, and what comes out.** A value is decoded exactly when it is an object of the right form; the
filter is the one that the object describes, and its fragment is named by the string that names the kind. -/
theorem ofJson_eq_ok_iff (v : Json) :
    ((∃ f, ofJson v = .ok f) ↔ ∃ (ms : Members) (kind : ClauseKind), v = .obj ms ∧ ms.Accepted kind) ∧
      (∀ f, ofJson v = .ok f ↔ ∃ ms : Members, v = .obj ms ∧ ms.Describes f) ∧
        ∀ f, ofJson v = .ok f → ∃ (ms : Members) (name : String) (body : Json), v = .obj ms ∧
          ms.lookup ms.kindKey = some (.str name) ∧ f.kind.name = name ∧
            f.fragment = if f.negate then .obj [("not", .obj [(name, body)])] else .obj [(name, body)] := by
  refine ⟨?_, fun f => ofJson_eq_ok, fun f hf => ?_⟩
  · constructor
    · rintro ⟨f, hf⟩
      obtain ⟨ms, rfl, h⟩ := ofJson_eq_ok.1 hf
      exact ⟨ms, f.kind, rfl, h.accepted⟩
    · rintro ⟨ms, kind, rfl, h⟩
      obtain ⟨f, hf, -⟩ := exists_ofMembers h
      exact ⟨f, hf⟩
  · obtain ⟨ms, rfl, h⟩ := ofJson_eq_ok.1 hf
    exact ⟨ms, f.kind.name, f.clause.body, rfl, h.accepted.names, rfl, fragment_eq f⟩

end Filter

end QueryDsl
