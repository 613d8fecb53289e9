import Mathlib.Data.List.Forall2
import QueryDsl.Proofs.Checks
import QueryDsl.Request.Decode

/-!
# The parts of a request

`Parts` are what a request is written with, before its filters are decoded; a part that is absent or null is `none`.
They are the same as their JSON, part by part (`Parts.ext_element`).

- One step of reading, `Draft.set`: it succeeds where the value is the JSON of a part (`exists_set`), it changes that
  part alone (`parts_set`, `exists_set_parts`), and its errors call the value invalid (`set_eq_error`).
- A request is decoded from the parts of its draft (`ofDraft_eq`, `ofDraft_eq_error`), its filters one by one
  (`decodeFilters_eq_ok`, `decodeFilters_eq_error`).
-/

namespace QueryDsl

open Checks

/-! ## Words -/

theorem Integer.toWord?_eq_some {n : Integer} {w : UInt64} : n.toWord? = some w ↔ n = .ofWord w := by
  obtain ⟨n, hl, hu⟩ := n
  unfold toWord? ofWord
  constructor
  · intro h
    split at h
    · next hn =>
      obtain rfl := Option.some.inj h
      dsimp only at hn
      simp only [Integer.mk.injEq, UInt64.toNat_ofNat']
      omega
    · cases h
  · intro h
    obtain rfl := (Integer.mk.injEq ..).mp h
    simp

/-- The JSON of a word. -/
def wordJson (w : UInt64) : Json := .num (.int (.ofWord w))

theorem Integer.ofWord_inj {v w : UInt64} (h : ofWord v = ofWord w) : v = w := by
  have hv := (toWord?_eq_some (w := v)).2 rfl
  rw [h, toWord?_eq_some.2 rfl] at hv
  exact (Option.some.inj hv).symm

theorem decodeText_eq_ok {v : Json} {s : String} : decodeText v = .ok s ↔ v = .str s := by
  cases v <;> simp [decodeText]

theorem decodeList_eq_ok {v : Json} {xs : List Json} : decodeList v = .ok xs ↔ v = .arr xs := by
  cases v <;> simp [decodeList]

theorem decodeWord_eq_ok {v : Json} {w : UInt64} : decodeWord v = .ok w ↔ v = wordJson w := by
  cases v with
  | num n =>
    cases n with
    | int n =>
      simp only [decodeWord, wordJson, Json.num.injEq, Number.int.injEq, ← Integer.toWord?_eq_some]
      cases n.toWord? <;> simp
    | float x => simp [decodeWord, wordJson]
  | _ => simp [decodeWord, wordJson]

/-- A value that may be null is the JSON of an option. -/
theorem nullable_eq_ok {α : Type} {read : Json → Except QueryError α} {encode : α → Json}
    (hread : ∀ {v a}, read v = .ok a ↔ v = encode a) (hnull : ∀ a, encode a ≠ .null) {v : Json} {o : Option α} :
    nullable read v = .ok o ↔ v = o.elim .null encode := by
  cases v with
  | null =>
    cases o with
    | none => simp [nullable]
    | some a => simpa [nullable] using (hnull a).symm
  | _ => cases o <;> simp [nullable, map_eq_ok, hread]

theorem nullable_text {v : Json} {o : Option String} : nullable decodeText v = .ok o ↔ v = o.elim .null .str :=
  nullable_eq_ok decodeText_eq_ok (by simp)

theorem nullable_list {v : Json} {o : Option (List Json)} : nullable decodeList v = .ok o ↔ v = o.elim .null .arr :=
  nullable_eq_ok decodeList_eq_ok (by simp)

theorem nullable_word {v : Json} {o : Option UInt64} : nullable decodeWord v = .ok o ↔ v = o.elim .null wordJson :=
  nullable_eq_ok decodeWord_eq_ok (by simp [wordJson])

section Errors

variable {v : Json} {e : QueryError}

/-- The error about a value of the wrong type calls it invalid. -/
def IsInvalid (e : QueryError) : Prop := ∃ rest, e = .invalidRequest ("invalid " ++ rest)

theorem isInvalid_invalidType (v : Json) (expected : String) : IsInvalid (invalidType v expected) :=
  ⟨"type: " ++ describeValue v ++ ", expected " ++ expected, by
    rw [invalidType, ← String.append_assoc, ← String.append_assoc, ← String.append_assoc]; rfl⟩

theorem decodeText_eq_error (h : decodeText v = .error e) : IsInvalid e := by
  cases v <;> cases h <;> exact isInvalid_invalidType _ _

theorem decodeList_eq_error (h : decodeList v = .error e) : IsInvalid e := by
  cases v <;> cases h <;> exact isInvalid_invalidType _ _

theorem decodeWord_eq_error (h : decodeWord v = .error e) : IsInvalid e := by
  unfold decodeWord at h
  split at h
  · next n =>
    split at h <;> cases h
    refine ⟨"value: " ++ describeValue (.num (.int n)) ++ ", expected u64", ?_⟩
    rw [← String.append_assoc, ← String.append_assoc]
    rfl
  · cases h
    exact isInvalid_invalidType _ _

theorem nullable_eq_error {α : Type} {read : Json → Except QueryError α}
    (hread : ∀ {v e}, read v = .error e → IsInvalid e) (h : nullable read v = .error e) : IsInvalid e := by
  unfold nullable at h
  split at h
  · cases h
  · exact hread (map_eq_error.1 h)

end Errors

/-! ## Parts -/

/-- The parts of a request as they are written. A part that is absent or null is `none`. -/
structure Parts where
  text : Option String := none
  filters : Option (List Json) := none
  ids : Option (List Json) := none
  size : Option UInt64 := none
  offset : Option UInt64 := none

namespace Parts

/-- The JSON of a part. -/
def element (p : Parts) : RequestKey → Json
  | .text => p.text.elim .null .str
  | .filters => p.filters.elim .null .arr
  | .ids => p.ids.elim .null .arr
  | .size => p.size.elim .null wordJson
  | .offset => p.offset.elim .null wordJson

/-- Every identifier is a string or a number. -/
def IdsFit (p : Parts) : Prop := ∀ id ∈ p.ids.getD [], isIdentifier id = true

/-- The request with the parts and the given filters. -/
def request (p : Parts) (filters : List Filter) : Request :=
  ⟨p.text.getD "", filters, p.ids.getD [], p.size, p.offset⟩

theorem elim_null_inj {α : Type} {encode : α → Json} (hinj : ∀ {a b}, encode a = encode b → a = b)
    (hnull : ∀ a, encode a ≠ .null) {x y : Option α} (h : x.elim .null encode = y.elim .null encode) : x = y := by
  cases x with
  | none =>
    cases y with
    | none => rfl
    | some b => exact absurd h.symm (hnull b)
  | some a =>
    cases y with
    | none => exact absurd h (hnull a)
    | some b => rw [hinj h]

theorem eq_none_of_elim_arr {o : Option (List Json)} (h : o.elim .null .arr = Json.null) : o = none := by
  cases o with
  | none => rfl
  | some xs => cases h

theorem wordJson_inj {v w : UInt64} (h : wordJson v = wordJson w) : v = w :=
  Integer.ofWord_inj (Number.int.inj (Json.num.inj h))

/-- Parts with the same JSON are the same. -/
theorem ext_element {p q : Parts} (h : ∀ key, p.element key = q.element key) : p = q := by
  have htext := elim_null_inj Json.str.inj (by simp) (h .text)
  have hfilters := elim_null_inj Json.arr.inj (by simp) (h .filters)
  have hids := elim_null_inj Json.arr.inj (by simp) (h .ids)
  have hsize := elim_null_inj wordJson_inj (by simp [wordJson]) (h .size)
  have hoffset := elim_null_inj wordJson_inj (by simp [wordJson]) (h .offset)
  cases p
  cases q
  simp_all

/-- The parts with one of them taken from others. -/
def withPart (p q : Parts) : RequestKey → Parts
  | .text => { p with text := q.text }
  | .filters => { p with filters := q.filters }
  | .ids => { p with ids := q.ids }
  | .size => { p with size := q.size }
  | .offset => { p with offset := q.offset }

theorem element_withPart (p q : Parts) (key k : RequestKey) :
    (p.withPart q key).element k = if k = key then q.element k else p.element k := by
  cases key <;> cases k <;> rfl

end Parts

/-! ## Drafts -/

namespace Draft

/-- The parts that a draft has met. -/
def parts (d : Draft) : Parts := ⟨d.text.join, d.filters.join, d.ids.join, d.size.join, d.offset.join⟩

/-- What a step reads is the JSON of its part, and the other parts stay. -/
theorem parts_set {d d' : Draft} {key : RequestKey} {v : Json} (h : d.set key v = .ok d') :
    d'.parts.element key = v ∧ ∀ k, k ≠ key → d'.parts.element k = d.parts.element k := by
  cases key <;> rw [set, map_eq_ok] at h <;> obtain ⟨x, hx, rfl⟩ := h <;>
    refine ⟨?_, fun k hk => by cases k <;> first | rfl | exact absurd rfl hk⟩
  case text => exact (nullable_text.1 hx).symm
  case filters => exact (nullable_list.1 hx).symm
  case ids => exact (nullable_list.1 hx).symm
  case size => exact (nullable_word.1 hx).symm
  case offset => exact (nullable_word.1 hx).symm

/-- The JSON of a part is read. -/
theorem exists_set (d : Draft) (p : Parts) (key : RequestKey) : ∃ d', d.set key (p.element key) = .ok d' := by
  cases key with
  | text => exact ⟨_, map_eq_ok.2 ⟨p.text, nullable_text.2 rfl, rfl⟩⟩
  | filters => exact ⟨_, map_eq_ok.2 ⟨p.filters, nullable_list.2 rfl, rfl⟩⟩
  | ids => exact ⟨_, map_eq_ok.2 ⟨p.ids, nullable_list.2 rfl, rfl⟩⟩
  | size => exact ⟨_, map_eq_ok.2 ⟨p.size, nullable_word.2 rfl, rfl⟩⟩
  | offset => exact ⟨_, map_eq_ok.2 ⟨p.offset, nullable_word.2 rfl, rfl⟩⟩

/-- The JSON of a part is read, and the part is then that of the JSON. -/
theorem exists_set_parts (d : Draft) (p : Parts) (key : RequestKey) :
    ∃ d', d.set key (p.element key) = .ok d' ∧ d'.parts = d.parts.withPart p key := by
  obtain ⟨d', hset⟩ := exists_set d p key
  obtain ⟨hkey, hrest⟩ := parts_set hset
  refine ⟨d', hset, Parts.ext_element fun k => ?_⟩
  rw [Parts.element_withPart]
  split
  · next hk => rw [hk, hkey]
  · next hk => exact hrest k hk

/-- A step that fails calls its value invalid. -/
theorem set_eq_error {d : Draft} {key : RequestKey} {v : Json} {e : QueryError} (h : d.set key v = .error e) :
    IsInvalid e := by
  cases key <;> rw [set, map_eq_error] at h
  case text => exact nullable_eq_error decodeText_eq_error h
  case filters => exact nullable_eq_error decodeList_eq_error h
  case ids => exact nullable_eq_error decodeList_eq_error h
  case size => exact nullable_eq_error decodeWord_eq_error h
  case offset => exact nullable_eq_error decodeWord_eq_error h

theorem addMembers_eq_error {e : QueryError} : ∀ {ms : Members} {d : Draft}, d.addMembers ms = .error e →
    ∃ reason, e = .invalidRequest reason
  | [], d, h => by cases h
  | (key, v) :: ms, d, h => by
    unfold addMembers at h
    split at h
    · cases h
      exact ⟨_, rfl⟩
    · split at h
      · cases h
        exact ⟨_, rfl⟩
      · split at h
        · next hset =>
          cases h
          obtain ⟨rest, rfl⟩ := set_eq_error hset
          exact ⟨_, rfl⟩
        · exact addMembers_eq_error h

theorem addElements_eq_error {e : QueryError} : ∀ {keys : List RequestKey} {xs : List Json} {d : Draft},
    d.addElements keys xs = .error e → ∃ reason, e = .invalidRequest reason
  | [], xs, d, h => by cases h
  | key :: keys, [], d, h => by cases h
  | key :: keys, x :: xs, d, h => by
    unfold addElements at h
    split at h
    · next hset =>
      cases h
      obtain ⟨rest, rfl⟩ := set_eq_error hset
      exact ⟨_, rfl⟩
    · exact addElements_eq_error h

/-- Whatever makes no draft is refused as a request. -/
theorem ofJson_eq_error {v : Json} {e : QueryError} (h : Draft.ofJson v = .error e) :
    ∃ reason, e = .invalidRequest reason := by
  unfold Draft.ofJson at h
  split at h
  · exact addMembers_eq_error h
  · split at h
    · next hadd =>
      cases h
      exact addElements_eq_error hadd
    · split at h <;> cases h
      exact ⟨_, rfl⟩
  · cases h
    exact ⟨_, rfl⟩

end Draft

/-! ## Requests -/

theorem checkIds_eq_forM (ids : List Json) : checkIds ids = forM ids
    (passes isIdentifier fun id => .invalidRequest ("ids must be strings or numbers, found " ++ id.compact)) := by
  rw [← elim_find?_eq_forM, checkIds]
  cases ids.find? _ <;> rfl

theorem checkIds_eq_ok {ids : List Json} {u : Unit} :
    checkIds ids = .ok u ↔ ∀ id ∈ ids, isIdentifier id = true := by
  rw [checkIds_eq_forM]
  exact forM_eq_ok fun id _ => passes_eq_ok

/-- The first value that is no identifier decides the error. -/
theorem checkIds_eq_error {ids : List Json} {e : QueryError} : checkIds ids = .error e ↔
    ∃ before id after, ids = before ++ id :: after ∧ (∀ i ∈ before, isIdentifier i = true) ∧
      ¬ isIdentifier id = true ∧ e = .invalidRequest ("ids must be strings or numbers, found " ++ id.compact) := by
  rw [checkIds_eq_forM]
  exact forM_eq_error (fun id _ => passes_eq_ok) fun id _ => passes_eq_error

/-- The values of a list are decoded one by one. -/
theorem decodeFilters_eq_ok {vs : List Json} {fs : List Filter} :
    decodeFilters vs = .ok fs ↔ List.Forall₂ (fun v f => Filter.ofJson v = .ok f) vs fs := by
  induction vs generalizing fs with
  | nil => simp [decodeFilters, eq_comm]
  | cons v vs ih =>
    rw [decodeFilters, List.forall₂_cons_left_iff]
    cases Filter.ofJson v with
    | error e => simp
    | ok f =>
      simp only [map_eq_ok, ih, Except.ok.injEq]
      constructor
      · rintro ⟨fs, hfs, rfl⟩
        exact ⟨f, fs, rfl, hfs, rfl⟩
      · rintro ⟨g, fs, rfl, hfs, rfl⟩
        exact ⟨fs, hfs, rfl⟩

theorem map_decodeFilters (vs : List Json) :
    (decodeFilters vs).map (fun _ => ()) = forM vs fun v => (Filter.ofJson v).map fun _ => () := by
  induction vs with
  | nil => rfl
  | cons v vs ih =>
    rw [decodeFilters, List.forM_cons, ← ih]
    cases Filter.ofJson v with
    | error e => rfl
    | ok f => cases decodeFilters vs <;> rfl

/-- The first value that is no filter decides the error. -/
theorem decodeFilters_eq_error {vs : List Json} {e : QueryError} : decodeFilters vs = .error e ↔
    ∃ before v after, vs = before ++ v :: after ∧ (∀ w ∈ before, ∃ f, Filter.ofJson w = .ok f) ∧
      Filter.ofJson v = .error e := by
  have h : (decodeFilters vs).map (fun _ => ()) = .error e ↔ decodeFilters vs = .error e := map_eq_error
  rw [← h, map_decodeFilters]
  exact forM_eq_error (fun v _ => by simp [map_eq_ok]) fun v _ => map_eq_error

namespace Request

variable {d : Draft}

/-- Where the identifiers fit, the filters decide. -/
theorem ofDraft_eq (h : d.parts.IdsFit) :
    ofDraft d = (decodeFilters (d.parts.filters.getD [])).map d.parts.request := by
  have hids : checkIds (d.ids.join.getD []) = .ok () := checkIds_eq_ok.2 h
  simp only [ofDraft, hids]
  rfl

/-- Where an identifier does not fit, the request is refused. -/
theorem ofDraft_eq_error (h : ¬ d.parts.IdsFit) : ∃ reason, ofDraft d = .error (.invalidRequest reason) := by
  cases hids : checkIds (d.ids.join.getD []) with
  | ok _ => exact absurd (checkIds_eq_ok.1 hids) h
  | error e =>
    obtain ⟨before, id, after, -, -, -, rfl⟩ := checkIds_eq_error.1 hids
    exact ⟨_, bind_eq_error.2 (Or.inl hids)⟩

variable {text : String}

theorem parse_eq_ok {r : Request} : parse text = .ok r ↔ ∃ v, Json.parse text = .ok v ∧ ofJson v = .ok r := by
  unfold parse
  cases Json.parse text <;> simp

/-- A text that is no request is not JSON, for the reason that is given, or it is JSON that is no request. -/
theorem parse_eq_error {e : QueryError} : parse text = .error e ↔
    (∃ s, Json.parse text = .error s ∧ e = .invalidRequest s.message) ∨
      ∃ v, Json.parse text = .ok v ∧ ofJson v = .error e := by
  unfold parse
  cases Json.parse text <;> simp [eq_comm]

end Request

end QueryDsl
