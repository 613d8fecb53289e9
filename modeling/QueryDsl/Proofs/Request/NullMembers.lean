import QueryDsl.Proofs.Clause.Precedence
import QueryDsl.Proofs.Request.ObjectForm

/-!
# Members that are null

A part that is null is `none`, as if it were absent. Its member still counts as met, so the two names of the free text
cannot stand together, not even where one of them is null (`Members.TextTwice`).

- Two runs from drafts that differ in whether a part is met (`addMembers_sameBut`): they go on alike over members that
  do not name the part.
- `ofJson_eq_duplicateText`: the free text is refused as a duplicate exactly when it is named twice in this sense.
- `ofJson_null_member`: without a null member the outcome is the same, unless the free text is named twice.
-/

namespace QueryDsl

open Checks

namespace Draft

variable {d d' : Draft} {ms : Members}

/-! ## Drafts that differ in one met part -/

/-- The drafts have the same parts, and have met the same ones except for `key`. -/
structure SameBut (key : RequestKey) (d d' : Draft) : Prop where
  parts : d.parts = d'.parts
  has : ∀ k, k ≠ key → d.has k = d'.has k

/-- A null fills a part that is not met with nothing. -/
theorem sameBut_of_set_null {key : RequestKey} (hmet : d.has key = false) (h : d.set key .null = .ok d') :
    SameBut key d' d := by
  obtain ⟨hnull, hrest⟩ := parts_set h
  constructor
  · refine Parts.ext_element fun k => ?_
    by_cases hk : k = key
    · rw [hk, hnull, element_eq_null hmet]
    · exact hrest k hk
  · intro k hk
    rw [has_set h]
    simp [hk]

/-- A null for a part that is not met makes the part met, and nothing else. -/
theorem add_null {key : RequestKey} {name : String} (hkey : RequestKey.ofKey? name = some key)
    (hmet : d.has key = false) : ∃ d', d.add (name, .null) = .ok d' ∧ SameBut key d' d := by
  have hnull : Parts.element {} key = .null := by cases key <;> rfl
  obtain ⟨d', hset⟩ := hnull ▸ exists_set d {} key
  exact ⟨d', add_eq_ok.2 ⟨key, hkey, hmet, hset⟩, sameBut_of_set_null hmet hset⟩

/-- A part reads the value alone. -/
theorem set_sameBut {key k : RequestKey} (h : SameBut key d d') (v : Json) :
    (∃ e, d.set k v = .error e ∧ d'.set k v = .error e) ∨
      ∃ a a', d.set k v = .ok a ∧ d'.set k v = .ok a' ∧ SameBut key a a' := by
  have hread : (∃ e, d.set k v = .error e ∧ d'.set k v = .error e) ∨
      ∃ a a', d.set k v = .ok a ∧ d'.set k v = .ok a' := by
    cases k <;> simp only [set, map_eq_error, map_eq_ok]
    case text => cases nullable decodeText v <;> simp
    case filters => cases nullable decodeList v <;> simp
    case ids => cases nullable decodeList v <;> simp
    case size => cases nullable decodeWord v <;> simp
    case offset => cases nullable decodeWord v <;> simp
  refine hread.imp_right ?_
  rintro ⟨a, a', ha, ha'⟩
  refine ⟨a, a', ha, ha', Parts.ext_element fun i => ?_, fun i hi => ?_⟩
  · by_cases hik : i = k
    · rw [hik, (parts_set ha).1, (parts_set ha').1]
    · rw [(parts_set ha).2 i hik, (parts_set ha').2 i hik, h.parts]
  · rw [has_set ha, has_set ha', h.has i hi]

/-- Two steps are alike if the member does not name the part in which the drafts differ. -/
theorem add_sameBut {key : RequestKey} {m : String × Json} (h : SameBut key d d')
    (hm : RequestKey.ofKey? m.1 ≠ some key) :
    (∃ e, d.add m = .error e ∧ d'.add m = .error e) ∨
      ∃ a a', d.add m = .ok a ∧ d'.add m = .ok a' ∧ SameBut key a a' := by
  cases hkey : RequestKey.ofKey? m.1 with
  | none => exact Or.inl ⟨_, add_unknown hkey, add_unknown hkey⟩
  | some k =>
    have hhas := h.has k fun he => hm (he ▸ hkey)
    cases hmet : d.has k with
    | true => exact Or.inl ⟨_, add_duplicate hkey hmet, add_duplicate hkey (hhas ▸ hmet)⟩
    | false =>
      rw [add_set hkey hmet, add_set hkey (hhas ▸ hmet)]
      exact set_sameBut h m.2

/-- Two runs go on alike while the part in which they differ is not named. -/
theorem addMembers_sameBut {key : RequestKey} (h : SameBut key d d')
    (hms : ∀ m ∈ ms, RequestKey.ofKey? m.1 ≠ some key) :
    (∃ e, d.addMembers ms = .error e ∧ d'.addMembers ms = .error e) ∨
      ∃ a a', d.addMembers ms = .ok a ∧ d'.addMembers ms = .ok a' ∧ SameBut key a a' := by
  induction ms generalizing d d' with
  | nil => exact Or.inr ⟨d, d', rfl, rfl, h⟩
  | cons m ms ih =>
    obtain ⟨hm, hms⟩ := List.forall_mem_cons.1 hms
    rw [addMembers_cons, addMembers_cons]
    rcases add_sameBut h hm with ⟨e, he, he'⟩ | ⟨a, a', ha, ha', hsame⟩
    · rw [he, he']
      exact Or.inl ⟨e, rfl, rfl⟩
    · rw [ha, ha']
      exact ih hsame hms

end Draft

/-! ## The free text named twice -/

/-- The refusal of an object that names the free text twice. -/
def duplicateText : QueryError := .invalidRequest "duplicate field `q`"

/-- A key is a name of the free text. -/
def NamesText (name : String) : Prop := name ∈ RequestKey.text.names

/-- Two names of one part are those of the free text. -/
theorem namesText_of_ne {name other : String} {key : RequestKey} (h : RequestKey.ofKey? name = some key)
    (h' : RequestKey.ofKey? other = some key) (hne : name ≠ other) : NamesText name ∧ NamesText other := by
  rcases RequestKey.eq_of_mem_names (RequestKey.ofKey?_eq_some.1 h) (RequestKey.ofKey?_eq_some.1 h') with
    he | ⟨rfl, rfl⟩ | ⟨rfl, rfl⟩
  · exact absurd he hne
  · simp [NamesText, RequestKey.names]
  · simp [NamesText, RequestKey.names]

/-- The free text is named twice, and the members before the second name can be read. -/
def Members.TextTwice (ms : Members) : Prop :=
  ∃ (front : Members) (m : String × Json) (rest : Members), ms = front ++ m :: rest ∧ NamesText m.1 ∧
    (∃ n ∈ front, NamesText n.1) ∧ ∃ d, Draft.ofJson (.obj front) = .ok d

theorem not_isInvalid_duplicateText : ¬ IsInvalid duplicateText := by
  rintro ⟨rest, h⟩
  have := congrArg String.toList (QueryError.invalidRequest.inj h)
  simp at this

theorem unknownKey_ne_duplicateText (name : String) : Draft.unknownKey name ≠ duplicateText := by
  intro h
  have := congrArg String.toList (QueryError.invalidRequest.inj h)
  simp at this

/-- No clause is refused as a duplicate. -/
theorem Filter.ofJson_ne_duplicateText (v : Json) : Filter.ofJson v ≠ .error duplicateText := by
  intro h
  cases v with
  | obj ms =>
    rcases (ofMembers_eq_error_iff_firstFault.1 h) with _ | _ | _ | _ | _ | _ | ⟨-, -, -, -, -, -, -, hv⟩
    rcases hv with _ | hp
    cases hp
  | _ =>
    have := congrArg String.toList (QueryError.invalidRequest.inj (Except.error.inj h))
    simp at this

/-- Once the parts are read, nothing is a duplicate. -/
theorem Request.ofParts_ne_duplicateText (p : Parts) : ofParts p ≠ .error duplicateText := by
  intro h
  rcases bind_eq_error.1 h with h | ⟨-, -, h⟩
  · obtain ⟨-, id, -, -, -, -, h⟩ := checkIds_eq_error.1 h
    have := congrArg String.toList (QueryError.invalidRequest.inj h)
    simp at this
  · obtain ⟨-, v, -, -, -, hv⟩ := decodeFilters_eq_error.1 (map_eq_error.1 h)
    exact Filter.ofJson_ne_duplicateText v hv

namespace Draft

variable {d : Draft} {ms : Members}

/-- A step refuses the free text as a duplicate where it is met. -/
theorem add_eq_duplicateText {m : String × Json} :
    d.add m = .error duplicateText ↔ NamesText m.1 ∧ d.has .text = true := by
  constructor
  · intro h
    cases hkey : RequestKey.ofKey? m.1 with
    | none =>
      rw [add_unknown hkey] at h
      exact absurd (Except.error.inj h) (unknownKey_ne_duplicateText m.1)
    | some key =>
      cases hmet : d.has key with
      | true =>
        rw [add_duplicate hkey hmet] at h
        have hname := QueryError.invalidRequest.inj (Except.error.inj h)
        obtain rfl : key = .text := by cases key <;> first | rfl | exact absurd hname (by decide)
        exact ⟨RequestKey.ofKey?_eq_some.1 hkey, hmet⟩
      | false =>
        rw [add_set hkey hmet] at h
        exact absurd (set_eq_error h) not_isInvalid_duplicateText
  · rintro ⟨hname, hmet⟩
    exact add_duplicate (RequestKey.ofKey?_eq_some.2 hname) hmet

/-- A run ends with a duplicate of the free text at a member that names it again. -/
theorem addMembers_eq_duplicateText (h : d.addMembers ms = .error duplicateText) :
    ∃ front m rest d', ms = front ++ m :: rest ∧ NamesText m.1 ∧ d.addMembers front = .ok d' ∧
      d'.has .text = true := by
  induction ms generalizing d with
  | nil => cases h
  | cons m ms ih =>
    rw [addMembers_cons] at h
    rcases bind_eq_error.1 h with hadd | ⟨d₁, hadd, h⟩
    · obtain ⟨hname, hmet⟩ := add_eq_duplicateText.1 hadd
      exact ⟨[], m, ms, d, rfl, hname, rfl, hmet⟩
    · obtain ⟨front, n, rest, d', rfl, hn, hfront, htext⟩ := ih h
      exact ⟨m :: front, n, rest, d', rfl, hn, by rw [addMembers_cons, hadd]; exact hfront, htext⟩

end Draft

namespace Request

variable {ms : Members}

/-- The free text is refused as a duplicate exactly when it is named twice. -/
theorem ofJson_eq_duplicateText : ofJson (.obj ms) = .error duplicateText ↔ ms.TextTwice := by
  rw [ofJson_obj_eq_bind]
  have hmeets {front : Members} {d : Draft} (hd : Draft.addMembers {} front = .ok d) :
      d.has .text = true ↔ ∃ n ∈ front, NamesText n.1 := by
    simpa only [NamesText, ← RequestKey.ofKey?_eq_some, Draft.has, Option.isSome_none, Bool.false_eq_true,
      false_or] using Draft.has_addMembers hd .text
  constructor
  · intro h
    rcases bind_eq_error.1 h with h | ⟨d, -, h⟩
    · obtain ⟨front, m, rest, d, rfl, hm, hd, htext⟩ := Draft.addMembers_eq_duplicateText h
      exact ⟨front, m, rest, rfl, hm, (hmeets hd).1 htext, d, hd⟩
    · exact absurd h (ofParts_ne_duplicateText _)
  · rintro ⟨front, m, rest, rfl, hm, hn, d, hd⟩
    have hd : Draft.addMembers {} front = .ok d := hd
    rw [Draft.addMembers_append, hd]
    refine bind_eq_error.2 (Or.inl ?_)
    show d.addMembers (m :: rest) = _
    rw [Draft.addMembers_cons, Draft.add_eq_duplicateText.2 ⟨hm, (hmeets hd).2 hn⟩]
    rfl

section Null

variable {before after : Members} {name : String}

/-- A null does not change what the members behind it do, unless one of them names the same part. -/
theorem addMembers_null (hname : name ∈ requestNames)
    (hkeys : ((before ++ (name, Json.null) :: after).map Prod.fst).Nodup)
    (h : ¬ (NamesText name ∧ Members.TextTwice (before ++ (name, .null) :: after))) :
    ofJson (.obj (before ++ (name, .null) :: after)) = ofJson (.obj (before ++ after)) := by
  obtain ⟨key, hkey⟩ := mem_requestNames.1 hname
  -- another member that names the part goes by the other name of the free text
  have hother {m : String × Json} (hm : m ∈ before ++ after) (hmkey : RequestKey.ofKey? m.1 = some key) :
      NamesText name ∧ NamesText m.1 := by
    rw [List.map_append, List.map_cons, List.nodup_middle, List.nodup_cons, ← List.map_append] at hkeys
    exact namesText_of_ne hkey hmkey fun he => hkeys.1 (List.mem_map.2 ⟨m, hm, he.symm⟩)
  rw [ofJson_obj_eq_bind, ofJson_obj_eq_bind, Draft.addMembers_append, Draft.addMembers_append]
  cases hbefore : Draft.addMembers {} before with
  | error e => rfl
  | ok d =>
    show (d.addMembers ((name, .null) :: after) >>= _) = (d.addMembers after >>= _)
    cases hmet : d.has key with
    | true =>
      have hempty : ¬ Draft.has {} key = true := by cases key <;> simp [Draft.has]
      obtain ⟨m, hm, hmkey⟩ := ((Draft.has_addMembers hbefore key).1 hmet).resolve_left hempty
      obtain ⟨htext, hmtext⟩ := hother (List.mem_append_left _ hm) hmkey
      exact absurd ⟨htext, before, (name, .null), after, rfl, htext, ⟨m, hm, hmtext⟩, d, hbefore⟩ h
    | false =>
      obtain ⟨d₁, hadd, hsame⟩ := Draft.add_null hkey hmet
      rw [Draft.addMembers_cons, hadd]
      show (d₁.addMembers after >>= _) = _
      cases hfind : after.find? fun m => RequestKey.ofKey? m.1 = some key with
      | none =>
        rcases Draft.addMembers_sameBut hsame (by simpa using List.find?_eq_none.1 hfind) with
          ⟨e, he, he'⟩ | ⟨a, a', ha, ha', hparts⟩
        · rw [he, he']
        · rw [ha, ha']
          exact congrArg ofParts hparts.parts
      | some m =>
        obtain ⟨hm, front, rest, rfl, hfront⟩ := List.find?_eq_some_iff_append.1 hfind
        rw [Draft.addMembers_append, Draft.addMembers_append]
        rcases Draft.addMembers_sameBut hsame (by simpa using hfront) with ⟨e, he, he'⟩ | ⟨a, a', ha, ha', -⟩
        · rw [he, he']
        · obtain ⟨htext, hmtext⟩ := hother (m := m) (by simp) (by simpa using hm)
          refine absurd ⟨htext, before ++ (name, .null) :: front, m, rest, by simp, hmtext, ?_, a, ?_⟩ h
          · exact ⟨(name, .null), by simp, htext⟩
          · show Draft.addMembers {} (before ++ (name, .null) :: front) = _
            rw [Draft.addMembers_append, hbefore]
            show d.addMembers _ = _
            rw [Draft.addMembers_cons, hadd]
            exact ha

/-- Without one of its two names, the free text is not named twice. -/
theorem not_textTwice (htext : NamesText name)
    (hkeys : ((before ++ (name, Json.null) :: after).map Prod.fst).Nodup) :
    ¬ Members.TextTwice (before ++ after) := by
  rintro ⟨front, m, rest, hsplit, hm, ⟨n, hn, hntext⟩, -⟩
  rw [List.map_append, List.map_cons, List.nodup_middle, ← List.map_append, hsplit, List.nodup_cons, List.map_append,
    List.map_cons, List.nodup_append] at hkeys
  obtain ⟨hname, -, -, hne⟩ := hkeys
  have hnm : n.1 ≠ m.1 := hne n.1 (List.mem_map_of_mem hn) m.1 List.mem_cons_self
  have hname_n : name ≠ n.1 := fun he => hname (he ▸ by simp [List.mem_map_of_mem hn])
  have hname_m : name ≠ m.1 := fun he => hname (by simp [he])
  simp only [NamesText, RequestKey.names, List.mem_cons, List.not_mem_nil, or_false] at htext hm hntext
  grind

/-- **Null means absent, up to the two names of the free text.** Taking a null member away changes nothing, unless it
is a name of the free text, which the object names twice; then the object is refused as one with a duplicate. -/
theorem ofJson_null_member (before after : Members) (name : String) (hname : name ∈ requestNames)
    (hkeys : ((before ++ (name, Json.null) :: after).map Prod.fst).Nodup) :
    (ofJson (.obj (before ++ (name, .null) :: after)) = ofJson (.obj (before ++ after)) ↔
      ¬ (NamesText name ∧ Members.TextTwice (before ++ (name, .null) :: after))) ∧
    (Members.TextTwice (before ++ (name, .null) :: after) →
      ofJson (.obj (before ++ (name, .null) :: after)) = .error (.invalidRequest "duplicate field `q`")) := by
  refine ⟨⟨?_, addMembers_null hname hkeys⟩, ofJson_eq_duplicateText.2⟩
  rintro heq ⟨htext, htwice⟩
  rw [ofJson_eq_duplicateText.2 htwice] at heq
  exact not_textTwice htext hkeys (ofJson_eq_duplicateText.1 heq.symm)

/-- A null text in front of a bad size: the other name of the text is not reached, and the null does not matter. -/
theorem ofJson_null_member_before_fault :
    let after : Members := [("size", .bool true), ("freeText", .str "abc")]
    ofJson (.obj (("q", .null) :: after)) = ofJson (.obj after) := by
  intro after
  refine (ofJson_null_member [] after "q" (by decide) (by simp [after])).1.2 fun h => ?_
  have hduplicate := ofJson_eq_duplicateText.2 h.2
  have hfault : ofJson (.obj (("q", .null) :: after)) =
      .error (.invalidRequest "invalid type: boolean `true`, expected u64") := rfl
  simp only [List.nil_append, hfault, duplicateText, Except.error.injEq, QueryError.invalidRequest.injEq] at hduplicate
  exact absurd hduplicate (by decide)

/-- A null text beside a text under the other name is refused; without the null, the text is taken. -/
theorem ofJson_null_text_beside_text :
    ofJson (.obj [("q", .null), ("freeText", .str "abc")]) = .error (.invalidRequest "duplicate field `q`") ∧
      ofJson (.obj [("freeText", .str "abc")]) = .ok { text := "abc" } := ⟨rfl, rfl⟩

end Null

end Request

end QueryDsl
