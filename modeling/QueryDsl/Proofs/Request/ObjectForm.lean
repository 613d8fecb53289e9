import Mathlib.Data.List.Nodup
import QueryDsl.Proofs.Json.Lookup
import QueryDsl.Proofs.Request.Parts

/-!
# Requests that are objects

An object holds the parts of a request under their names (`Parts.ObjectForm`): every key is a name, the free text has
one name only, and a part that is absent or null is `none`.

- A run over the members of an object (`addMembers_eq_ok`): it fills the parts that its members name, once each, and
  leaves the others.
- `ofJson_obj_eq`: which objects are requests and what they ask for; which error refuses the others.
-/

namespace QueryDsl

open Checks

/-! ## Names of parts -/

/-- The names of a part in an object, the preferred one first. -/
def RequestKey.names : RequestKey → List String
  | .text => ["q", "freeText"]
  | .filters => ["filters"]
  | .ids => ["ids"]
  | .size => ["size"]
  | .offset => ["from"]

/-- Every name of a part. -/
def requestNames : List String := ["q", "freeText", "filters", "ids", "size", "from"]

theorem RequestKey.ofKey?_eq_some {name : String} {key : RequestKey} : ofKey? name = some key ↔ name ∈ key.names := by
  unfold ofKey?
  split
  · next h => cases key <;> simp [h, names]
  · next h =>
    rw [show (all.find? fun k => k.name == name) = some key ↔ key.name = name from ?_]
    · cases key <;> simp [names, RequestKey.name, h, eq_comm]
    · constructor
      · intro hk
        simpa using List.find?_some hk
      · rintro rfl
        cases key <;> decide

theorem mem_requestNames {name : String} : name ∈ requestNames ↔ ∃ key, RequestKey.ofKey? name = some key := by
  simp only [RequestKey.ofKey?_eq_some]
  constructor
  · intro h
    simp only [requestNames, List.mem_cons, List.not_mem_nil, or_false] at h
    rcases h with rfl | rfl | rfl | rfl | rfl | rfl
    exacts [⟨.text, by decide⟩, ⟨.text, by decide⟩, ⟨.filters, by decide⟩, ⟨.ids, by decide⟩, ⟨.size, by decide⟩,
      ⟨.offset, by decide⟩]
  · rintro ⟨key, h⟩
    cases key <;> simp_all [RequestKey.names, requestNames]
    rcases h with rfl | rfl <;> simp

theorem RequestKey.names_of_ne_text {key : RequestKey} (hkey : key ≠ .text) : key.names = [key.name] := by
  cases key <;> first | rfl | exact absurd rfl hkey

/-- Two names of one part are the same, unless they are the two of the free text. -/
theorem RequestKey.eq_of_mem_names {name other : String} {key : RequestKey} (h : name ∈ key.names)
    (h' : other ∈ key.names) : name = other ∨ name = "q" ∧ other = "freeText" ∨ name = "freeText" ∧ other = "q" := by
  cases key <;> simp only [names, List.mem_cons, List.not_mem_nil, or_false] at h h'
  case text => rcases h with rfl | rfl <;> rcases h' with rfl | rfl <;> simp
  all_goals exact Or.inl (h.trans h'.symm)

/-! ## Members of an object -/

namespace Members

/-- The value of a part in an object: the one under its first name that is there, else null. -/
def part (ms : Members) (key : RequestKey) : Json := ((firstPresent? ms key.names).map Prod.snd).getD .null

/-- A part, the free text apart, is what stands under its one name. -/
theorem part_eq_lookup {ms : Members} {key : RequestKey} (hkey : key ≠ .text) :
    ms.part key = (ms.lookup key.name).getD .null := by
  rw [part, RequestKey.names_of_ne_text hkey, firstPresent?]
  cases ms.lookup key.name <;> rfl

end Members

/-! ## Drafts of objects -/

namespace Draft

variable {d d' : Draft} {ms : Members} {p : Parts}

/-- What one member does to a draft. -/
def add (d : Draft) (m : String × Json) : Except QueryError Draft :=
  match RequestKey.ofKey? m.1 with
  | none => .error (unknownKey m.1)
  | some key =>
    if d.has key then .error (.invalidRequest ("duplicate field `" ++ key.name ++ "`")) else d.set key m.2

section Steps

variable {m : String × Json} {key : RequestKey}

theorem add_unknown (hkey : RequestKey.ofKey? m.1 = none) : d.add m = .error (unknownKey m.1) := by
  simp only [add, hkey]

theorem add_duplicate (hkey : RequestKey.ofKey? m.1 = some key) (hmet : d.has key = true) :
    d.add m = .error (.invalidRequest ("duplicate field `" ++ key.name ++ "`")) := by
  simp only [add, hkey, hmet, if_true]

theorem add_set (hkey : RequestKey.ofKey? m.1 = some key) (hmet : d.has key = false) : d.add m = d.set key m.2 := by
  simp only [add, hkey, hmet, Bool.false_eq_true, if_false]

theorem addMembers_cons (d : Draft) (m : String × Json) (ms : Members) :
    d.addMembers (m :: ms) = d.add m >>= fun d => d.addMembers ms := by
  cases hkey : RequestKey.ofKey? m.1 with
  | none =>
    rw [add_unknown hkey]
    simp only [addMembers, hkey]
    rfl
  | some key =>
    cases hmet : d.has key with
    | true =>
      rw [add_duplicate hkey hmet]
      simp only [addMembers, hkey, hmet, if_true]
      rfl
    | false =>
      rw [add_set hkey hmet]
      simp only [addMembers, hkey, hmet, Bool.false_eq_true, if_false]
      cases d.set key m.2 <;> rfl

/-- A step sets a part that is not met yet. -/
theorem add_eq_ok : d.add m = .ok d' ↔
    ∃ key, RequestKey.ofKey? m.1 = some key ∧ d.has key = false ∧ d.set key m.2 = .ok d' := by
  constructor
  · intro h
    cases hkey : RequestKey.ofKey? m.1 with
    | none =>
      rw [add_unknown hkey] at h
      cases h
    | some key =>
      cases hmet : d.has key with
      | true =>
        rw [add_duplicate hkey hmet] at h
        cases h
      | false => exact ⟨key, rfl, hmet, add_set hkey hmet ▸ h⟩
  · rintro ⟨key, hkey, hmet, hset⟩
    rw [add_set hkey hmet, hset]

end Steps

/-- A step meets its part and no other. -/
theorem has_set {key : RequestKey} {v : Json} (h : d.set key v = .ok d') (k : RequestKey) :
    d'.has k = (decide (k = key) || d.has k) := by
  cases key <;> rw [set, map_eq_ok] at h <;> obtain ⟨x, -, rfl⟩ := h <;> cases k <;> rfl

theorem addMembers_append (d : Draft) (xs ys : Members) :
    d.addMembers (xs ++ ys) = d.addMembers xs >>= fun d => d.addMembers ys := by
  induction xs generalizing d with
  | nil => rfl
  | cons m xs ih =>
    rw [List.cons_append, addMembers_cons, addMembers_cons]
    cases d.add m with
    | error e => rfl
    | ok d' => exact ih d'

/-- A run meets the parts that are named. -/
theorem has_addMembers (h : d.addMembers ms = .ok d') (key : RequestKey) :
    d'.has key = true ↔ d.has key = true ∨ ∃ m ∈ ms, RequestKey.ofKey? m.1 = some key := by
  induction ms generalizing d with
  | nil =>
    cases h
    simp
  | cons m ms ih =>
    rw [addMembers_cons, bind_eq_ok] at h
    obtain ⟨d₁, hadd, h⟩ := h
    obtain ⟨part, hkey, -, hset⟩ := add_eq_ok.1 hadd
    have hnamed : (∃ n ∈ m :: ms, RequestKey.ofKey? n.1 = some key) ↔
        key = part ∨ ∃ n ∈ ms, RequestKey.ofKey? n.1 = some key := by
      simp only [List.mem_cons, exists_eq_or_imp, hkey, Option.some.injEq, @eq_comm _ part]
    rw [ih h, has_set hset, hnamed, Bool.or_eq_true, decide_eq_true_eq, or_assoc, or_left_comm]

/-- A part that is not met is null. -/
theorem element_eq_null {key : RequestKey} (h : d.has key = false) : d.parts.element key = .null := by
  cases key <;> simp only [has, Option.isSome_eq_false_iff, Option.isNone_iff_eq_none] at h <;>
    simp [parts, Parts.element, h]

/-- The members name parts that are not met yet, each part once, and hold their values; the other parts stay. -/
structure Fills (d : Draft) (ms : Members) (p : Parts) : Prop where
  holds : ∀ m ∈ ms, ∃ key, RequestKey.ofKey? m.1 = some key ∧ d.has key = false ∧ p.element key = m.2
  once : (ms.map fun m => RequestKey.ofKey? m.1).Nodup
  stays : ∀ key, (∀ m ∈ ms, RequestKey.ofKey? m.1 ≠ some key) → p.element key = d.parts.element key

/-- After a step, the rest of the members has to fill the rest of the parts. -/
theorem fills_cons {name : String} {v : Json} {key : RequestKey} (hkey : RequestKey.ofKey? name = some key)
    (hmet : d.has key = false) (hset : d.set key v = .ok d') : d.Fills ((name, v) :: ms) p ↔ d'.Fills ms p := by
  obtain ⟨hv, hrest⟩ := parts_set hset
  constructor
  · rintro ⟨hholds, honce, hstays⟩
    rw [List.map_cons, List.nodup_cons] at honce
    have hother (m : String × Json) (hm : m ∈ ms) : RequestKey.ofKey? m.1 ≠ some key := by
      rintro he
      exact honce.1 (List.mem_map.2 ⟨m, hm, he.trans hkey.symm⟩)
    refine ⟨fun m hm => ?_, honce.2, fun k hk => ?_⟩
    · obtain ⟨k, hk, hmet', helem⟩ := hholds m (List.mem_cons_of_mem _ hm)
      have hne : k ≠ key := fun he => hother m hm (he ▸ hk)
      exact ⟨k, hk, by simp [has_set hset, hne, hmet'], helem⟩
    · by_cases he : k = key
      · obtain ⟨k', hk', -, helem⟩ := hholds (name, v) List.mem_cons_self
        cases hkey.symm.trans hk'
        rw [he, helem, hv]
      · rw [hrest k he]
        refine hstays k fun m hm => ?_
        rcases List.mem_cons.1 hm with rfl | hm
        · exact fun h => he (Option.some.inj (h.symm.trans hkey))
        · exact hk m hm
  · rintro ⟨hholds, honce, hstays⟩
    have hother (m : String × Json) (hm : m ∈ ms) : RequestKey.ofKey? m.1 ≠ some key := by
      intro he
      obtain ⟨k, hk, hmet', -⟩ := hholds m hm
      cases he.symm.trans hk
      simp [has_set hset] at hmet'
    refine ⟨fun m hm => ?_, ?_, fun k hk => ?_⟩
    · rcases List.mem_cons.1 hm with rfl | hm
      · exact ⟨key, hkey, hmet, (hstays key hother).trans hv⟩
      · obtain ⟨k, hk, hmet', helem⟩ := hholds m hm
        rw [has_set hset, Bool.or_eq_false_iff] at hmet'
        exact ⟨k, hk, hmet'.2, helem⟩
    · rw [List.map_cons, List.nodup_cons]
      refine ⟨fun hm => ?_, honce⟩
      obtain ⟨m, hm, he⟩ := List.mem_map.1 hm
      exact hother m hm (he.trans hkey)
    · rw [List.forall_mem_cons] at hk
      have hne : k ≠ key := fun he => hk.1 (he ▸ hkey)
      rw [hstays k hk.2, hrest k hne]

/-- A run over the members of an object: it succeeds where they fill the parts. -/
theorem addMembers_eq_ok : ∀ {ms : Members} {d : Draft},
    (∃ d', d.addMembers ms = .ok d' ∧ d'.parts = p) ↔ d.Fills ms p
  | [], d => by
    constructor
    · rintro ⟨d', h, rfl⟩
      cases h
      exact ⟨by simp, by simp, fun _ _ => rfl⟩
    · intro h
      exact ⟨d, rfl, (Parts.ext_element fun key => h.stays key (by simp)).symm⟩
  | m :: ms, d => by
    rw [addMembers_cons]
    constructor
    · rintro ⟨d', h, hp⟩
      obtain ⟨d₁, hadd, h⟩ := bind_eq_ok.1 h
      obtain ⟨key, hkey, hmet, hset⟩ := add_eq_ok.1 hadd
      exact (fills_cons hkey hmet hset).2 (addMembers_eq_ok.1 ⟨d', h, hp⟩)
    · intro h
      obtain ⟨key, hkey, hmet, helem⟩ := h.holds m List.mem_cons_self
      obtain ⟨d₁, hset⟩ := helem ▸ exists_set d p key
      obtain ⟨d', h, hp⟩ := addMembers_eq_ok.2 ((fills_cons hkey hmet hset).1 h)
      exact ⟨d', bind_eq_ok.2 ⟨d₁, add_eq_ok.2 ⟨key, hkey, hmet, hset⟩, h⟩, hp⟩

end Draft

/-! ## The object form -/

namespace Parts

variable {p : Parts} {ms : Members}

/-- The object holds the parts under their names: each key is a name, the free text goes by one name, and a part that
is absent or null is `none`. -/
structure ObjectForm (p : Parts) (ms : Members) : Prop where
  known : ∀ m ∈ ms, m.1 ∈ requestNames
  oneText : ms.lookup "q" = none ∨ ms.lookup "freeText" = none
  holds : ∀ key, ms.part key = p.element key

/-- The value of a part is the one under its name, whichever name it goes by. -/
theorem part_eq_of_lookup {key : RequestKey} {name : String} {v : Json}
    (hone : ms.lookup "q" = none ∨ ms.lookup "freeText" = none) (hname : name ∈ key.names)
    (hv : ms.lookup name = some v) : ms.part key = v := by
  cases key <;> simp only [RequestKey.names, List.mem_cons, List.not_mem_nil, or_false] at hname
  case text =>
    rcases hname with rfl | rfl
    · simp [Members.part, RequestKey.names, firstPresent?, hv]
    · have hq : ms.lookup "q" = none := hone.resolve_right (by simp [hv])
      simp [Members.part, RequestKey.names, firstPresent?, hq, hv]
  all_goals
    subst hname
    simp [Members.part, RequestKey.names, firstPresent?, hv]

/-- A part that no member names is null. -/
theorem part_eq_null {key : RequestKey} (h : ∀ m ∈ ms, RequestKey.ofKey? m.1 ≠ some key) : ms.part key = .null := by
  have habsent (name : String) (hname : name ∈ key.names) : ms.lookup name = none :=
    Members.lookup_eq_none.2 fun m hm he => h m hm (RequestKey.ofKey?_eq_some.2 (he ▸ hname))
  cases key <;> simp only [RequestKey.names, List.forall_mem_cons] at habsent <;>
    simp [Members.part, RequestKey.names, firstPresent?, habsent]

/-- The object form, by the keys of an object that has each of them once. -/
theorem fills_empty_iff (hkeys : (ms.map Prod.fst).Nodup) : Draft.Fills {} ms p ↔ p.ObjectForm ms := by
  have hmet (key : RequestKey) : Draft.has {} key = false := by cases key <;> rfl
  have hnull (key : RequestKey) : (Draft.parts {}).element key = .null := by cases key <;> rfl
  constructor
  · rintro ⟨hholds, honce, hstays⟩
    have hone : ms.lookup "q" = none ∨ ms.lookup "freeText" = none := by
      by_contra hboth
      obtain ⟨hq, hf⟩ := not_or.1 hboth
      obtain ⟨v, hq⟩ := Option.ne_none_iff_exists'.1 hq
      obtain ⟨w, hf⟩ := Option.ne_none_iff_exists'.1 hf
      have hqm := (Members.lookup_eq_some_iff_mem hkeys (m := ("q", v))).1 hq
      have hfm := (Members.lookup_eq_some_iff_mem hkeys (m := ("freeText", w))).1 hf
      have heq := List.inj_on_of_nodup_map honce hqm hfm rfl
      simp at heq
    refine ⟨fun m hm => ?_, hone, fun key => ?_⟩
    · obtain ⟨key, hkey, -⟩ := hholds m hm
      exact mem_requestNames.2 ⟨key, hkey⟩
    · by_cases h : ∃ m ∈ ms, RequestKey.ofKey? m.1 = some key
      · obtain ⟨m, hm, hkey⟩ := h
        obtain ⟨k, hk, -, helem⟩ := hholds m hm
        cases hkey.symm.trans hk
        rw [helem]
        exact part_eq_of_lookup hone (RequestKey.ofKey?_eq_some.1 hkey) ((Members.lookup_eq_some_iff_mem hkeys).2 hm)
      · have hno (m : String × Json) (hm : m ∈ ms) : RequestKey.ofKey? m.1 ≠ some key := fun hk => h ⟨m, hm, hk⟩
        rw [hstays key hno, hnull, part_eq_null hno]
  · rintro ⟨hknown, hone, hholds⟩
    refine ⟨fun m hm => ?_, ?_, fun key hno => ?_⟩
    · obtain ⟨key, hkey⟩ := mem_requestNames.1 (hknown m hm)
      refine ⟨key, hkey, hmet key, ?_⟩
      rw [← hholds]
      exact part_eq_of_lookup hone (RequestKey.ofKey?_eq_some.1 hkey) ((Members.lookup_eq_some_iff_mem hkeys).2 hm)
    · -- two keys of one part would be the two names of the free text
      have hmap : ms.map (fun m => RequestKey.ofKey? m.1) = (ms.map Prod.fst).map RequestKey.ofKey? := by simp
      rw [hmap]
      refine List.Nodup.map_on (fun x hx y hy hxy => ?_) hkeys
      obtain ⟨m, hm, rfl⟩ := List.mem_map.1 hx
      obtain ⟨n, hn, rfl⟩ := List.mem_map.1 hy
      obtain ⟨key, hkey⟩ := mem_requestNames.1 (hknown m hm)
      have hnames := RequestKey.eq_of_mem_names (RequestKey.ofKey?_eq_some.1 hkey)
        (RequestKey.ofKey?_eq_some.1 (hxy ▸ hkey))
      rcases hnames with h | ⟨hq, hf⟩ | ⟨hf, hq⟩
      · exact h
      · rcases hone with hone | hone
        · exact absurd hq (Members.lookup_eq_none.1 hone m hm)
        · exact absurd hf (Members.lookup_eq_none.1 hone n hn)
      · rcases hone with hone | hone
        · exact absurd hq (Members.lookup_eq_none.1 hone n hn)
        · exact absurd hf (Members.lookup_eq_none.1 hone m hm)
    · rw [hnull, ← hholds, part_eq_null hno]

/-- A part depends on what stands under its names. -/
theorem part_congr {ms' : Members} {key : RequestKey} (h : ∀ name ∈ key.names, ms'.lookup name = ms.lookup name) :
    ms'.part key = ms.part key := by
  cases key <;> simp only [RequestKey.names, List.forall_mem_cons] at h <;>
    simp [Members.part, RequestKey.names, firstPresent?, h]

/-- One part changes with what stands under its name. -/
theorem ObjectForm.update {ms' : Members} {p' : Parts} (h : p.ObjectForm ms) (key : RequestKey) (hkey : key ≠ .text)
    (hsame : ∀ name, name ≠ key.name → ms'.lookup name = ms.lookup name)
    (hpart : ms'.lookup key.name = some (p'.element key)) (hrest : ∀ k, k ≠ key → p'.element k = p.element k) :
    p'.ObjectForm ms' := by
  have hname : key.name ∈ key.names := by simp [RequestKey.names_of_ne_text hkey]
  have hne {name : String} (ht : name ∈ RequestKey.text.names) : name ≠ key.name := by
    rintro rfl
    cases key <;> simp_all [RequestKey.name, RequestKey.names]
  have hone : ms'.lookup "q" = none ∨ ms'.lookup "freeText" = none := by
    rw [hsame "q" (hne (by decide)), hsame "freeText" (hne (by decide))]
    exact h.oneText
  refine ⟨fun m hm => ?_, hone, fun k => ?_⟩
  · by_cases hm' : m.1 = key.name
    · exact mem_requestNames.2 ⟨key, RequestKey.ofKey?_eq_some.2 (hm' ▸ hname)⟩
    · by_contra hunknown
      have hnone : ms.lookup m.1 = none := Members.lookup_eq_none.2 fun n hn he => hunknown (he ▸ h.known n hn)
      exact Members.lookup_eq_none.1 ((hsame m.1 hm').trans hnone) m hm rfl
  · by_cases hk : k = key
    · rw [hk, part_eq_of_lookup hone hname hpart]
    · rw [hrest k hk, ← h.holds k]
      refine part_congr fun name hn => hsame name fun he => hk ?_
      have hshared := RequestKey.ofKey?_eq_some.2 (he ▸ hn)
      exact Option.some.inj (hshared.symm.trans (RequestKey.ofKey?_eq_some.2 hname))

theorem ObjectForm.element_eq_lookup (h : p.ObjectForm ms) {key : RequestKey} (hkey : key ≠ .text) :
    p.element key = (ms.lookup key.name).getD .null := by
  rw [← h.holds key, Members.part_eq_lookup hkey]

end Parts

/-- An object makes a draft of the parts that it holds, with each key once. -/
theorem Draft.ofJson_obj_eq_ok {ms : Members} {p : Parts} :
    (∃ d, Draft.ofJson (.obj ms) = .ok d ∧ d.parts = p) ↔ (ms.map Prod.fst).Nodup ∧ p.ObjectForm ms := by
  refine addMembers_eq_ok.trans ⟨fun h => ?_, fun ⟨hkeys, hform⟩ => (Parts.fills_empty_iff hkeys).2 hform⟩
  have hkeys : (ms.map Prod.fst).Nodup := by
    refine List.Nodup.of_map RequestKey.ofKey? ?_
    rw [List.map_map]
    exact h.once
  exact ⟨hkeys, (Parts.fills_empty_iff hkeys).1 h⟩

/-! ## Requests -/

namespace Request

variable {ms : Members} {p : Parts} {r : Request}

/-- The parts are decoded: the identifiers are checked first, then the filters are read. -/
def ofParts (p : Parts) : Except QueryError Request :=
  checkIds (p.ids.getD []) >>= fun _ => (decodeFilters (p.filters.getD [])).map p.request

/-- An object is read as a draft, and the parts of the draft are decoded. -/
theorem ofJson_obj_eq_bind (ms : Members) : ofJson (.obj ms) = Draft.addMembers {} ms >>= fun d => ofParts d.parts := by
  rw [ofJson, Draft.ofJson]
  cases Draft.addMembers {} ms <;> rfl

/-- An object that holds parts is their request. -/
theorem ofJson_of_objectForm (hkeys : (ms.map Prod.fst).Nodup) (h : p.ObjectForm ms) :
    ofJson (.obj ms) = ofParts p := by
  obtain ⟨d, hd, rfl⟩ := Draft.ofJson_obj_eq_ok.2 ⟨hkeys, h⟩
  rw [ofJson, hd]
  rfl

/-- A request holds parts, and no key twice. -/
theorem ofJson_obj_eq_ok : ofJson (.obj ms) = .ok r ↔
    (ms.map Prod.fst).Nodup ∧ ∃ p : Parts, p.ObjectForm ms ∧ ofParts p = .ok r := by
  constructor
  · intro h
    rw [ofJson_obj_eq_bind] at h
    obtain ⟨d, hd, hr⟩ := bind_eq_ok.1 h
    obtain ⟨hkeys, hform⟩ := Draft.ofJson_obj_eq_ok.1 ⟨d, hd, rfl⟩
    exact ⟨hkeys, d.parts, hform, hr⟩
  · rintro ⟨hkeys, p, hp, hr⟩
    rw [ofJson_of_objectForm hkeys hp, hr]

/-- An object that holds no parts is refused. -/
theorem refused_of_forall_not_objectForm (h : ∀ p : Parts, ¬ p.ObjectForm ms) :
    ∃ reason, ofJson (.obj ms) = .error (.invalidRequest reason) := by
  rw [ofJson]
  cases hd : Draft.ofJson (.obj ms) with
  | ok d => exact absurd (Draft.ofJson_obj_eq_ok.1 ⟨d, hd, rfl⟩).2 (h _)
  | error e =>
    obtain ⟨reason, rfl⟩ := Draft.ofJson_eq_error hd
    exact ⟨reason, rfl⟩

theorem ofParts_eq_ok : ofParts p = .ok r ↔ p.IdsFit ∧
    ∃ fs, List.Forall₂ (fun v f => Filter.ofJson v = .ok f) (p.filters.getD []) fs ∧ r = p.request fs := by
  simp only [ofParts, bind_eq_ok, checkIds_eq_ok, map_eq_ok, decodeFilters_eq_ok, Parts.IdsFit, exists_const,
    @eq_comm _ r]

/-- **Which objects are requests.** An object is decoded exactly when it holds parts whose identifiers fit and whose
filters all are clauses, and then it is the request of these parts. Without parts it is refused; else the first
identifier that does not fit decides the error, whatever the filters are; else the first filter that is refused. -/
theorem ofJson_obj_eq (ms : Members) (hkeys : (ms.map Prod.fst).Nodup) :
    (∀ r, ofJson (.obj ms) = .ok r ↔ ∃ (p : Parts) (fs : List Filter), p.ObjectForm ms ∧ p.IdsFit ∧
      List.Forall₂ (fun v f => Filter.ofJson v = .ok f) (p.filters.getD []) fs ∧ r = p.request fs) ∧
    ((∀ p : Parts, ¬ p.ObjectForm ms) → ∃ reason, ofJson (.obj ms) = .error (.invalidRequest reason)) ∧
    ∀ p : Parts, p.ObjectForm ms →
      (∀ before id after, p.ids.getD [] = before ++ id :: after → (∀ i ∈ before, isIdentifier i = true) →
        ¬ isIdentifier id = true →
        ofJson (.obj ms) = .error (.invalidRequest ("ids must be strings or numbers, found " ++ id.compact))) ∧
      (p.IdsFit → ∀ before v after e, p.filters.getD [] = before ++ v :: after →
        (∀ w ∈ before, ∃ f, Filter.ofJson w = .ok f) → Filter.ofJson v = .error e →
        ofJson (.obj ms) = .error e) := by
  refine ⟨fun r => ?_, refused_of_forall_not_objectForm, fun p hp => ⟨?_, ?_⟩⟩
  · rw [ofJson_obj_eq_ok]
    constructor
    · rintro ⟨-, p, hp, hr⟩
      obtain ⟨hids, fs, hfs, rfl⟩ := ofParts_eq_ok.1 hr
      exact ⟨p, fs, hp, hids, hfs, rfl⟩
    · rintro ⟨p, fs, hp, hids, hfs, rfl⟩
      exact ⟨hkeys, p, hp, ofParts_eq_ok.2 ⟨hids, fs, hfs, rfl⟩⟩
  · intro before id after hsplit hbefore hid
    rw [ofJson_of_objectForm hkeys hp, ofParts]
    exact bind_eq_error.2 (Or.inl (checkIds_eq_error.2 ⟨before, id, after, hsplit, hbefore, hid, rfl⟩))
  · intro hids before v after e hsplit hbefore hv
    rw [ofJson_of_objectForm hkeys hp, ofParts]
    refine bind_eq_error.2 (Or.inr ⟨(), checkIds_eq_ok.2 hids, map_eq_error.2 ?_⟩)
    exact decodeFilters_eq_error.2 ⟨before, v, after, hsplit, hbefore, hv⟩

/-- A null and a bad filter: the bad identifier comes first; without it, the filter decides. -/
theorem ofJson_obj_eq_ids_before_filters :
    let filters := Json.arr [.obj [("type", .str "exists"), ("field", .str "a")], .obj [("type", .str "bogus")]]
    let ms (ids : Json) : Members := [("size", .null), ("filters", filters), ("freeText", .str "abc"), ("ids", ids)]
    ofJson (.obj (ms (.arr [.str "x", .null]))) =
        .error (.invalidRequest "ids must be strings or numbers, found null") ∧
      ofJson (.obj (ms (.arr [.str "x"]))) = .error (.unsupportedKind "bogus") := by
  intro filters ms
  have hform (ids : List Json) : Parts.ObjectForm { text := some "abc", filters := filters.arr?, ids := some ids }
      (ms (.arr ids)) := ⟨by simp [ms, requestNames], Or.inl rfl, fun key => by cases key <;> rfl⟩
  constructor
  · have h := ((ofJson_obj_eq (ms (.arr [.str "x", .null])) (by simp [ms])).2.2 _ (hform _)).1
    exact h [.str "x"] .null [] rfl (by simp [isIdentifier]) (by simp [isIdentifier])
  · have h := ((ofJson_obj_eq (ms (.arr [.str "x"])) (by simp [ms])).2.2 _ (hform _)).2
    exact h (by simp [Parts.IdsFit, isIdentifier]) [_] _ [] _ rfl (by simp; exact ⟨_, rfl⟩) rfl

end Request

end QueryDsl
