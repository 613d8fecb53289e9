import QueryDsl.Proofs.Request.ObjectForm

/-!
# Members that are added to an object

A member for a part that an object does not name can be added in any place: the request is then the one that is built
from the request of the object by setting that part (`ofJson_insert`). An error stays as it is.

- A step that sets a part can be made after the steps for the other parts (`set_comm`), and so after a whole run
  (`addMembers_set_comm`).
- The part that is set last can be set in the request that the other parts make (`ofParts_eq_map`,
  `ofParts_filters`).
-/

namespace QueryDsl

open Checks

/-- The object does not name the part. -/
def Members.Lacks (ms : Members) (key : RequestKey) : Prop := ∀ name ∈ key.names, ms.lookup name = none

/-- No member of the object is for the part. -/
theorem Members.lacks_iff {ms : Members} {key : RequestKey} :
    ms.Lacks key ↔ ∀ m ∈ ms, RequestKey.ofKey? m.1 ≠ some key := by
  unfold Members.Lacks
  simp only [Members.lookup_eq_none, ne_eq, RequestKey.ofKey?_eq_some]
  constructor
  · intro h m hm hkey
    exact h m.1 hkey m hm rfl
  · rintro h name hname m hm rfl
    exact h m hm hname

/-! ## Steps in another order -/

namespace Draft

variable {d d' : Draft} {key : RequestKey} {v : Json}

/-- Two parts may be set in either order: each step reads its own value and writes its own part. -/
theorem set_comm {k : RequestKey} (hne : k ≠ key) (h : d.set key v = .ok d') (w : Json) :
    d'.set k w = d.set k w >>= fun a => a.set key v := by
  cases key <;> rw [set, map_eq_ok] at h <;> obtain ⟨x, hx, rfl⟩ := h <;> cases k <;>
    first
    | exact absurd rfl hne
    | simp only [set, hx]
      cases nullable _ w <;> rfl

/-- A step for another part can be made first. -/
theorem add_set_comm {m : String × Json} (hm : RequestKey.ofKey? m.1 ≠ some key) (h : d.set key v = .ok d') :
    d'.add m = d.add m >>= fun a => a.set key v := by
  cases hkey : RequestKey.ofKey? m.1 with
  | none =>
    rw [add_unknown hkey, add_unknown hkey]
    rfl
  | some k =>
    have hne : k ≠ key := fun he => hm (he ▸ hkey)
    have hmet : d'.has k = d.has k := by simp [has_set h, hne]
    cases hd : d.has k with
    | true =>
      rw [add_duplicate hkey hd, add_duplicate hkey (hmet.trans hd)]
      rfl
    | false => rw [add_set hkey hd, add_set hkey (hmet.trans hd), set_comm hne h]

/-- Whether a part can be set depends on its value alone. -/
theorem exists_set_of_set (h : d.set key v = .ok d') (a : Draft) : ∃ a', a.set key v = .ok a' := by
  obtain ⟨rfl, -⟩ := parts_set h
  exact exists_set a d'.parts key

/-- A run over members for other parts can be made first. -/
theorem addMembers_set_comm {ms : Members} (hms : ∀ m ∈ ms, RequestKey.ofKey? m.1 ≠ some key)
    (h : d.set key v = .ok d') : d'.addMembers ms = d.addMembers ms >>= fun a => a.set key v := by
  induction ms generalizing d d' with
  | nil => exact h.symm
  | cons m ms ih =>
    obtain ⟨hm, hms⟩ := List.forall_mem_cons.1 hms
    rw [addMembers_cons, addMembers_cons, add_set_comm hm h]
    cases d.add m with
    | error e => rfl
    | ok a =>
      -- the part is still to be set after the first step, and can be
      obtain ⟨a', ha⟩ := exists_set_of_set h a
      show a.set key v >>= _ = a.addMembers ms >>= _
      rw [ha]
      exact ih hms ha

/-- A part that an object lacks is not met. -/
theorem has_eq_false_of_lacks {ms : Members} (h : addMembers {} ms = .ok d) (hlacks : ms.Lacks key) :
    d.has key = false := by
  rw [← Bool.not_eq_true, has_addMembers h]
  rintro (hempty | ⟨m, hm, hkey⟩)
  · cases key <;> simp [has] at hempty
  · exact Members.lacks_iff.1 hlacks m hm hkey

/-- A member for a part that is named nowhere else may as well stand last. -/
theorem addMembers_insert {before after : Members} {name : String} (hname : name ∈ key.names)
    (hlacks : Members.Lacks (before ++ after) key) (hset : ∀ a : Draft, ∃ a', a.set key v = .ok a') :
    addMembers {} (before ++ (name, v) :: after) = addMembers {} (before ++ after) >>= fun a => a.set key v := by
  have hother := List.forall_mem_append.1 (Members.lacks_iff.1 hlacks)
  rw [addMembers_append, addMembers_append]
  cases hbefore : addMembers {} before with
  | error e => rfl
  | ok a =>
    have hmet : a.has key = false := has_eq_false_of_lacks hbefore (Members.lacks_iff.2 hother.1)
    obtain ⟨a', ha⟩ := hset a
    show a.addMembers ((name, v) :: after) = a.addMembers after >>= _
    rw [addMembers_cons, add_set (RequestKey.ofKey?_eq_some.2 hname) hmet, ha]
    exact addMembers_set_comm hother.2 ha

end Draft

/-! ## Parts that are set last -/

theorem decodeFilters_eq_mapM (vs : List Json) : decodeFilters vs = vs.mapM Filter.ofJson := by
  induction vs with
  | nil => rfl
  | cons v vs ih =>
    rw [decodeFilters, List.mapM_cons, ← ih]
    cases Filter.ofJson v with
    | error e => rfl
    | ok f => cases decodeFilters vs <;> rfl

namespace Request

variable {p q : Parts} {before after : Members}

theorem foldl_addFilter (r : Request) (fs : List Filter) :
    fs.foldl addFilter r = { r with filters := r.filters ++ fs } := by
  induction fs generalizing r with
  | nil => simp
  | cons f fs ih => simp [ih, addFilter]

/-- Parts with the same filters, of which the identifiers fit alike, are decoded alike. -/
theorem ofParts_eq_map {build : Request → Request} (hids : checkIds (q.ids.getD []) = checkIds (p.ids.getD []))
    (hfilters : q.filters = p.filters) (hbuild : ∀ fs, q.request fs = build (p.request fs)) :
    ofParts q = (ofParts p).map build := by
  rw [ofParts, ofParts, hids, hfilters, funext hbuild]
  cases checkIds (p.ids.getD []) with
  | error e => rfl
  | ok _ => cases decodeFilters (p.filters.getD []) <;> rfl

/-- Filters are decoded after everything else. -/
theorem ofParts_filters (hp : p.filters = none) (cs : List Json) : ofParts { p with filters := some cs } = do
    let r ← ofParts p
    let fs ← cs.mapM Filter.ofJson
    return fs.foldl addFilter r := by
  simp only [ofParts, hp, Option.getD_none, Option.getD_some, ← decodeFilters_eq_mapM, foldl_addFilter]
  cases checkIds (p.ids.getD []) with
  | error e => rfl
  | ok _ => cases decodeFilters cs <;> rfl

/-- What a part that is written last does to the parts, the added member does to the request. -/
theorem ofJson_insert_eq_bind (p : Parts) {key : RequestKey} {name : String}
    {finish : Request → Except QueryError Request} (hname : name ∈ key.names)
    (hlacks : Members.Lacks (before ++ after) key)
    (hfinish : ∀ q : Parts, q.element key = .null → ofParts (q.withPart p key) = ofParts q >>= finish) :
    ofJson (.obj (before ++ (name, p.element key) :: after)) = ofJson (.obj (before ++ after)) >>= finish := by
  rw [ofJson_obj_eq_bind, ofJson_obj_eq_bind, Draft.addMembers_insert hname hlacks fun d => d.exists_set p key]
  cases hbase : Draft.addMembers {} (before ++ after) with
  | error e => rfl
  | ok d =>
    obtain ⟨d', hset, hparts⟩ := d.exists_set_parts p key
    show (d.set key (p.element key) >>= fun d => ofParts d.parts) = ofParts d.parts >>= finish
    rw [hset]
    show ofParts d'.parts = _
    rw [hparts]
    exact hfinish d.parts (Draft.element_eq_null (Draft.has_eq_false_of_lacks hbase hlacks))

/-- A member that sets a part other than the filters, and the builder for the same. -/
inductive Sets : RequestKey → String × Json → (Request → Request) → Prop
  | text {name : String} (hname : name ∈ RequestKey.text.names) (s : String) :
      Sets .text (name, .str s) (·.withText s)
  | ids {xs : List Json} (hxs : ∀ id ∈ xs, isIdentifier id = true) : Sets .ids ("ids", .arr xs) (·.withIds xs)
  | size (n : UInt64) : Sets .size ("size", wordJson n) (·.withSize n)
  | offset (n : UInt64) : Sets .offset ("from", wordJson n) (·.withOffset n)

/-- The member is the JSON of a part, and the part does to a request what the builder does. -/
theorem Sets.exists_part {key : RequestKey} {m : String × Json} {build : Request → Request} (h : Sets key m build) :
    ∃ name p, name ∈ key.names ∧ m = (name, Parts.element p key) ∧
      ∀ q : Parts, q.element key = .null → ofParts (q.withPart p key) = (ofParts q).map build := by
  cases h with
  | @text name hname s =>
    exact ⟨name, { text := some s }, hname, rfl, fun q _ => ofParts_eq_map rfl rfl fun _ => rfl⟩
  | @ids xs hxs =>
    refine ⟨"ids", { ids := some xs }, by decide, rfl, fun q hq => ofParts_eq_map ?_ rfl fun _ => rfl⟩
    rw [Parts.eq_none_of_elim_arr hq]
    exact checkIds_eq_ok.2 hxs
  | size n => exact ⟨"size", { size := some n }, by decide, rfl, fun q _ => ofParts_eq_map rfl rfl fun _ => rfl⟩
  | offset n => exact ⟨"from", { offset := some n }, by decide, rfl, fun q _ => ofParts_eq_map rfl rfl fun _ => rfl⟩

theorem ofJson_insert_of_sets {key : RequestKey} {m : String × Json} {build : Request → Request}
    (h : Sets key m build) (hlacks : Members.Lacks (before ++ after) key) :
    ofJson (.obj (before ++ m :: after)) = (ofJson (.obj (before ++ after))).map build := by
  have hmap (x : Except QueryError Request) : x.map build = x >>= fun r => .ok (build r) := by cases x <;> rfl
  obtain ⟨name, p, hname, rfl, hbuild⟩ := h.exists_part
  rw [hmap]
  refine ofJson_insert_eq_bind p hname hlacks fun q hq => ?_
  rw [← hmap]
  exact hbuild q hq

/-- **Decoding commutes with building.** A member that sets a part which an object does not name can be added in any
place: the object is then decoded to the request that is built from the request of the object, and refused with the
same error as before. Filters are decoded once the rest is: an error of the rest comes first, then the error of the
first filter that is refused; else the filters are added one by one. -/
theorem ofJson_insert (before after : Members) :
    (∀ key m build, Sets key m build → Members.Lacks (before ++ after) key →
      ofJson (.obj (before ++ m :: after)) = (ofJson (.obj (before ++ after))).map build) ∧
    ∀ cs : List Json, Members.Lacks (before ++ after) .filters →
      ofJson (.obj (before ++ ("filters", .arr cs) :: after)) = do
        let r ← ofJson (.obj (before ++ after))
        let fs ← cs.mapM Filter.ofJson
        return fs.foldl addFilter r := by
  refine ⟨fun key m build => ofJson_insert_of_sets, fun cs hlacks => ?_⟩
  have hname : "filters" ∈ RequestKey.filters.names := by decide
  refine ofJson_insert_eq_bind { filters := some cs } hname hlacks fun q hq => ?_
  exact ofParts_filters (Parts.eq_none_of_elim_arr hq) cs

/-- Identifiers before filters of which one is refused, a text under its other name, and filters between other parts. -/
theorem ofJson_insert_beside_fault :
    let faulty : Members := [("filters", .arr [.obj [("type", .str "bogus")]])]
    let owner : Json := .obj [("field", .str "owner"), ("kind", .str "exists")]
    ofJson (.obj (("ids", .arr [.str "x"]) :: faulty)) = .error (.unsupportedKind "bogus") ∧
    ofJson (.obj [("size", wordJson 10), ("freeText", .str "abc")]) = .ok { text := "abc", size := some 10 } ∧
    ofJson (.obj [("q", .null), ("filters", .arr [owner, owner]), ("size", wordJson 10)]) =
      .ok { filters := [⟨.fieldExists "owner", false⟩, ⟨.fieldExists "owner", false⟩], size := some 10 } := by
  intro faulty owner
  have hids : Sets .ids ("ids", .arr [.str "x"]) _ := .ids (by simp [isIdentifier])
  have htext : Sets .text ("freeText", .str "abc") _ := .text (by decide) "abc"
  have hids := (ofJson_insert [] faulty).1 _ _ _ hids (by simp [Members.Lacks, RequestKey.names, faulty])
  have htext := (ofJson_insert [("size", wordJson 10)] []).1 _ _ _ htext (by simp [Members.Lacks, RequestKey.names])
  have hfilters := (ofJson_insert [("q", .null)] [("size", wordJson 10)]).2 [owner, owner] (by
    simp [Members.Lacks, RequestKey.names])
  exact ⟨hids.trans rfl, htext.trans rfl, hfilters.trans rfl⟩

end Request

end QueryDsl
