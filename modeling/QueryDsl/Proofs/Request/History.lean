import QueryDsl.Document.SearchBody
import QueryDsl.Request.History

/-!
# What a history leaves

- A step that fails leaves the request as it was, and whether it fails does not depend on the request
  (`Step.isOk_apply`); so the steps that fail can be left out of a history (`run_filter_succeeds`).
- One step that does not start again writes its own part and leaves the others (`Step.applyOrKeep_eq`). After a run of
  such steps each part is what was set last, and the filters are those from before with the added ones behind them
  (`run_eq_written`).
- `run_history`: a history leaves what the steps behind its last start write into the request that it started from.
-/

namespace QueryDsl

/-! ## What a step writes -/

namespace Step

/-- Whether a step succeeds on the empty request. -/
def succeeds (s : Step) : Bool := (s.apply .empty).isOk

/-- The request that a step starts again from, if it does. -/
def start? : Step → Option Request
  | reset => some .empty
  | load text => (Request.parse text).toOption
  | _ => none

/-- The free text that a step sets. -/
def text? : Step → Option String
  | setText text => some text
  | _ => none

/-- The filter that a step adds. -/
def filter? : Step → Option Filter
  | addFilter f => some f
  | readFilter text => (Filter.parse text).toOption
  | _ => none

/-- The identifiers that a step sets. -/
def ids? : Step → Option (List Json)
  | setIds ids => some ids
  | _ => none

/-- The page size that a step sets. -/
def size? : Step → Option UInt64
  | setSize size => some size
  | _ => none

/-- The page offset that a step sets. -/
def offset? : Step → Option UInt64
  | setOffset offset => some offset
  | _ => none

variable {s : Step} {r start : Request}

/-- Whether a step fails does not depend on the request. -/
theorem isOk_apply (s : Step) (r : Request) : (s.apply r).isOk = s.succeeds := by
  cases s with
  | readFilter text =>
    simp only [succeeds, apply]
    cases Filter.parse text <;> rfl
  | _ => rfl

theorem succeeds_eq_false_iff (s : Step) (r : Request) : s.succeeds = false ↔ ∃ e, s.apply r = .error e := by
  rw [← isOk_apply s r]
  cases s.apply r with
  | error e => exact iff_of_true rfl ⟨e, rfl⟩
  | ok r' =>
    refine iff_of_false (by simp [Except.isOk, Except.toBool]) ?_
    rintro ⟨e, h⟩
    cases h

/-- A step that fails leaves the request as it was. -/
theorem applyOrKeep_of_fails (h : s.succeeds = false) (r : Request) : s.applyOrKeep r = r := by
  obtain ⟨e, he⟩ := (succeeds_eq_false_iff s r).1 h
  simp only [applyOrKeep, he]

/-- A step that starts again forgets the request. -/
theorem applyOrKeep_of_start (h : s.start? = some start) (r : Request) : s.applyOrKeep r = start := by
  cases s with
  | reset => exact Option.some.inj h
  | load text =>
    have hparse : Request.parse text = .ok start := by
      cases hp : Request.parse text with
      | error e =>
        rw [start?, hp] at h
        cases h
      | ok r' =>
        rw [start?, hp] at h
        exact congrArg Except.ok (Option.some.inj h)
    simp only [applyOrKeep, apply, hparse]
  | _ => cases h

/-- A step that does not start again writes at most one part: it sets it, or it adds a filter behind the others. -/
theorem applyOrKeep_eq (h : s.start? = none) (r : Request) : s.applyOrKeep r =
    { text := s.text?.getD r.text
      filters := r.filters ++ s.filter?.toList
      ids := s.ids?.getD r.ids
      size := s.size?.or r.size
      offset := s.offset?.or r.offset } := by
  obtain ⟨text, filters, ids, size, offset⟩ := r
  cases s with
  | reset => cases h
  | load t =>
    -- it does not start again, so the text is no request
    cases hp : Request.parse t with
    | ok r' =>
      rw [start?, hp] at h
      cases h
    | error e => simp [applyOrKeep, apply, hp, text?, filter?, ids?, size?, offset?]
  | readFilter t =>
    cases hp : Filter.parse t with
    | ok f =>
      simp [applyOrKeep, apply, hp, Except.map, Request.addFilter, text?, filter?, ids?, size?, offset?,
        Except.toOption]
    | error e =>
      simp [applyOrKeep, apply, hp, Except.map, text?, filter?, ids?, size?, offset?, Except.toOption]
  | addFilter f => simp [applyOrKeep, apply, Request.addFilter, text?, filter?, ids?, size?, offset?]
  | setText t => simp [applyOrKeep, apply, Request.withText, text?, filter?, ids?, size?, offset?]
  | setIds vs => simp [applyOrKeep, apply, Request.withIds, text?, filter?, ids?, size?, offset?]
  | setSize n => simp [applyOrKeep, apply, Request.withSize, text?, filter?, ids?, size?, offset?]
  | setOffset n => simp [applyOrKeep, apply, Request.withOffset, text?, filter?, ids?, size?, offset?]

end Step

/-! ## Runs -/

namespace Request

variable {r start first : Request} {s : Step} {steps steps' before after after' : List Step}

theorem run_cons (r : Request) (s : Step) (steps : List Step) : run r (s :: steps) = run (s.applyOrKeep r) steps :=
  List.foldl_cons ..

theorem run_append (r : Request) (before after : List Step) : run r (before ++ after) = run (run r before) after :=
  List.foldl_append

/-- The steps that fail can be left out of a history. -/
theorem run_filter_succeeds (r : Request) (steps : List Step) : run r (steps.filter Step.succeeds) = run r steps := by
  induction steps generalizing r with
  | nil => rfl
  | cons s steps ih =>
    cases hs : s.succeeds with
    | true => rw [List.filter_cons_of_pos hs, run_cons, run_cons, ih]
    | false => rw [List.filter_cons_of_neg (by simp [hs]), ih, run_cons, Step.applyOrKeep_of_fails hs]

/-- Without the steps that fail, a history gives what it gave before, but for the errors. -/
theorem trace_filter_succeeds (r : Request) (steps : List Step) :
    trace r (steps.filter Step.succeeds) = (trace r steps).filter Except.isOk := by
  induction steps generalizing r with
  | nil => rfl
  | cons s steps ih =>
    have hok : (s.apply r).isOk = s.succeeds := Step.isOk_apply s r
    cases hs : s.succeeds with
    | true =>
      rw [List.filter_cons_of_pos hs, trace, trace, List.filter_cons_of_pos (hok.trans hs), ih]
    | false =>
      rw [List.filter_cons_of_neg (by simp [hs]), trace, List.filter_cons_of_neg (by simp [hok, hs]),
        Step.applyOrKeep_of_fails hs, ih]

/-- What some steps make of a request when none of them starts again: each part is what is set last, or as it was, and
the filters that are added stand behind the others in the order of the steps. -/
def written (start : Request) (steps : List Step) : Request where
  text := (steps.filterMap Step.text?).getLast?.getD start.text
  filters := start.filters ++ steps.filterMap Step.filter?
  ids := (steps.filterMap Step.ids?).getLast?.getD start.ids
  size := (steps.filterMap Step.size?).getLast?.or start.size
  offset := (steps.filterMap Step.offset?).getLast?.or start.offset

theorem getLast?_filterMap_cons {α : Type} (f : Step → Option α) (s : Step) (steps : List Step) :
    ((s :: steps).filterMap f).getLast? = (steps.filterMap f).getLast?.or (f s) := by
  cases hs : f s with
  | none => rw [List.filterMap_cons_none hs, Option.or_none]
  | some a =>
    rw [List.filterMap_cons_some hs, List.getLast?_cons]
    cases (steps.filterMap f).getLast? <;> rfl

/-- What a step writes and what the steps behind it write is what they write together. -/
theorem written_cons (h : s.start? = none) (r : Request) (steps : List Step) :
    (s.applyOrKeep r).written steps = r.written (s :: steps) := by
  have hgetD {α : Type} (o o' : Option α) (a : α) : (o.or o').getD a = o.getD (o'.getD a) := by cases o <;> rfl
  have hfilters : (s :: steps).filterMap Step.filter? = s.filter?.toList ++ steps.filterMap Step.filter? := by
    cases hf : s.filter? with
    | none => rw [List.filterMap_cons_none hf]; rfl
    | some f => rw [List.filterMap_cons_some hf]; rfl
  rw [Step.applyOrKeep_eq h]
  simp only [written, getLast?_filterMap_cons, hgetD, Option.or_assoc, hfilters, List.append_assoc]

/-- A run of steps that do not start again. -/
theorem run_eq_written (h : ∀ s ∈ steps, s.start? = none) (r : Request) : run r steps = r.written steps := by
  induction steps generalizing r with
  | nil => simp [run, written]
  | cons s steps ih =>
    obtain ⟨hs, hsteps⟩ := List.forall_mem_cons.1 h
    rw [run_cons, ih hsteps, written_cons hs]

/-! ## The last start -/

/-- The request from which a history starts for the last time, and the steps behind that. -/
inductive LastStart (first : Request) : List Step → Request → List Step → Prop
  | never {steps : List Step} : (∀ s ∈ steps, s.start? = none) → LastStart first steps first steps
  | again (before : List Step) {after : List Step} {s : Step} {start : Request} : s.start? = some start →
      (∀ t ∈ after, t.start? = none) → LastStart first (before ++ s :: after) start after

theorem exists_lastStart (first : Request) (steps : List Step) : ∃ start after, LastStart first steps start after := by
  induction steps with
  | nil => exact ⟨first, [], .never (by simp)⟩
  | cons s steps ih =>
    obtain ⟨start, after, h⟩ := ih
    cases h with
    | again before hs hafter => exact ⟨start, after, .again (s :: before) hs hafter⟩
    | never hsteps =>
      cases hs : s.start? with
      | none => exact ⟨first, s :: steps, .never (List.forall_mem_cons.2 ⟨hs, hsteps⟩)⟩
      | some start => exact ⟨start, steps, .again [] hs hsteps⟩

/-- Only the last start of a history matters, and what is written behind it. -/
theorem LastStart.run_eq (h : LastStart first steps start after) : run first steps = start.written after := by
  cases h with
  | never hsteps => exact run_eq_written hsteps _
  | again before hs hafter => rw [run_append, run_cons, Step.applyOrKeep_of_start hs, run_eq_written hafter]

/-- The histories write the same into each part, step by step; how the steps for different parts are interleaved is no
matter. -/
structure SameWrites (steps steps' : List Step) : Prop where
  text : steps.filterMap Step.text? = steps'.filterMap Step.text?
  filters : steps.filterMap Step.filter? = steps'.filterMap Step.filter?
  ids : steps.filterMap Step.ids? = steps'.filterMap Step.ids?
  size : steps.filterMap Step.size? = steps'.filterMap Step.size?
  offset : steps.filterMap Step.offset? = steps'.filterMap Step.offset?

theorem written_congr (h : SameWrites after after') (start : Request) : start.written after = start.written after' := by
  simp only [written, h.text, h.filters, h.ids, h.size, h.offset]

/-- **What a history leaves.** A step that fails leaves the request as it was, on whatever request it is tried, so the
steps that fail can be left out: the history ends in the same request, and the other steps give what they gave before.
Every history has a last start, which is the first request where no step starts again; in the end each part is what was
set last since then, or what it was at the start, and the filters are those of the start and behind them all that were
added, in the order of the steps. So histories end in one request and in one search body where they start from one
request for the last time and write the same into each part from there on. -/
theorem run_history (first : Request) (steps : List Step) :
    (∀ (s : Step) (r : Request), s.succeeds = false ↔ ∃ e, s.apply r = .error e) ∧
    (∀ (s : Step) (r : Request), s.succeeds = false → s.applyOrKeep r = r) ∧
    run first (steps.filter Step.succeeds) = run first steps ∧
    trace first (steps.filter Step.succeeds) = (trace first steps).filter Except.isOk ∧
    (∃ start after, LastStart first steps start after) ∧
    ∀ start after, LastStart first steps start after →
      run first steps = start.written after ∧
      ∀ steps' after', LastStart first steps' start after' → SameWrites after after' →
        run first steps = run first steps' ∧
        SearchBody.ofRequest (run first steps) = SearchBody.ofRequest (run first steps') := by
  refine ⟨Step.succeeds_eq_false_iff, fun s r hs => Step.applyOrKeep_of_fails hs r, run_filter_succeeds first steps,
    trace_filter_succeeds first steps, exists_lastStart first steps, fun start after hlast => ⟨hlast.run_eq, ?_⟩⟩
  intro steps' after' hlast' hsame
  have hrun : run first steps = run first steps' := by
    rw [hlast.run_eq, hlast'.run_eq, written_congr hsame]
  exact ⟨hrun, congrArg SearchBody.ofRequest hrun⟩

/-- A history that loads a request, with two steps that fail, and the same steps behind the load in another order. -/
theorem run_history_interleaved :
    let base : Step := .load "\x7b\"q\":\"abc\",\"from\":5\x7d"
    let owner : Step := .readFilter "\x7b\"type\":\"exists\",\"field\":\"b\"\x7d"
    let f : Filter := ⟨.fieldExists "a", true⟩
    let steps : List Step :=
      [.setIds [.null], base, .setSize 10, .load "[6]", .addFilter f, .setText "x", .readFilter "\x7b\x7d", owner]
    let others : List Step := [base, .addFilter f, owner, .setText "x", .setSize 10]
    let last : Request :=
      { text := "x", filters := [f, ⟨.fieldExists "b", false⟩], size := some 10, offset := some 5 }
    run .empty steps = last ∧ run .empty others = last := by
  intro base owner f steps others last
  let start : Request := { text := "abc", offset := some 5 }
  have hbase : base.start? = some start := by rfl
  have hnever (l : List Step) (h : (l.all fun s => s.start?.isNone) = true) : ∀ s ∈ l, s.start? = none := by
    simpa using h
  have hsteps : LastStart .empty steps start steps.tail.tail :=
    .again [.setIds [.null]] hbase (hnever steps.tail.tail (by rfl))
  have hothers : LastStart .empty others start others.tail :=
    .again [] hbase (hnever others.tail (by rfl))
  have hsame : SameWrites steps.tail.tail others.tail := ⟨rfl, by rfl, rfl, rfl, rfl⟩
  obtain ⟨hrun, hagree⟩ := (run_history .empty steps).2.2.2.2.2 start steps.tail.tail hsteps
  have hlast : start.written steps.tail.tail = last := by rfl
  exact ⟨hrun.trans hlast, (hagree others others.tail hothers hsame).1.symm.trans (hrun.trans hlast)⟩

end Request

end QueryDsl
