import QueryDsl.Proofs.Json.Framing
import QueryDsl.Proofs.Json.Printable

/-!
# What values are read

A property that the scalars have, and that arrays and objects have when what they hold has it, is had by every value
that is read (`of_readValue`). So a text is never read as a value with a key twice in an object (`wellFormed_of_parse`)
or with more levels than the reader takes (`depth_le_of_parse`).
-/

namespace QueryDsl.Json

open Checks

namespace ItemReader

variable {α : Type} {r : ItemReader α} {IsText : List Char → α → Prop} {P : α → Prop}

/-- Where every item that is read has a property, the texts are of items that have it. -/
theorem TextsOf.and (hr : r.TextsOf IsText) (h : ∀ {cs a behind}, r.read cs = .ok (a, behind) → P a) :
    r.TextsOf fun text a => IsText text a ∧ P a where
  of_read hread hbehind :=
    let ⟨text, hcs, htext⟩ := hr.of_read hread hbehind
    ⟨text, hcs, htext, h hread⟩
  of_blanks htext blanks := ⟨hr.of_blanks htext.1 blanks, htext.2⟩
  reads htext := hr.reads htext.1

/-- A list is read as items that all have the property of the items that are read. -/
theorem TextsOf.exists_items (hr : r.TextsOf IsText) (h : ∀ {cs a behind}, r.read cs = .ok (a, behind) → P a)
    {cs rest : List Char} {v : Json} (hread : readValue (r.depth + 1) (r.opening :: cs) = .ok (v, rest)) :
    ∃ items, v = r.value items ∧ ∀ a ∈ items, P a := by
  rcases (hr.and h).exists_texts_of_readValue hread with ⟨-, -, rfl⟩ | ⟨texts, items, -, -, hitems, rfl⟩
  · exact ⟨[], rfl, by simp⟩
  · obtain ⟨pairs, -, rfl⟩ := exists_pairs hitems
    exact ⟨_, rfl, List.forall_mem_map.2 fun p _ => p.2.2⟩

end ItemReader

/-- The value of a member that is read is read. -/
theorem exists_readValue_of_readMember {item : List Char → Reading Json} {cs behind : List Char} {m : String × Json}
    (h : readMember item cs = .ok (m, behind)) : ∃ cs', item cs' = .ok (m.2, behind) := by
  unfold readMember at h
  split at h
  · obtain ⟨⟨key, rest⟩, -, h⟩ := bind_eq_ok.1 h
    dsimp only at h
    split at h
    · cases h
    · obtain ⟨⟨v, rest'⟩, hv, h⟩ := bind_eq_ok.1 h
      cases h
      exact ⟨_, hv⟩
    · cases h
  · cases h

theorem forall_mem_putAll {p : String × Json → Prop} {ms : List (String × Json)} (h : ∀ m ∈ ms, p m) :
    ∀ m ∈ putAll ms, p m := by
  suffices hrun : ∀ done : List (String × Json), (∀ m ∈ done, p m) →
      ∀ m ∈ ms.foldl (fun done m => put m.1 m.2 done) done, p m from hrun [] (by simp)
  induction ms with
  | nil => exact fun _ hdone => hdone
  | cons m ms ih =>
    obtain ⟨hm, hms⟩ := List.forall_mem_cons.1 h
    exact fun done hdone => ih hms _ (forall_mem_put hm hdone)

/-- A value that begins with no bracket and no brace is a scalar. -/
theorem of_readValue_of_lists {P : Json → Prop} {depth : Nat} (hscalar : ∀ {v}, v.arr? = none → v.obj? = none → P v)
    (hlist : ∀ {c cs rest v}, c = '[' ∨ c = '{' → readValue depth (c :: cs) = .ok (v, rest) → P v)
    {cs rest : List Char} {v : Json} (h : readValue depth cs = .ok (v, rest)) : P v := by
  obtain ⟨-, c, token, -, hblank, hread⟩ := exists_token_of_readValue h
  by_cases hopen : c = '[' ∨ c = '{'
  · exact hlist hopen hread
  · obtain ⟨hbracket, hbrace⟩ := not_or.1 hopen
    obtain ⟨-, hnoArray, hnoObject⟩ := takes_of_readValue hblank hbracket hbrace hread
    exact hscalar hnoArray hnoObject

/-- **Induction on what is read**, with so many levels left. -/
theorem of_readValue {P : Nat → Json → Prop} (hscalar : ∀ {depth v}, v.arr? = none → v.obj? = none → P depth v)
    (harr : ∀ {depth xs}, (∀ x ∈ xs, P depth x) → P (depth + 1) (.arr xs))
    (hobj : ∀ {depth ms}, (ms.map Prod.fst).Nodup → (∀ m ∈ ms, P depth m.2) → P (depth + 1) (.obj ms))
    {depth : Nat} {cs rest : List Char} {v : Json} (h : readValue depth cs = .ok (v, rest)) : P depth v := by
  induction depth generalizing cs rest v with
  | zero =>
    refine of_readValue_of_lists hscalar (fun {c cs rest v} hopen h => ?_) h
    rcases hopen with rfl | rfl <;> rw [readValue.eq_def, skipBlank_cons (by decide)] at h <;> cases h
  | succ depth ih =>
    refine of_readValue_of_lists hscalar (fun {c cs rest v} hopen h => ?_) h
    rcases hopen with rfl | rfl
    · obtain ⟨xs, rfl, hxs⟩ := (textsOf_elements (local_readValue depth)).exists_items ih h
      rw [ItemReader.value_elements]
      exact harr hxs
    · have hmember {cs behind : List Char} {m : String × Json} (hread : (members depth).read cs = .ok (m, behind)) :
          P depth m.2 :=
        let ⟨_, hvalue⟩ := exists_readValue_of_readMember hread
        ih hvalue
      obtain ⟨ms, rfl, hms⟩ := (textsOf_members (local_readValue depth)).exists_items hmember h
      exact hobj (nodup_map_fst_putAll ms) (forall_mem_putAll hms)

theorem exists_readValue_of_parse {s : String} {v : Json} (h : parse s = .ok v) :
    ∃ cs rest, readValue greatestDepth cs = .ok (v, rest) := by
  obtain ⟨-, trail, c, cs, -, -, hread⟩ := exists_token_of_parse h
  exact ⟨_, _, hread⟩

/-- What a text is read as has no more levels than the reader takes. -/
theorem depth_le_of_parse {s : String} {v : Json} (h : parse s = .ok v) : v.depth ≤ greatestDepth := by
  obtain ⟨cs, rest, hread⟩ := exists_readValue_of_parse h
  refine of_readValue (P := fun depth v => v.depth ≤ depth) (fun {depth v} hnoArray hnoObject => ?_) ?_ ?_ hread
  · cases v <;> simp_all [Json.depth, arr?, obj?]
  · exact fun hxs => Nat.succ_le_succ (depthElements_le.2 hxs)
  · exact fun _ hms => Nat.succ_le_succ (depthMembers_le.2 hms)

/-- What a text is read as has each key of an object once. -/
theorem wellFormed_of_parse {s : String} {v : Json} (h : parse s = .ok v) : v.WellFormed := by
  obtain ⟨cs, rest, hread⟩ := exists_readValue_of_parse h
  refine of_readValue (P := fun _ v => v.WellFormed) (fun {depth v} hnoArray hnoObject => ?_) ?_ ?_ hread
  · cases v <;> simp_all [WellFormed, arr?, obj?]
  · exact fun hxs => wellFormedElements_iff.2 hxs
  · exact fun hkeys hms => ⟨hkeys, wellFormedMembers_iff.2 hms⟩

end QueryDsl.Json
