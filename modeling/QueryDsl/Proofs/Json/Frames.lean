import QueryDsl.Proofs.Json.ItemTexts
import QueryDsl.Proofs.Json.Lookup

/-!
# Texts with a place for an item

A frame is the text of an array or of an object in which one item is left open (`Frame`), for an object all but the
key (`ObjectFrame`). With the text of an item in its place it is read as the list with this item (`Frame.parse_text`),
and a number out of range there decides the error (`Frame.parse_text_outOfRange`).
-/

namespace QueryDsl.Json

/-- The levels that are left inside a list that is a whole text. -/
abbrev innerDepth : Nat := greatestDepth - 1

/-! ## Frames -/

/-- An item and a text of it. -/
structure Item {α : Type} (r : ItemReader α) where
  text : List Char
  item : α
  reads : Reads r.read text item

/-- The items before and behind one place of a list, and the blanks around the list. -/
structure Frame {α : Type} (r : ItemReader α) where
  lead : Blanks
  before : List (Item r)
  after : List (Item r)
  trail : Blanks

theorem parse_eq_ok {s : String} {v : Json} (trail : Blanks)
    (h : readValue greatestDepth s.toList = .ok (v, trail.val)) : parse s = .ok v := by
  rw [parse, readDocument, h]
  simp only [skipBlank_blanks]
  rfl

theorem parse_eq_error {s : String} {fault : Fault} (h : readValue greatestDepth s.toList = .error fault) :
    ∃ line column, parse s = .error ⟨fault.cause, line, column⟩ := by
  rw [parse, readDocument, h]
  exact ⟨_, _, rfl⟩

namespace Frame

variable {α : Type} {r : ItemReader α} (f : Frame r)

/-- The text with another text in the place. -/
def text (hole : List Char) : String :=
  String.ofList (f.lead.val ++ r.text (f.before.map Item.text ++ hole :: f.after.map Item.text) ++ f.trail.val)

/-- The items with another one in the place. -/
def items (a : α) : List α := f.before.map Item.item ++ a :: f.after.map Item.item

theorem reads_items (items : List (Item r)) :
    List.Forall₂ (Reads r.read) (items.map Item.text) (items.map Item.item) := by
  rw [List.forall₂_map_left_iff, List.forall₂_map_right_iff, List.forall₂_same]
  exact fun i _ => i.reads

variable {hole : List Char}

/-- The text of an item in its place is read as the item. -/
theorem parse_text (hdepth : r.depth + 1 = greatestDepth) {a : α} (h : Reads r.read hole a) :
    parse (f.text hole) = .ok (r.value (f.items a)) := by
  refine parse_eq_ok f.trail ?_
  rw [text, String.toList_ofList, ← hdepth]
  exact r.readValue_text (List.rel_append (reads_items f.before) (.cons h (reads_items f.after))) f.lead f.trail.val

/-- A number out of range in the place decides the error. -/
theorem parse_text_outOfRange (hdepth : r.depth + 1 = greatestDepth) (h : OutOfRange r.read hole) :
    ∃ line column, parse (f.text hole) = .error ⟨.numberOutOfRange, line, column⟩ := by
  obtain ⟨fault, hread, hcause⟩ := r.readValue_text_outOfRange (reads_items f.before) h (f.after.map Item.text) f.lead
    f.trail.val
  rw [← hcause]
  refine parse_eq_error ?_
  rw [text, String.toList_ofList, ← hdepth, hread]

end Frame

/-! ## Members -/

/-- A text of a key, up to the value of the member. -/
structure KeyText (key : String) where
  lead : Blanks
  name : List Char
  read_name : ∀ rest, StringLiteral.read (name ++ rest) = .ok (key, rest)
  trail : Blanks

namespace KeyText

variable {key : String} (k : KeyText key) {depth : Nat} {value : List Char}

/-- The text of a member with a text of its value. -/
def member (value : List Char) : List Char := k.lead.val ++ '"' :: k.name ++ k.trail.val ++ ':' :: value

theorem readMember_member (item : List Char → Reading Json) (value rest : List Char) :
    readMember item (skipBlank (k.member value ++ rest)) =
      (item (value ++ rest)).map fun (v, rest) => ((key, v), rest) := by
  have happend : k.member value ++ rest =
      k.lead.val ++ '"' :: (k.name ++ (k.trail.val ++ ':' :: (value ++ rest))) := by simp [member]
  rw [happend, skipBlank_append, skipBlank_cons (by decide), readMember, k.read_name]
  simp only [bind, Except.bind, skipBlank_append, skipBlank_cons (c := ':') (by decide)]
  cases item (value ++ rest) <;> rfl

theorem reads_member {v : Json} (h : Reads (readValue depth) value v) :
    Reads (members depth).read (k.member value) (key, v) := by
  intro c rest hc
  obtain ⟨behind, hread, hbehind⟩ := h c rest hc
  refine ⟨behind, ?_, hbehind⟩
  rw [readValue_skipBlank] at hread
  show readMember _ _ = _
  rw [readMember_member, hread]
  rfl

theorem outOfRange_member (h : OutOfRange (readValue depth) value) :
    OutOfRange (members depth).read (k.member value) := by
  intro c rest hc
  obtain ⟨fault, hread, hcause⟩ := h c rest hc
  refine ⟨fault, ?_, hcause⟩
  rw [readValue_skipBlank] at hread
  show readMember _ _ = _
  rw [readMember_member, hread]
  rfl

end KeyText

/-! ## Members that are read one after the other -/

/-- The members of an object that is read from some members. A key that comes again takes the new value. -/
def putAll (ms : List (String × Json)) : List (String × Json) := ms.foldl (fun done m => put m.1 m.2 done) []

theorem value_members (depth : Nat) (ms : List (String × Json)) : (members depth).value ms = .obj (putAll ms) := rfl

theorem lookup_foldl_put (key : String) : ∀ (ms done : List (String × Json)),
    (ms.foldl (fun done m => put m.1 m.2 done) done).lookup key = (ms.reverse.lookup key).or (done.lookup key)
  | [], done => rfl
  | (k, v) :: ms, done => by
    rw [List.foldl_cons, lookup_foldl_put key ms, lookup_put, List.reverse_cons, List.lookup_append]
    cases ms.reverse.lookup key with
    | some w => rfl
    | none =>
      by_cases h : key = k
      · simp [h]
      · have hne : (key == k) = false := by simpa using h
        simp [List.lookup_cons, h, hne]

/-- The last of the members with a key counts. -/
theorem lookup_putAll (key : String) (ms : List (String × Json)) : (putAll ms).lookup key = ms.reverse.lookup key := by
  rw [putAll, lookup_foldl_put, List.lookup_nil, Option.or_none]

theorem nodup_map_fst_putAll (ms : List (String × Json)) : ((putAll ms).map Prod.fst).Nodup := by
  suffices h : ∀ (done : List (String × Json)), (done.map Prod.fst).Nodup →
      ((ms.foldl (fun done m => put m.1 m.2 done) done).map Prod.fst).Nodup from h [] List.nodup_nil
  induction ms with
  | nil => exact fun _ h => h
  | cons m ms ih => exact fun done h => ih _ (nodup_map_fst_put m.1 m.2 h)

/-- The text of an object in which the value of one member is left open. No later member has its key. -/
structure ObjectFrame (key : String) extends Frame (members innerDepth) where
  name : KeyText key
  isLast : ∀ m ∈ after, m.item.1 ≠ key

namespace ObjectFrame

variable {key : String} (f : ObjectFrame key)

/-- The text with another text for the value. -/
def fill (value : List Char) : String := f.text (f.name.member value)

/-- The members with another value. -/
def membersWith (v : Json) : List (String × Json) := putAll (f.items (key, v))

theorem lookup_membersWith (v : Json) : (f.membersWith v).lookup key = some v := by
  have hafter : (f.after.map Item.item).reverse.lookup key = none := by
    rw [List.lookup_eq_none_iff]
    intro m hm
    obtain ⟨i, hi, rfl⟩ := List.mem_map.1 (List.mem_reverse.1 hm)
    simpa using fun h => f.isLast i hi h.symm
  rw [membersWith, lookup_putAll, Frame.items, List.reverse_append, List.reverse_cons, List.append_assoc,
    List.lookup_append, hafter]
  simp

/-- The value of one key is no matter for the others. -/
theorem lookup_membersWith_of_ne {name : String} (h : name ≠ key) (v w : Json) :
    (f.membersWith v).lookup name = (f.membersWith w).lookup name := by
  have hne : (name == key) = false := by simpa using h
  simp only [membersWith, lookup_putAll, Frame.items, List.reverse_append, List.reverse_cons, List.lookup_append,
    List.lookup_cons, hne]

/-! ## Without the key -/

/-- The members with other keys. -/
def others : List (Item (members innerDepth)) := (f.before ++ f.after).filter fun i => i.item.1 != key

/-- The text without the members that have the key. -/
def without : String :=
  String.ofList (f.lead.val ++ (members innerDepth).text (f.others.map Item.text) ++ f.trail.val)

/-- The members without those that have the key. -/
def membersWithout : List (String × Json) := putAll (f.others.map Item.item)

theorem parse_without : parse f.without = .ok (.obj f.membersWithout) := by
  refine parse_eq_ok f.trail ?_
  rw [without, String.toList_ofList]
  exact (members innerDepth).readValue_text (Frame.reads_items f.others) f.lead f.trail.val

theorem map_item_others (v : Json) : f.others.map Item.item = (f.items (key, v)).filter fun m => m.1 != key := by
  simp [others, Frame.items, List.filter_map, Function.comp_def]

/-- Under the key there is nothing, and the rest is as with any value under it. -/
theorem lookup_membersWithout (v : Json) (name : String) :
    f.membersWithout.lookup name = if name = key then none else (f.membersWith v).lookup name := by
  rw [membersWithout, membersWith, lookup_putAll, lookup_putAll, f.map_item_others v, ← List.filter_reverse,
    Members.lookup_filter_key fun k => k != key]
  by_cases h : name = key <;> simp [h]

end ObjectFrame

end QueryDsl.Json
