import Mathlib.Data.List.DropRight
import Mathlib.Data.List.Forall2
import Mathlib.Data.List.TakeWhile
import QueryDsl.Json.Reader

/-!
# Texts of arrays and objects

The elements of an array and the members of an object are items with commas between them (`ItemReader`). A text is one
of an item where it is read as this item, whatever closes it (`Reads`).

- A step over an item that another one follows (`ItemReader.step`), and a run over all of them (`ItemReader.run`,
  `ItemReader.run_outOfRange`): they are taken in their order, up to a number that is out of range.
- A list of items is read from the texts of the items (`ItemReader.readValue_text`,
  `ItemReader.readValue_text_outOfRange`).
-/

namespace QueryDsl.Json

/-! ## Blanks -/

/-- Characters between two tokens. -/
abbrev Blanks := {cs : List Char // ∀ c ∈ cs, isBlank c = true}

theorem exists_blanks (cs : List Char) : ∃ blanks : Blanks, cs = blanks.val ++ skipBlank cs :=
  let ⟨blanks, hcs, hblank⟩ := exists_append_skipBlank cs
  ⟨⟨blanks, hblank⟩, hcs⟩

theorem skipBlank_append (blanks : Blanks) (cs : List Char) : skipBlank (blanks.val ++ cs) = skipBlank cs :=
  List.dropWhile_append_of_pos blanks.2

theorem skipBlank_blanks (blanks : Blanks) : skipBlank blanks.val = [] :=
  List.dropWhile_eq_nil_iff.2 blanks.2

theorem skipBlank_cons {c : Char} {cs : List Char} (h : isBlank c = false) : skipBlank (c :: cs) = c :: cs := by
  rw [skipBlank, List.dropWhile_cons_of_neg (by simp [h])]

@[simp] theorem skipBlank_skipBlank (cs : List Char) : skipBlank (skipBlank cs) = skipBlank cs :=
  List.dropWhile_idempotent isBlank cs

/-- A character that is no blank is never skipped. -/
theorem exists_skipBlank_append {c : Char} (hc : isBlank c = false) (text rest : List Char) :
    ∃ front, skipBlank (text ++ c :: rest) = front ++ c :: rest := by
  rw [skipBlank, List.dropWhile_append]
  split
  · exact ⟨[], skipBlank_cons hc⟩
  · exact ⟨_, rfl⟩

@[simp] theorem readValue_skipBlank (depth : Nat) (cs : List Char) :
    readValue depth (skipBlank cs) = readValue depth cs := by
  rw [readValue.eq_def, readValue.eq_def depth cs, skipBlank_skipBlank]

/-! ## Texts of items -/

/-- A character that may follow an item. -/
def Closes (c : Char) : Prop := c = ',' ∨ c = ']' ∨ c = '}'

theorem Closes.isBlank_eq_false {c : Char} (h : Closes c) : isBlank c = false := by
  rcases h with rfl | rfl | rfl <;> decide

section Texts

variable {α : Type} {read : List Char → Reading α} {text : List Char}

/-- Whatever closes the text, the item is read up to the blanks before that. -/
def Reads (read : List Char → Reading α) (text : List Char) (a : α) : Prop :=
  ∀ c rest, Closes c →
    ∃ behind, read (skipBlank (text ++ c :: rest)) = .ok (a, behind) ∧ skipBlank behind = c :: rest

theorem Reads.append_blanks {a : α} (h : Reads read text a) (blanks : Blanks) : Reads read (blanks.val ++ text) a := by
  intro c rest hc
  obtain ⟨behind, hread, hbehind⟩ := h c rest hc
  exact ⟨behind, by rw [List.append_assoc, skipBlank_append, hread], hbehind⟩

/-- Whatever closes the text, a number in it is out of range. -/
def OutOfRange (read : List Char → Reading α) (text : List Char) : Prop :=
  ∀ c rest, Closes c →
    ∃ fault, read (skipBlank (text ++ c :: rest)) = .error fault ∧ fault.cause = .numberOutOfRange

/-- Whether the text is one of an item, up to a number in it that is out of range. -/
def IsItem (read : List Char → Reading α) (text : List Char) : Prop := (∃ a, Reads read text a) ∨ OutOfRange read text

/-- The first text of some items is closed. -/
theorem exists_intercalate (text : List Char) (texts : List (List Char)) {close : Char} (hclose : Closes close)
    (rest : List Char) :
    ∃ c more, Closes c ∧ [','].intercalate (text :: texts) ++ close :: rest = text ++ c :: more := by
  cases texts with
  | nil => exact ⟨close, rest, hclose, by rw [List.intercalate_singleton]⟩
  | cons other texts =>
    refine ⟨',', [','].intercalate (other :: texts) ++ close :: rest, Or.inl rfl, ?_⟩
    simp [List.intercalate_cons_cons]

theorem intercalate_cons_cons_append (text other : List Char) (texts : List (List Char)) (rest : List Char) :
    [','].intercalate (text :: other :: texts) ++ rest =
      text ++ ',' :: ([','].intercalate (other :: texts) ++ rest) := by
  simp [List.intercalate_cons_cons]

/-- There are no more items than characters. -/
theorem length_le_length_skipBlank {close : Char} (hclose : Closes close) (rest : List Char) :
    ∀ texts : List (List Char), texts.length ≤ (skipBlank ([','].intercalate texts ++ close :: rest)).length
  | [] => Nat.zero_le _
  | [text] => by
    obtain ⟨front, hfront⟩ := exists_skipBlank_append hclose.isBlank_eq_false text rest
    rw [List.intercalate_singleton, hfront, List.length_append, List.length_cons]
    simp
    omega
  | text :: other :: texts => by
    have ih := length_le_length_skipBlank hclose rest (other :: texts)
    have hskip := List.length_dropWhile_le isBlank ([','].intercalate (other :: texts) ++ close :: rest)
    rw [← skipBlank] at hskip
    rw [intercalate_cons_cons_append]
    obtain ⟨front, hfront⟩ := exists_skipBlank_append (c := ',') (by decide) text
      ([','].intercalate (other :: texts) ++ close :: rest)
    rw [hfront, List.length_append]
    simp only [List.length_cons] at ih ⊢
    omega

end Texts

/-! ## Readers of items -/

/-- How a list of items is read. A loop takes the items one by one into a state until the closing character; its
number bounds how many are left. -/
structure ItemReader (α : Type) where
  State : Type
  depth : Nat
  opening : Char
  closing : Char
  read : List Char → Reading α
  empty : State
  take : State → α → State
  result : State → Json
  loop : Nat → State → List Char → Reading Json
  opening_no_blank : isBlank opening = false
  closes : Closes closing
  noItem : ∀ rest, ∃ fault, read (closing :: rest) = .error fault ∧ fault.cause ≠ .numberOutOfRange
  last : ∀ {n s cs a behind rest}, read cs = .ok (a, behind) → skipBlank behind = closing :: rest →
    loop (n + 1) s cs = .ok (result (take s a), rest)
  next : ∀ {n s cs a behind rest c more}, read cs = .ok (a, behind) → skipBlank behind = ',' :: rest →
    skipBlank rest = c :: more → c ≠ closing → loop (n + 1) s cs = loop n (take s a) (c :: more)
  fault : ∀ {n s cs fault}, read cs = .error fault → loop (n + 1) s cs = .error fault
  noItems : ∀ {cs rest}, skipBlank cs = closing :: rest →
    readValue (depth + 1) (opening :: cs) = .ok (result empty, rest)
  items : ∀ {cs c more}, skipBlank cs = c :: more → c ≠ closing →
    readValue (depth + 1) (opening :: cs) = loop ((skipBlank cs).length + 1) empty (skipBlank cs)
  of_loop : ∀ {n s cs v rest}, loop n s cs = .ok (v, rest) → ∃ m a behind, n = m + 1 ∧ read cs = .ok (a, behind) ∧
    (skipBlank behind = closing :: rest ∧ v = result (take s a) ∨
      ∃ more, skipBlank behind = ',' :: more ∧ loop m (take s a) (skipBlank more) = .ok (v, rest))
  of_readValue : ∀ {cs v rest}, readValue (depth + 1) (opening :: cs) = .ok (v, rest) →
    skipBlank cs = closing :: rest ∧ v = result empty ∨ ∃ n, loop n empty (skipBlank cs) = .ok (v, rest)

/-- The elements of an array, with so many levels left for each. -/
def elements (depth : Nat) : ItemReader Json where
  State := List Json
  depth := depth
  opening := '['
  closing := ']'
  read := readValue depth
  empty := []
  take done v := v :: done
  result done := .arr done.reverse
  loop := readElements (readValue depth)
  opening_no_blank := by decide
  closes := Or.inr (Or.inl rfl)
  noItem rest := by
    refine ⟨⟨.expectedValue, ']' :: rest, 1⟩, ?_, Cause.noConfusion⟩
    rw [readValue.eq_def, skipBlank_cons (by decide)]
    rfl
  last hread hbehind := by
    rw [readElements, hread]
    simp only [hbehind]
  next hread hbehind hmore hc := by
    rw [readElements, hread]
    simp only [hbehind, hmore]
    split <;> simp_all
  fault hread := by rw [readElements, hread]
  noItems hcs := by
    rw [readValue.eq_def, skipBlank_cons (by decide)]
    simp [readArray, hcs]
  items hcs hc := by
    rw [readValue.eq_def, skipBlank_cons (by decide)]
    simp only [readArray, hcs]
    split <;> simp_all
  of_loop {n s cs v rest} h := by
    cases n with
    | zero => cases h
    | succ m =>
      rw [readElements] at h
      split at h
      · cases h
      · next a behind hread =>
        refine ⟨m, a, behind, rfl, hread, ?_⟩
        split at h
        · cases h
        · next hclose =>
          cases h
          exact Or.inl ⟨hclose, rfl⟩
        · next more hcomma =>
          split at h
          · cases h
          · exact Or.inr ⟨more, hcomma, h⟩
        · cases h
  of_readValue {cs v rest} h := by
    rw [readValue.eq_def, skipBlank_cons (by decide)] at h
    simp only [readArray] at h
    split at h
    · cases h
    · next hclose =>
      cases h
      exact Or.inl ⟨hclose, rfl⟩
    · exact Or.inr ⟨_, h⟩

/-- The members of an object, with so many levels left for the value of each. A key that comes again takes the new
value. -/
def members (depth : Nat) : ItemReader (String × Json) where
  State := List (String × Json)
  depth := depth
  opening := '{'
  closing := '}'
  read := readMember (readValue depth)
  empty := []
  take done m := put m.1 m.2 done
  result := .obj
  loop := readMembers (readValue depth)
  opening_no_blank := by decide
  closes := Or.inr (Or.inr rfl)
  noItem rest := ⟨⟨.keyNotString, '}' :: rest, 1⟩, rfl, Cause.noConfusion⟩
  last hread hbehind := by
    rw [readMembers, hread]
    simp only [hbehind]
  next hread hbehind hmore hc := by
    rw [readMembers, hread]
    simp only [hbehind, hmore]
    split <;> simp_all
  fault hread := by rw [readMembers, hread]
  noItems hcs := by
    rw [readValue.eq_def, skipBlank_cons (by decide)]
    simp [readObject, hcs]
  items hcs hc := by
    rw [readValue.eq_def, skipBlank_cons (by decide)]
    simp only [readObject, hcs]
    split <;> simp_all
  of_loop {n s cs v rest} h := by
    cases n with
    | zero => cases h
    | succ m =>
      rw [readMembers] at h
      split at h
      · cases h
      · next key value behind hread =>
        refine ⟨m, (key, value), behind, rfl, hread, ?_⟩
        split at h
        · cases h
        · next hclose =>
          cases h
          exact Or.inl ⟨hclose, rfl⟩
        · next more hcomma =>
          split at h
          · cases h
          · cases h
          · exact Or.inr ⟨more, hcomma, h⟩
        · cases h
  of_readValue {cs v rest} h := by
    rw [readValue.eq_def, skipBlank_cons (by decide)] at h
    simp only [readObject] at h
    split at h
    · cases h
    · next hclose =>
      cases h
      exact Or.inl ⟨hclose, rfl⟩
    · exact Or.inr ⟨_, h⟩

namespace ItemReader

variable {α : Type} (r : ItemReader α)

/-- The text of a list with the texts of its items. -/
def text (texts : List (List Char)) : List Char := r.opening :: [','].intercalate texts ++ [r.closing]

/-- The value of a list with its items. -/
def value (items : List α) : Json := r.result (items.foldl r.take r.empty)

theorem value_elements (depth : Nat) (vs : List Json) : (elements depth).value vs = .arr vs := by
  simp [value, elements]

section Items

variable {r} {first other : List Char} {texts : List (List Char)} {rest : List Char} {n : Nat} {s : r.State}

/-- Items do not begin with the closing character. -/
theorem exists_begins (hfirst : IsItem r.read first) (texts : List (List Char)) (rest : List Char) :
    ∃ b more, skipBlank ([','].intercalate (first :: texts) ++ r.closing :: rest) = b :: more ∧ b ≠ r.closing := by
  obtain ⟨c, cs, hc, hcs⟩ := exists_intercalate first texts r.closes rest
  rw [hcs]
  obtain ⟨front, hfront⟩ := exists_skipBlank_append hc.isBlank_eq_false first cs
  cases hbegin : skipBlank (first ++ c :: cs) with
  | nil => simp [hfront] at hbegin
  | cons b more =>
    refine ⟨b, more, rfl, ?_⟩
    rintro rfl
    obtain ⟨fault, hfault, hcause⟩ := r.noItem more
    rcases hfirst with ⟨a, ha⟩ | hout
    · obtain ⟨behind, hread, -⟩ := ha c cs hc
      rw [hbegin, hfault] at hread
      cases hread
    · obtain ⟨fault', hread, hcause'⟩ := hout c cs hc
      rw [hbegin, hfault] at hread
      cases hread
      exact hcause hcause'

/-- A step over an item that another one follows. -/
theorem step {a : α} (ha : Reads r.read first a) (hother : IsItem r.read other) :
    r.loop (n + 1) s (skipBlank ([','].intercalate (first :: other :: texts) ++ r.closing :: rest)) =
      r.loop n (r.take s a) (skipBlank ([','].intercalate (other :: texts) ++ r.closing :: rest)) := by
  rw [intercalate_cons_cons_append]
  obtain ⟨behind, hread, hbehind⟩ := ha ',' ([','].intercalate (other :: texts) ++ r.closing :: rest) (Or.inl rfl)
  obtain ⟨b, more, hmore, hb⟩ := exists_begins hother texts rest
  rw [r.next hread hbehind hmore hb, hmore]

/-- **A run over items.** All of them are taken in their order. -/
theorem run : ∀ {texts : List (List Char)} {items : List α} {n : Nat} {s : r.State}, texts ≠ [] →
    List.Forall₂ (Reads r.read) texts items → texts.length ≤ n →
    r.loop n s (skipBlank ([','].intercalate texts ++ r.closing :: rest)) =
      .ok (r.result (items.foldl r.take s), rest)
  | [], _, _, _, hne, _, _ => absurd rfl hne
  | _ :: _, _, 0, _, _, _, hn => absurd hn (by simp)
  | [text], items, n + 1, s, _, hitems, _ => by
    obtain ⟨a, _, ha, hnil, rfl⟩ := List.forall₂_cons_left_iff.1 hitems
    obtain rfl := List.forall₂_nil_left_iff.1 hnil
    obtain ⟨behind, hread, hbehind⟩ := ha r.closing rest r.closes
    rw [List.intercalate_singleton, r.last hread hbehind, List.foldl_cons, List.foldl_nil]
  | text :: other :: texts, items, n + 1, s, _, hitems, hn => by
    obtain ⟨a, items, ha, htail, rfl⟩ := List.forall₂_cons_left_iff.1 hitems
    obtain ⟨b, _, hb, -⟩ := List.forall₂_cons_left_iff.1 htail
    rw [step ha (Or.inl ⟨b, hb⟩), run (by simp) htail (by simpa using hn), List.foldl_cons]

/-- A run ends at a number that is out of range. -/
theorem run_outOfRange {text : List Char} (htext : OutOfRange r.read text) (after : List (List Char)) :
    ∀ {before : List (List Char)} {items : List α} {n : Nat} {s : r.State},
      List.Forall₂ (Reads r.read) before items → before.length < n →
      ∃ fault, r.loop n s (skipBlank ([','].intercalate (before ++ text :: after) ++ r.closing :: rest)) =
        .error fault ∧ fault.cause = .numberOutOfRange
  | _, _, 0, _, _, hn => absurd hn (Nat.not_lt_zero _)
  | [], _, n + 1, s, _, _ => by
    obtain ⟨c, more, hc, hmore⟩ := exists_intercalate text after r.closes rest
    obtain ⟨fault, hfault, hcause⟩ := htext c more hc
    exact ⟨fault, by rw [List.nil_append, hmore, r.fault hfault], hcause⟩
  | first :: before, items, n + 1, s, hitems, hn => by
    obtain ⟨a, items, ha, htail, rfl⟩ := List.forall₂_cons_left_iff.1 hitems
    -- what follows is the next item that is read, or the one that is out of range
    obtain ⟨other, texts, hcons, hother⟩ : ∃ other texts, before ++ text :: after = other :: texts ∧
        IsItem r.read other := by
      cases before with
      | nil => exact ⟨text, after, rfl, Or.inr htext⟩
      | cons other before =>
        obtain ⟨b, _, hb, -⟩ := List.forall₂_cons_left_iff.1 htail
        exact ⟨other, _, rfl, Or.inl ⟨b, hb⟩⟩
    rw [List.cons_append, hcons, step ha hother, ← hcons]
    exact run_outOfRange htext after htail (Nat.lt_of_succ_lt_succ hn)

end Items

theorem readValue_append_text (lead : Blanks) (texts : List (List Char)) (rest : List Char) :
    readValue (r.depth + 1) (lead.val ++ r.text texts ++ rest) =
      readValue (r.depth + 1) (r.opening :: ([','].intercalate texts ++ r.closing :: rest)) := by
  rw [← readValue_skipBlank, List.append_assoc, skipBlank_append, readValue_skipBlank]
  simp [text]

/-- A list is read from the texts of its items. -/
theorem readValue_text {texts : List (List Char)} {items : List α} (h : List.Forall₂ (Reads r.read) texts items)
    (lead : Blanks) (rest : List Char) :
    readValue (r.depth + 1) (lead.val ++ r.text texts ++ rest) = .ok (r.value items, rest) := by
  rw [readValue_append_text]
  cases h with
  | nil => exact r.noItems (skipBlank_cons r.closes.isBlank_eq_false)
  | cons ha htail =>
    obtain ⟨b, more, hmore, hb⟩ := exists_begins (Or.inl ⟨_, ha⟩) _ rest
    rw [r.items hmore hb, run (by simp) (.cons ha htail)
      (Nat.le_succ_of_le (length_le_length_skipBlank r.closes rest _))]
    rfl

/-- No list is read where a number is out of range. -/
theorem readValue_text_outOfRange {before : List (List Char)} {items : List α}
    (h : List.Forall₂ (Reads r.read) before items) {text : List Char} (htext : OutOfRange r.read text)
    (after : List (List Char)) (lead : Blanks) (rest : List Char) :
    ∃ fault, readValue (r.depth + 1) (lead.val ++ r.text (before ++ text :: after) ++ rest) = .error fault ∧
      fault.cause = .numberOutOfRange := by
  obtain ⟨first, texts, hcons, hfirst⟩ : ∃ first texts, before ++ text :: after = first :: texts ∧
      IsItem r.read first := by
    cases h with
    | nil => exact ⟨text, after, rfl, Or.inr htext⟩
    | cons ha _ => exact ⟨_, _, rfl, Or.inl ⟨_, ha⟩⟩
  obtain ⟨b, more, hmore, hb⟩ := exists_begins hfirst texts rest
  have hlen := length_le_length_skipBlank r.closes rest (before ++ text :: after)
  rw [readValue_append_text, r.items (hcons ▸ hmore) hb]
  refine run_outOfRange htext after h ?_
  rw [List.length_append, List.length_cons] at hlen
  omega

/-- Blanks around a list are no matter. -/
theorem reads_text {texts : List (List Char)} {items : List α} (h : List.Forall₂ (Reads r.read) texts items)
    (lead trail : Blanks) :
    Reads (readValue (r.depth + 1)) (lead.val ++ r.text texts ++ trail.val) (r.value items) := by
  intro c rest hc
  refine ⟨trail.val ++ c :: rest, ?_, ?_⟩
  · rw [readValue_skipBlank, List.append_assoc, r.readValue_text h]
  · rw [skipBlank_append, skipBlank_cons hc.isBlank_eq_false]

theorem outOfRange_text {before : List (List Char)} {items : List α} (h : List.Forall₂ (Reads r.read) before items)
    {text : List Char} (htext : OutOfRange r.read text) (after : List (List Char)) (lead trail : Blanks) :
    OutOfRange (readValue (r.depth + 1)) (lead.val ++ r.text (before ++ text :: after) ++ trail.val) := by
  intro c rest _
  rw [readValue_skipBlank, List.append_assoc]
  exact r.readValue_text_outOfRange h htext after lead (trail.val ++ c :: rest)

end ItemReader

end QueryDsl.Json
