import QueryDsl.Proofs.Json.Readable
import QueryDsl.Proofs.Json.StringText

/-!
# Printed values are read back

The text of an array or of an object is the texts of its items, laid out in a style (`text_arr`, `text_obj` with
`itemsText`). Where each item is read from its text, the list is read from the layout, since a layout puts nothing but
blanks around the items (`ItemReader.isTextOf_itemsText`).

- `isTextOf_text`: the text of a printable value in whatever style is read as the value, if it has no more levels than
  are left.
- `parse_text_iff`: the text of a printable value is read as the value exactly where its levels are not too many.
-/

namespace QueryDsl.Json

open Checks

/-! ## Layouts -/

/-- The texts of some items between brackets: each on a line of its own, in a style that has lines. -/
def itemsText (opening closing : Char) (style : Style) : List (List Char) → List Char
  | [] => [opening, closing]
  | text :: texts => opening :: (style.nested.lineBreak ++ text
      ++ texts.flatMap (fun text => ',' :: style.nested.lineBreak ++ text)) ++ style.lineBreak ++ [closing]

/-- The text of a member. -/
def memberText (style : Style) (m : String × Json) : List Char := stringText m.1 ++ style.colon ++ text m.2 style

theorem elementsText_eq (xs : List Json) (style : Style) :
    elementsText xs style = (xs.map (text · style)).flatMap fun text => ',' :: style.lineBreak ++ text := by
  induction xs with
  | nil => rfl
  | cons x xs ih => simp [elementsText, ih]

theorem membersText_eq (ms : List (String × Json)) (style : Style) :
    membersText ms style = (ms.map (memberText style)).flatMap fun text => ',' :: style.lineBreak ++ text := by
  induction ms with
  | nil => rfl
  | cons m ms ih => simp [membersText, memberText, ih]

theorem text_arr (xs : List Json) (style : Style) :
    text (.arr xs) style = itemsText '[' ']' style (xs.map (text · style.nested)) := by
  cases xs with
  | nil => rfl
  | cons x xs => simp [text, itemsText, elementsText_eq]

theorem text_obj (ms : List (String × Json)) (style : Style) :
    text (.obj ms) style = itemsText '{' '}' style (ms.map (memberText style.nested)) := by
  cases ms with
  | nil => rfl
  | cons m ms => simp [text, itemsText, membersText_eq, memberText]

/-- A new line holds blanks only. -/
def Style.break (style : Style) : Blanks := ⟨style.lineBreak, by
  cases style with
  | compact => simp [lineBreak]
  | indented depth =>
    intro c hc
    rcases List.mem_cons.1 hc with rfl | hc
    · decide
    · obtain rfl := List.eq_of_mem_replicate hc
      decide⟩

/-- What separates a key from its value is a colon with blanks behind it. -/
theorem Style.exists_colon (style : Style) : ∃ blanks : Blanks, style.colon = ':' :: blanks.val := by
  cases style with
  | compact => exact ⟨⟨[], by simp⟩, rfl⟩
  | indented depth => exact ⟨⟨[' '], by simp [isBlank]⟩, rfl⟩

/-! ## Texts that are read whole -/

section Texts

variable {α : Type} {read : List Char → Reading α} {text : List Char} {a : α}

/-- The text begins with no blank, and it is read as the item before whatever ends a numeral. -/
structure IsTextOf (read : List Char → Reading α) (text : List Char) (a : α) : Prop where
  begins : ∃ c cs, text = c :: cs ∧ isBlank c = false
  read_append : ∀ rest, EndsNumeral rest → read (text ++ rest) = .ok (a, rest)

theorem IsTextOf.reads (h : IsTextOf read text a) (lead trail : Blanks) :
    Reads read (lead.val ++ text ++ trail.val) a := by
  intro c rest hc
  refine ⟨trail.val ++ c :: rest, ?_, by rw [skipBlank_append, skipBlank_cons hc.isBlank_eq_false]⟩
  have hskip : skipBlank (text ++ (trail.val ++ c :: rest)) = text ++ (trail.val ++ c :: rest) := by
    obtain ⟨d, cs, rfl, hd⟩ := h.begins
    exact skipBlank_cons hd
  rw [List.append_assoc, List.append_assoc, skipBlank_append, hskip,
    h.read_append _ (endsNumeral_blanks trail hc rest)]

end Texts

/-! ## Lists -/

namespace ItemReader

variable {α : Type} (r : ItemReader α)

/-- Items between commas with the blanks of a layout around them. -/
def spread (style : Style) : List (List Char) → List (List Char)
  | [] => []
  | [text] => [style.nested.lineBreak ++ text ++ style.lineBreak]
  | text :: other :: texts => (style.nested.lineBreak ++ text ++ []) :: spread style (other :: texts)

theorem intercalate_spread (style : Style) (text : List Char) : ∀ texts : List (List Char),
    [','].intercalate (spread style (text :: texts)) = style.nested.lineBreak ++ text
      ++ texts.flatMap (fun text => ',' :: style.nested.lineBreak ++ text) ++ style.lineBreak
  | [] => by simp [spread]
  | [other] => by simp [spread, List.intercalate_cons_cons]
  | other :: third :: texts => by
    have ih := intercalate_spread style other (third :: texts)
    rw [spread, spread, List.intercalate_cons_cons, ← spread, ih]
    simp

theorem text_spread (style : Style) (texts : List (List Char)) :
    r.text (spread style texts) = itemsText r.opening r.closing style texts := by
  cases texts with
  | nil => simp [spread, text, itemsText]
  | cons first texts => simp [text, intercalate_spread, itemsText]

/-- A layout puts blanks around the items. -/
theorem reads_spread (style : Style) : ∀ {texts : List (List Char)} {items : List α},
    List.Forall₂ (IsTextOf r.read) texts items → List.Forall₂ (Reads r.read) (spread style texts) items
  | [], _, h => by
    obtain rfl := List.forall₂_nil_left_iff.1 h
    exact .nil
  | [text], _, h => by
    obtain ⟨a, _, ha, hnil, rfl⟩ := List.forall₂_cons_left_iff.1 h
    obtain rfl := List.forall₂_nil_left_iff.1 hnil
    exact .cons (ha.reads style.nested.break style.break) .nil
  | text :: other :: texts, _, h => by
    obtain ⟨a, items, ha, htail, rfl⟩ := List.forall₂_cons_left_iff.1 h
    exact .cons (ha.reads style.nested.break ⟨[], by simp⟩) (reads_spread style htail)

/-- **Items in a layout.** Where each item is read from its text, the list is read from the layout of the texts. -/
theorem isTextOf_itemsText (style : Style) {texts : List (List Char)} {items : List α}
    (h : List.Forall₂ (IsTextOf r.read) texts items) :
    IsTextOf (readValue (r.depth + 1)) (itemsText r.opening r.closing style texts) (r.value items) := by
  rw [← text_spread]
  refine ⟨⟨r.opening, _, rfl, r.opening_no_blank⟩, fun rest _ => ?_⟩
  exact r.readValue_text (r.reads_spread style h) ⟨[], by simp⟩ rest

end ItemReader

/-! ## Scalars -/

theorem isTextOf_integerText (n : Integer) (depth : Nat) :
    IsTextOf (readValue depth) (integerText n.value) (.num (.int n)) := by
  obtain ⟨c, cs, htext, hc⟩ := (IntegerLiteral.ofInteger n).exists_text_eq_cons
  have hinteger := (IntegerLiteral.ofInteger n).integer?_numeral_eq_some.2
    ⟨IntegerLiteral.fits_ofInteger n, (IntegerLiteral.value_ofInteger n).symm⟩
  rw [← IntegerLiteral.text_ofInteger]
  refine ⟨⟨c, cs, htext, isBlank_of_begins hc⟩, fun rest hrest => ?_⟩
  have hread := (IntegerLiteral.ofInteger n).isNumeralText.read_append hrest
  rw [Numeral.value, hinteger] at hread
  rw [htext, List.cons_append] at hread ⊢
  rw [readValue_numeral hc, hread]
  rfl

theorem isTextOf_stringText (s : String) (depth : Nat) : IsTextOf (readValue depth) (stringText s) (.str s) := by
  refine ⟨⟨'"', _, rfl, by decide⟩, fun rest _ => ?_⟩
  rw [stringText, List.cons_append, List.cons_append, readValue_string, StringLiteral.read_escaped]
  rfl

theorem readWord_append (v : Json) (word rest : List Char) : readWord v word (word ++ rest) = .ok (v, rest) := by
  induction word with
  | nil => rfl
  | cons c word ih => rw [List.cons_append, readWord, if_pos rfl, ih]

theorem isTextOf_word {c : Char} {word : List Char} {v : Json} (h : (c, word, v) ∈ words) (depth : Nat) :
    IsTextOf (readValue depth) (c :: word) v := by
  have hblank : isBlank c = false :=
    of_mem_words (P := fun c _ _ => isBlank c = false) (by decide) (by decide) (by decide) h
  refine ⟨⟨c, word, rfl, hblank⟩, fun rest _ => ?_⟩
  rw [List.cons_append, readValue_word h, readWord_append]

/-! ## Values -/

theorem isBlank_of_mem_nil : ∀ c ∈ ([] : List Char), isBlank c = true := by simp

/-- A key between quotes as it is printed. -/
def KeyText.printed (key : String) : KeyText key where
  lead := ⟨[], isBlank_of_mem_nil⟩
  name := key.toList.flatMap escapedChar ++ ['"']
  read_name := StringLiteral.read_escaped key
  trail := ⟨[], isBlank_of_mem_nil⟩

theorem isTextOf_memberText (style : Style) {key : String} {v : Json} {depth : Nat}
    (h : IsTextOf (readValue depth) (text v style) v) :
    IsTextOf (members depth).read (memberText style (key, v)) (key, v) := by
  obtain ⟨blanks, hcolon⟩ := style.exists_colon
  have htext : memberText style (key, v) = (KeyText.printed key).member (blanks.val ++ text v style) := by
    simp [memberText, stringText, KeyText.member, KeyText.printed, hcolon]
  refine ⟨⟨'"', _, rfl, by decide⟩, fun rest hrest => ?_⟩
  have hskip : skipBlank (memberText style (key, v) ++ rest) = memberText style (key, v) ++ rest :=
    skipBlank_cons (by decide)
  have hvalue : readValue depth (blanks.val ++ text v style ++ rest) = .ok (v, rest) := by
    rw [← readValue_skipBlank, List.append_assoc, skipBlank_append, readValue_skipBlank, h.read_append rest hrest]
  show readMember (readValue depth) (memberText style (key, v) ++ rest) = .ok ((key, v), rest)
  rw [← hskip, htext, KeyText.readMember_member, hvalue]
  rfl

/-- A key that is not there is set behind the others. -/
theorem put_of_forall_ne {key : String} {v : Json} {ms : List (String × Json)} (h : ∀ m ∈ ms, m.1 ≠ key) :
    put key v ms = ms ++ [(key, v)] := by
  induction ms with
  | nil => rfl
  | cons m ms ih =>
    obtain ⟨hm, hms⟩ := List.forall_mem_cons.1 h
    rw [put, if_neg hm, ih hms, List.cons_append]

/-- Members whose keys are apart are set one behind the other. -/
theorem putAll_eq_self {ms : List (String × Json)} (h : (ms.map Prod.fst).Nodup) : putAll ms = ms := by
  suffices hrun : ∀ (ms done : List (String × Json)), ((done ++ ms).map Prod.fst).Nodup →
      ms.foldl (fun done m => put m.1 m.2 done) done = done ++ ms from hrun ms [] h
  intro ms
  induction ms with
  | nil => exact fun done _ => (List.append_nil done).symm
  | cons m ms ih =>
    intro done h
    have hnew : ∀ n ∈ done, n.1 ≠ m.1 := by
      rw [List.map_append, List.map_cons, List.nodup_append] at h
      exact fun n hn => h.2.2 n.1 (List.mem_map_of_mem hn) m.1 List.mem_cons_self
    rw [List.foldl_cons, put_of_forall_ne hnew, ih _ (by simpa using h), List.append_assoc, List.singleton_append]

mutual

/-- The text of a printable value is read as the value. -/
theorem isTextOf_text : ∀ {v : Json} {depth : Nat} (style : Style), v.Printable → v.depth ≤ depth →
    IsTextOf (readValue depth) (text v style) v
  | .null, depth, style, _, _ => isTextOf_word (by simp [words]) depth
  | .bool true, depth, style, _, _ => isTextOf_word (by simp [words]) depth
  | .bool false, depth, style, _, _ => isTextOf_word (by simp [words]) depth
  | .num n, depth, style, hv, _ => by
    obtain ⟨n, rfl⟩ := printable_num.1 hv
    exact isTextOf_integerText n depth
  | .str s, depth, style, _, _ => isTextOf_stringText s depth
  | .arr xs, 0, style, _, hdepth => absurd hdepth (by simp [Json.depth])
  | .arr xs, depth + 1, style, hv, hdepth => by
    have hitems := isTextOf_elements style.nested (printable_arr.1 hv) (Nat.le_of_succ_le_succ hdepth)
    have hlist := (elements depth).isTextOf_itemsText style hitems
    rw [ItemReader.value_elements] at hlist
    rw [text_arr]
    exact hlist
  | .obj ms, 0, style, _, hdepth => absurd hdepth (by simp [Json.depth])
  | .obj ms, depth + 1, style, hv, hdepth => by
    obtain ⟨hkeys, hvalues⟩ := printable_obj.1 hv
    have hitems := isTextOf_members style.nested hvalues (Nat.le_of_succ_le_succ hdepth)
    have hlist := (members depth).isTextOf_itemsText style hitems
    rw [value_members, putAll_eq_self hkeys] at hlist
    rw [text_obj]
    exact hlist

theorem isTextOf_elements : ∀ {xs : List Json} {depth : Nat} (style : Style), (∀ x ∈ xs, x.Printable) →
    depthElements xs ≤ depth →
    List.Forall₂ (IsTextOf (elements depth).read) (xs.map (text · style)) xs
  | [], _, _, _, _ => .nil
  | x :: xs, depth, style, hxs, hdepth => by
    obtain ⟨hx, hxs⟩ := List.forall_mem_cons.1 hxs
    rw [depthElements, Nat.max_le] at hdepth
    exact .cons (isTextOf_text style hx hdepth.1) (isTextOf_elements style hxs hdepth.2)

theorem isTextOf_members : ∀ {ms : List (String × Json)} {depth : Nat} (style : Style), (∀ m ∈ ms, m.2.Printable) →
    depthMembers ms ≤ depth →
    List.Forall₂ (IsTextOf (members depth).read) (ms.map (memberText style)) ms
  | [], _, _, _, _ => .nil
  | (key, v) :: ms, depth, style, hms, hdepth => by
    obtain ⟨hv, hms⟩ := List.forall_mem_cons.1 hms
    rw [depthMembers, Nat.max_le] at hdepth
    exact .cons (isTextOf_memberText style (isTextOf_text style hv hdepth.1)) (isTextOf_members style hms hdepth.2)

end

/-- **Printed values are read back.** The text of a printable value, in whatever style, is read as the value if it has
no more levels than the reader takes, and else it is not. -/
theorem parse_text_iff {v : Json} (hv : v.Printable) (style : Style) :
    parse (String.ofList (v.text style)) = .ok v ↔ v.depth ≤ greatestDepth := by
  constructor
  · exact depth_le_of_parse
  · intro hdepth
    refine parse_eq_ok ⟨[], by simp⟩ ?_
    have hread := (isTextOf_text style hv hdepth).read_append [] (by simp [EndsNumeral])
    rwa [List.append_nil, ← String.toList_ofList (l := v.text style)] at hread

end QueryDsl.Json
