import QueryDsl.Proofs.Json.Locality

/-!
# Every place of a text

What is read as a list is a text of its items, in their order (`ItemReader.exists_texts_of_readValue`), so every value
that a reader finds is read again before whatever follows (`local_readValue`).

- Every member of an object and every element of an array that a text is read as stands in a frame
  (`exists_objectFrame`, `exists_frame`).
-/

namespace QueryDsl.Json

open Checks

/-! ## Lists -/

namespace ItemReader

variable {α : Type} {r : ItemReader α} {IsText : List Char → α → Prop}

/-- Where an item is read, there is a text of it. -/
structure TextsOf (r : ItemReader α) (IsText : List Char → α → Prop) : Prop where
  of_read : ∀ {cs a behind c more}, r.read cs = .ok (a, behind) → skipBlank behind = c :: more →
    ∃ text, cs = text ++ c :: more ∧ IsText text a
  of_blanks : ∀ {text a}, IsText text a → ∀ blanks : Blanks, IsText (blanks.val ++ text) a
  reads : ∀ {text a}, IsText text a → Reads r.read text a

/-- Blanks before the texts of items belong to the first of them. -/
theorem TextsOf.exists_prepend (hr : r.TextsOf IsText) (blanks : Blanks) {texts : List (List Char)} {items : List α}
    (hne : texts ≠ []) (h : List.Forall₂ IsText texts items) (rest : List Char) : ∃ texts', texts' ≠ [] ∧
      blanks.val ++ ([','].intercalate texts ++ rest) = [','].intercalate texts' ++ rest ∧
      List.Forall₂ IsText texts' items := by
  cases h with
  | nil => exact absurd rfl hne
  | @cons text a texts items ha hitems =>
    refine ⟨(blanks.val ++ text) :: texts, by simp, ?_, .cons (hr.of_blanks ha blanks) hitems⟩
    cases texts with
    | nil => simp
    | cons other texts => simp [List.intercalate_cons_cons]

/-- A run over items that ends has read a text of each of them. -/
theorem TextsOf.exists_texts_of_loop (hr : r.TextsOf IsText) {n : Nat} {s : r.State} {cs rest : List Char} {v : Json}
    (h : r.loop n s cs = .ok (v, rest)) : ∃ texts items, texts ≠ [] ∧
      cs = [','].intercalate texts ++ r.closing :: rest ∧ List.Forall₂ IsText texts items ∧
      v = r.result (items.foldl r.take s) := by
  induction n generalizing s cs rest v with
  | zero =>
    obtain ⟨m, -, -, hm, -⟩ := r.of_loop h
    cases hm
  | succ n ih =>
    obtain ⟨m, a, behind, hm, hread, hrest⟩ := r.of_loop h
    cases hm
    rcases hrest with ⟨hclose, rfl⟩ | ⟨more, hcomma, hloop⟩
    · obtain ⟨text, rfl, htext⟩ := hr.of_read hread hclose
      exact ⟨[text], [a], by simp, by simp, .cons htext .nil, rfl⟩
    · obtain ⟨text, rfl, htext⟩ := hr.of_read hread hcomma
      obtain ⟨texts, items, hne, hmore, hitems, rfl⟩ := ih hloop
      obtain ⟨blanks, hblanks⟩ := exists_blanks more
      obtain ⟨texts', hne', happend, hitems'⟩ := hr.exists_prepend blanks hne hitems (r.closing :: rest)
      refine ⟨text :: texts', a :: items, by simp, ?_, .cons htext hitems', rfl⟩
      cases texts' with
      | nil => exact absurd rfl hne'
      | cons other texts' => rw [intercalate_cons_cons_append, ← happend, ← hmore, ← hblanks]

/-- What is read as a list is a text of the list. -/
theorem TextsOf.exists_texts_of_readValue (hr : r.TextsOf IsText) {cs rest : List Char} {v : Json}
    (h : readValue (r.depth + 1) (r.opening :: cs) = .ok (v, rest)) :
    (∃ blanks : Blanks, cs = blanks.val ++ r.closing :: rest ∧ v = r.value []) ∨
    ∃ texts items, texts ≠ [] ∧ r.opening :: cs = r.text texts ++ rest ∧ List.Forall₂ IsText texts items ∧
      v = r.value items := by
  obtain ⟨blanks, hblanks⟩ := exists_blanks cs
  rcases r.of_readValue h with ⟨hclose, rfl⟩ | ⟨n, hloop⟩
  · exact Or.inl ⟨blanks, hclose ▸ hblanks, rfl⟩
  · obtain ⟨texts, items, hne, hcs, hitems, rfl⟩ := hr.exists_texts_of_loop hloop
    obtain ⟨texts', hne', happend, hitems'⟩ := hr.exists_prepend blanks hne hitems (r.closing :: rest)
    refine Or.inr ⟨texts', items, hne', ?_, hitems', rfl⟩
    rw [hblanks, hcs, happend]
    simp [text]

/-- A list is read again before whatever follows. -/
theorem TextsOf.takes (hr : r.TextsOf IsText) {cs rest : List Char} {v : Json}
    (h : readValue (r.depth + 1) (r.opening :: cs) = .ok (v, rest)) :
    Takes Anything Anything (readValue (r.depth + 1)) (r.opening :: cs) v rest := by
  rcases hr.exists_texts_of_readValue h with ⟨blanks, rfl, rfl⟩ | ⟨texts, items, -, hcs, hitems, rfl⟩
  · refine ⟨r.opening :: blanks.val ++ [r.closing], by simp, fun more _ => ⟨trivial, ?_⟩⟩
    rw [List.cons_append, List.cons_append, List.append_assoc]
    exact r.noItems (by rw [skipBlank_append, List.singleton_append, skipBlank_cons r.closes.isBlank_eq_false])
  · exact ⟨r.text texts, hcs, fun more _ =>
      ⟨trivial, r.readValue_text (hitems.imp fun _ _ htext => hr.reads htext) ⟨[], by simp⟩ more⟩⟩

end ItemReader

/-! ## Items -/

variable {depth : Nat}

/-- Where a value is read, there is a text of it. -/
theorem exists_reads_of_readValue (h : Local Anything EndsNumeral (readValue depth)) {cs behind more : List Char}
    {v : Json} {c : Char} (hread : readValue depth cs = .ok (v, behind)) (hbehind : skipBlank behind = c :: more) :
    ∃ text, cs = text ++ c :: more ∧ Reads (readValue depth) text v := by
  obtain ⟨front, rfl, hfront⟩ := h hread
  obtain ⟨blanks, hblanks⟩ := exists_blanks behind
  refine ⟨front ++ blanks.val, by rw [List.append_assoc, ← hbehind, ← hblanks], fun d rest hd => ?_⟩
  refine ⟨blanks.val ++ d :: rest, ?_, by rw [skipBlank_append, skipBlank_cons hd.isBlank_eq_false]⟩
  rw [readValue_skipBlank, List.append_assoc]
  exact (hfront _ (endsNumeral_blanks blanks hd rest)).2

theorem textsOf_elements (h : Local Anything EndsNumeral (readValue depth)) :
    (elements depth).TextsOf (Reads (readValue depth)) where
  of_read := exists_reads_of_readValue h
  of_blanks := Reads.append_blanks
  reads := id

/-- The text is one of a key and one of a value. -/
def IsMemberText (depth : Nat) (text : List Char) (m : String × Json) : Prop :=
  ∃ (k : KeyText m.1) (value : List Char), text = k.member value ∧ Reads (readValue depth) value m.2

theorem textsOf_members (h : Local Anything EndsNumeral (readValue depth)) :
    (members depth).TextsOf (IsMemberText depth) where
  of_read {cs m behind c more} hread hbehind := by
    have hmember : readMember (readValue depth) cs = .ok (m, behind) := hread
    unfold readMember at hmember
    split at hmember
    · next rest =>
      obtain ⟨⟨key, behindName⟩, hkey, hbehindName⟩ := bind_eq_ok.1 hmember
      obtain ⟨name, rfl, hname⟩ := StringLiteral.local_read hkey
      obtain ⟨trail, htrail⟩ := exists_blanks behindName
      dsimp only at hbehindName
      split at hbehindName
      · cases hbehindName
      · next behindColon hcolon =>
        obtain ⟨⟨v, behindValue⟩, hv, hm⟩ := bind_eq_ok.1 hbehindName
        cases hm
        obtain ⟨value, rfl, hvalue⟩ := exists_reads_of_readValue h hv hbehind
        let k : KeyText key := ⟨⟨[], by simp⟩, name, fun more => (hname more trivial).2, trail⟩
        refine ⟨k.member value, ?_, k, value, rfl, hvalue⟩
        rw [htrail, hcolon]
        simp [KeyText.member, k]
      · cases hbehindName
    · cases hmember
  of_blanks {text m} htext blanks := by
    obtain ⟨k, value, rfl, hvalue⟩ := htext
    let lead : Blanks := ⟨blanks.val ++ k.lead.val, by
      simpa only [List.forall_mem_append] using ⟨blanks.2, k.lead.2⟩⟩
    exact ⟨{ k with lead := lead }, value, by simp [KeyText.member, lead], hvalue⟩
  reads {text m} htext := by
    obtain ⟨k, value, rfl, hvalue⟩ := htext
    exact k.reads_member hvalue

/-! ## Values -/

/-- The words that are values, the first letter of each apart. -/
def words : List (Char × List Char × Json) :=
  [('n', ['u', 'l', 'l'], .null), ('t', ['r', 'u', 'e'], .bool true), ('f', ['a', 'l', 's', 'e'], .bool false)]

/-- What holds of the three words holds of every word. -/
theorem of_mem_words {P : Char → List Char → Json → Prop} (hnull : P 'n' ['u', 'l', 'l'] .null)
    (htrue : P 't' ['r', 'u', 'e'] (.bool true)) (hfalse : P 'f' ['a', 'l', 's', 'e'] (.bool false))
    {c : Char} {word : List Char} {v : Json} (h : (c, word, v) ∈ words) : P c word v := by
  simp only [words, List.mem_cons, List.not_mem_nil, or_false, Prod.mk.injEq] at h
  rcases h with ⟨rfl, rfl, rfl⟩ | ⟨rfl, rfl, rfl⟩ | ⟨rfl, rfl, rfl⟩
  exacts [hnull, htrue, hfalse]

theorem readValue_word {c : Char} {word : List Char} {v : Json} (h : (c, word, v) ∈ words) (cs : List Char) :
    readValue depth (c :: cs) = readWord v word cs := by
  refine of_mem_words (P := fun c word v => readValue depth (c :: cs) = readWord v word cs) ?_ ?_ ?_ h <;>
    rw [readValue.eq_def] <;> rfl

theorem readValue_string (cs : List Char) :
    readValue depth ('"' :: cs) = (StringLiteral.read cs).map fun (s, rest) => (.str s, rest) := by
  rw [readValue.eq_def]
  rfl

/-- A value that begins with no bracket and no brace is a word, a string or a number. -/
theorem scalar_cases {c : Char} (hblank : isBlank c = false) (hbracket : c ≠ '[') (hbrace : c ≠ '{')
    {cs rest : List Char} {v : Json} (h : readValue depth (c :: cs) = .ok (v, rest)) :
    (∃ word, (c, word, v) ∈ words ∧ readWord v word cs = .ok (v, rest)) ∨
    (c = '"' ∧ ∃ s, StringLiteral.read cs = .ok (s, rest) ∧ v = .str s) ∨
    (c = '-' ∨ c.isDigit = true) ∧ ∃ n, Numeral.read (c :: cs) = .ok (n, rest) ∧ v = .num n := by
  rw [readValue.eq_def, skipBlank_cons hblank] at h
  split at h
  case h_1 => cases h
  case h_5 heq =>
    obtain ⟨rfl, rfl⟩ := List.cons.inj heq
    obtain ⟨⟨s, rest⟩, hread, hv⟩ := map_eq_ok.1 h
    cases hv
    exact Or.inr (Or.inl ⟨rfl, s, hread, rfl⟩)
  case h_6 heq => exact absurd (List.cons.inj heq).1 hbracket
  case h_7 heq => exact absurd (List.cons.inj heq).1 hbrace
  case h_8 heq =>
    obtain ⟨rfl, rfl⟩ := List.cons.inj heq
    split at h
    · next hc =>
      obtain ⟨⟨n, rest⟩, hread, hv⟩ := map_eq_ok.1 h
      cases hv
      exact Or.inr (Or.inr ⟨hc, n, hread, rfl⟩)
    · cases h
  -- the words are all that is left
  all_goals
    next heq =>
    obtain ⟨rfl, rfl⟩ := List.cons.inj heq
    obtain rfl := eq_of_readWord h
    exact Or.inl ⟨_, by simp [words], h⟩

/-- A value that begins with no bracket and no brace is no list, and it is read again before what ends a numeral. -/
theorem takes_of_readValue {c : Char} (hblank : isBlank c = false) (hbracket : c ≠ '[') (hbrace : c ≠ '{')
    {cs rest : List Char} {v : Json} (h : readValue depth (c :: cs) = .ok (v, rest)) :
    Takes Anything EndsNumeral (readValue depth) (c :: cs) v rest ∧ v.arr? = none ∧ v.obj? = none := by
  rcases scalar_cases hblank hbracket hbrace h with ⟨word, hword, hread⟩ | ⟨rfl, s, hread, rfl⟩ | ⟨-, n, hread, rfl⟩
  · have htakes : Takes Anything Anything (readValue depth) (c :: cs) v rest :=
      (local_readWord v word hread).prepend [c] (fun _ => trivial) fun more _ => readValue_word hword more
    exact ⟨htakes.mono fun _ _ => trivial,
      of_mem_words (P := fun _ _ v => v.arr? = none ∧ v.obj? = none) ⟨rfl, rfl⟩ ⟨rfl, rfl⟩ ⟨rfl, rfl⟩ hword⟩
  · have hmap := StringLiteral.local_read.map Json.str (map_eq_ok.2 ⟨_, hread, rfl⟩)
    have htakes : Takes Anything Anything (readValue depth) ('"' :: cs) (.str s) rest :=
      hmap.prepend ['"'] (fun _ => trivial) fun more _ => readValue_string more
    exact ⟨htakes.mono fun _ _ => trivial, rfl, rfl⟩
  · have hmap := Numeral.local_read.map Json.num (map_eq_ok.2 ⟨_, hread, rfl⟩)
    refine ⟨hmap.prepend [] (fun _ => trivial) ?_, rfl, rfl⟩
    rintro _ ⟨c, more, rfl, hc⟩
    exact readValue_numeral hc more depth

/-- A value that is read begins with a token, behind blanks. -/
theorem exists_token_of_readValue {cs rest : List Char} {v : Json} (h : readValue depth cs = .ok (v, rest)) :
    ∃ (lead : Blanks) (c : Char) (token : List Char), cs = lead.val ++ c :: token ∧ isBlank c = false ∧
      readValue depth (c :: token) = .ok (v, rest) := by
  obtain ⟨lead, hlead⟩ := exists_blanks cs
  rw [← readValue_skipBlank] at h
  cases hskip : skipBlank cs with
  | nil =>
    rw [hskip, readValue.eq_def] at h
    cases h
  | cons c token =>
    rw [hskip] at hlead h
    exact ⟨lead, c, token, hlead, head?_skipBlank (by rw [hskip]; rfl), h⟩

/-- Blanks before a value are no matter, and lists are all that remains. -/
theorem local_readValue_of_lists (hlist : ∀ {c cs rest v}, c = '[' ∨ c = '{' →
      readValue depth (c :: cs) = .ok (v, rest) → Takes Anything Anything (readValue depth) (c :: cs) v rest) :
    Local Anything EndsNumeral (readValue depth) := by
  intro cs v rest h
  obtain ⟨lead, c, token, rfl, hblank, hread⟩ := exists_token_of_readValue h
  have htoken : Takes Anything EndsNumeral (readValue depth) (c :: token) v rest := by
    by_cases hopen : c = '[' ∨ c = '{'
    · exact (hlist hopen hread).mono fun _ _ => trivial
    · obtain ⟨hbracket, hbrace⟩ := not_or.1 hopen
      exact (takes_of_readValue hblank hbracket hbrace hread).1
  refine htoken.prepend lead.val (fun _ => trivial) fun more _ => ?_
  rw [← readValue_skipBlank, skipBlank_append, readValue_skipBlank]

/-- **What is read is read again.** A value depends on its text alone, if what follows does not lengthen a numeral. -/
theorem local_readValue (depth : Nat) : Local Anything EndsNumeral (readValue depth) := by
  induction depth with
  | zero =>
    refine local_readValue_of_lists fun {c cs rest v} hopen h => ?_
    rcases hopen with rfl | rfl <;> rw [readValue.eq_def, skipBlank_cons (by decide)] at h <;> cases h
  | succ depth ih =>
    refine local_readValue_of_lists fun {c cs rest v} hopen h => ?_
    rcases hopen with rfl | rfl
    · exact (textsOf_elements ih).takes h
    · exact (textsOf_members ih).takes h

/-! ## Frames -/

/-- A whole text is a value with blanks around it. -/
theorem exists_token_of_parse {s : String} {v : Json} (h : parse s = .ok v) :
    ∃ (lead trail : Blanks) (c : Char) (cs : List Char), s.toList = lead.val ++ c :: cs ∧ isBlank c = false ∧
      readValue greatestDepth (c :: cs) = .ok (v, trail.val) := by
  unfold parse readDocument at h
  cases hread : readValue greatestDepth s.toList with
  | error fault =>
    rw [hread] at h
    cases h
  | ok result =>
    obtain ⟨w, rest⟩ := result
    obtain ⟨trail, htrail⟩ := exists_blanks rest
    simp only [hread] at h
    split at h
    · next hrest =>
      cases h
      rw [hrest, List.append_nil] at htrail
      obtain ⟨lead, c, cs, hcs, hblank, htoken⟩ := exists_token_of_readValue hread
      exact ⟨lead, trail, c, cs, hcs, hblank, htrail ▸ htoken⟩
    · cases h

namespace ItemReader

variable {α : Type} {r : ItemReader α} {IsText : List Char → α → Prop}

theorem exists_pairs {texts : List (List Char)} {items : List α} (h : List.Forall₂ IsText texts items) :
    ∃ ps : List {p : List Char × α // IsText p.1 p.2}, texts = ps.map (·.1.1) ∧ items = ps.map (·.1.2) := by
  induction h with
  | nil => exact ⟨[], rfl, rfl⟩
  | @cons text a _ _ ha _ ih =>
    obtain ⟨ps, rfl, rfl⟩ := ih
    exact ⟨⟨(text, a), ha⟩ :: ps, rfl, rfl⟩

/-- **Every item has its place.** A whole text that is read as a list is a frame around each item of the list. -/
theorem TextsOf.exists_frame (hr : r.TextsOf IsText) {s : String} {lead trail : Blanks} {cs : List Char} {v : Json}
    (hs : s.toList = lead.val ++ r.opening :: cs)
    (h : readValue (r.depth + 1) (r.opening :: cs) = .ok (v, trail.val)) :
    ∃ items, v = r.value items ∧ ∀ before a after, items = before ++ a :: after →
      ∃ (f : Frame r) (text : List Char), s = f.text text ∧ IsText text a ∧ f.before.map Item.item = before ∧
        f.after.map Item.item = after := by
  rcases hr.exists_texts_of_readValue h with ⟨-, -, rfl⟩ | ⟨texts, items, -, hcs, hitems, rfl⟩
  · exact ⟨[], rfl, by simp⟩
  · refine ⟨items, rfl, ?_⟩
    rintro before a after rfl
    obtain ⟨ps, rfl, hps⟩ := exists_pairs hitems
    obtain ⟨psBefore, psRest, rfl, rfl, hrest⟩ := List.map_eq_append_iff.1 hps.symm
    obtain ⟨p, psAfter, rfl, rfl, rfl⟩ := List.map_eq_cons_iff.1 hrest
    let toItem (p : {p : List Char × α // IsText p.1 p.2}) : Item r := ⟨p.1.1, p.1.2, hr.reads p.2⟩
    refine ⟨⟨lead, psBefore.map toItem, psAfter.map toItem, trail⟩, p.1.1, ?_, p.2, ?_, ?_⟩
    · rw [← String.ofList_toList (s := s), hs, hcs]
      simp [Frame.text, toItem, Function.comp_def]
    · simp [toItem, Function.comp_def]
    · simp [toItem, Function.comp_def]

end ItemReader

/-- A whole text that is read as an array is a frame around each of its elements. -/
theorem exists_frame {s : String} {before after : List Json} {v : Json}
    (h : parse s = .ok (.arr (before ++ v :: after))) :
    ∃ (f : Frame (elements innerDepth)) (text : List Char), s = f.text text ∧ Reads (readValue innerDepth) text v ∧
      f.before.map Item.item = before ∧ f.after.map Item.item = after := by
  obtain ⟨lead, trail, c, cs, hs, hblank, hread⟩ := exists_token_of_parse h
  by_cases hbracket : c = '['
  · subst hbracket
    obtain ⟨items, hitems, hframe⟩ := (textsOf_elements (local_readValue innerDepth)).exists_frame hs hread
    rw [ItemReader.value_elements] at hitems
    exact hframe before v after (Json.arr.inj hitems).symm
  · by_cases hbrace : c = '{'
    · subst hbrace
      obtain ⟨items, hitems, -⟩ := (textsOf_members (local_readValue innerDepth)).exists_frame hs hread
      cases hitems
    · cases (takes_of_readValue hblank hbracket hbrace hread).2.1

/-- A whole text that is read as an object is a frame around the value of each of its members. -/
theorem exists_objectFrame {s key : String} {ms : List (String × Json)} {v : Json} (h : parse s = .ok (.obj ms))
    (hv : ms.lookup key = some v) : ∃ (f : ObjectFrame key) (value : List Char), s = f.fill value ∧
      Reads (readValue innerDepth) value v ∧ f.membersWith v = ms := by
  obtain ⟨lead, trail, c, cs, hs, hblank, hread⟩ := exists_token_of_parse h
  by_cases hbrace : c = '{'
  · subst hbrace
    obtain ⟨items, hitems, hframe⟩ := (textsOf_members (local_readValue innerDepth)).exists_frame hs hread
    rw [value_members] at hitems
    obtain rfl := Json.obj.inj hitems
    -- the last member with the key is the one that counts
    rw [lookup_putAll] at hv
    obtain ⟨after, before, hsplit, hlast⟩ := List.lookup_eq_some_iff.1 hv
    have hitems : items = before.reverse ++ (key, v) :: after.reverse := by
      rw [← List.reverse_reverse items, hsplit]
      simp
    obtain ⟨f, text, rfl, ⟨k, value, rfl, hvalue⟩, hbefore, hafter⟩ := hframe _ _ _ hitems
    refine ⟨⟨f, k, fun m hm => ?_⟩, value, rfl, hvalue, ?_⟩
    · have hmem : m.item ∈ after := by
        rw [← List.mem_reverse, ← hafter]
        exact List.mem_map_of_mem hm
      exact (bne_iff_ne.1 (hlast _ hmem)).symm
    · rw [ObjectFrame.membersWith, Frame.items, hbefore, hafter, hitems]
  · by_cases hbracket : c = '['
    · subst hbracket
      obtain ⟨items, hitems, -⟩ := (textsOf_elements (local_readValue innerDepth)).exists_frame hs hread
      cases hitems
    · cases (takes_of_readValue hblank hbracket hbrace hread).2.2

end QueryDsl.Json
