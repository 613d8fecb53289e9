import QueryDsl.Document.SearchBody
import QueryDsl.Proofs.Json.NumberLiteral
import QueryDsl.Proofs.Json.StringText
import QueryDsl.Proofs.Request.PartFrame

/-!
# The page of an answer

The size of a page and its offset are written as numbers in a request text, and they are printed in the body behind the
query (`compact_body`).

- `parse_page`: a plain literal is passed through with its digits; every other number refuses the request. The query and
  the other of the two parts do not depend on it.
-/

namespace QueryDsl

open Json Checks

/-! ## The two parts -/

/-- The parts of a request that say which page of the answer is asked for. -/
inductive PageKey where
  | size
  | offset
  deriving DecidableEq

namespace PageKey

/-- The part of the request. -/
def key : PageKey → RequestKey
  | size => .size
  | offset => .offset

/-- The other one of the two. -/
def other : PageKey → PageKey
  | size => offset
  | offset => size

/-- What a request asks for. -/
def get (k : PageKey) (r : Request) : Option UInt64 :=
  match k with
  | size => r.size
  | offset => r.offset

/-- The request with a number for the part. -/
def set (k : PageKey) (r : Request) (w : UInt64) : Request :=
  match k with
  | size => r.withSize w
  | offset => r.withOffset w

/-- The parts of the request with a number for the part. -/
def setPart (k : PageKey) (p : Parts) (w : UInt64) : Parts :=
  match k with
  | size => { p with size := some w }
  | offset => { p with offset := some w }

variable (k : PageKey) (r : Request) (w : UInt64)

theorem query_set : (k.set r w).query = r.query := by cases k <;> rfl

theorem get_set : k.get (k.set r w) = some w ∧ k.other.get (k.set r w) = k.other.get r := by
  cases k <;> exact ⟨rfl, rfl⟩

theorem element_setPart (p : Parts) : (k.setPart p w).element k.key = wordJson w ∧
    ∀ j, j ≠ k.key → (k.setPart p w).element j = p.element j := by
  refine ⟨by cases k <;> rfl, fun j hj => ?_⟩
  cases k <;> cases j <;> first | rfl | exact absurd rfl hj

theorem ofParts_setPart {p : Parts} {r : Request} (h : Request.ofParts p = .ok r) :
    Request.ofParts (k.setPart p w) = .ok (k.set r w) := by
  obtain ⟨hids, fs, hfs, rfl⟩ := Request.ofParts_eq_ok.1 h
  cases k <;> exact Request.ofParts_eq_ok.2 ⟨hids, fs, hfs, rfl⟩

end PageKey

/-! ## The text of a body -/

/-- What stands behind the query for one of the parts, if it has digits. -/
def pageEntry (k : PageKey) (digits : Option (List Char)) : List Char :=
  digits.elim [] fun ds => ',' :: '"' :: k.key.name.toList ++ ['"', ':'] ++ ds

/-- The compact text of a body, by the document of its query and the digits of its page. -/
def bodyText (document : Json) (digits : PageKey → Option (List Char)) : String :=
  "\x7b\"query\":" ++ document.compact ++
    String.ofList (pageEntry .size (digits .size) ++ pageEntry .offset (digits .offset)) ++ "\x7d"

/-- The digits that a request asks for. -/
def pageDigits (r : Request) (k : PageKey) : Option (List Char) := (k.get r).map fun w => Nat.toDigits 10 w.toNat

theorem text_word (w : UInt64) (style : Style) : (wordJson w).text style = Nat.toDigits 10 w.toNat := by
  have hsign : ¬ ((w.toNat : Int) < 0) := Int.not_lt.2 (Int.natCast_nonneg _)
  simp [wordJson, text, numberText, integerText, Integer.ofWord, hsign]

/-- A part of the page that is there is printed behind a comma. -/
theorem flatMap_wordMember (k : PageKey) (word : Option UInt64) :
    ((SearchBody.wordMember k.key.name word).map (memberText .compact)).flatMap (fun text => ',' :: text) =
      pageEntry k (word.map fun w => Nat.toDigits 10 w.toNat) := by
  have hname : stringText k.key.name = '"' :: k.key.name.toList ++ ['"'] := by cases k <;> rfl
  cases word with
  | none => rfl
  | some w =>
    have hword := text_word w .compact
    simp [SearchBody.wordMember, memberText, pageEntry, hname, Style.colon, ← hword, wordJson]

/-- The body of a request shows its query, then what it has of the page. -/
theorem compact_body (r : Request) :
    (SearchBody.ofRequest r).toJson.compact = bodyText r.query.toJson (pageDigits r) := by
  have hquery : stringText "query" = "\"query\"".toList := by rfl
  have hpage : ((SearchBody.wordMember "size" r.size ++ SearchBody.wordMember "from" r.offset).map
      (memberText .compact)).flatMap (fun text => [','] ++ text) =
      pageEntry .size (pageDigits r .size) ++ pageEntry .offset (pageDigits r .offset) := by
    rw [List.map_append, List.flatMap_append]
    exact congrArg₂ (· ++ ·) (flatMap_wordMember .size r.size) (flatMap_wordMember .offset r.offset)
  rw [compact, SearchBody.ofRequest, SearchBody.toJson, text_obj, List.map_cons, itemsText, ← String.toList_inj,
    bodyText]
  simp only [Style.nested, Style.lineBreak, List.nil_append, hpage, memberText, hquery, String.toList_ofList,
    String.toList_append, compact]
  simp [Style.colon]

/-- The keys of a body: the query, then what there is of the page. -/
theorem keys_body (b : SearchBody) : ∃ ms : Members, b.toJson = .obj ms ∧ ms.map Prod.fst =
    "query" :: ((if b.size.isSome then ["size"] else []) ++ if b.offset.isSome then ["from"] else []) := by
  obtain ⟨query, size, offset⟩ := b
  refine ⟨_, rfl, ?_⟩
  cases size <;> cases offset <;> simp [SearchBody.wordMember]

/-! ## Literals in the place of a part -/

namespace PageKey

variable {k : PageKey} {f : PartFrame k.key} {l : NumberLiteral}

theorem key_ne_text (k : PageKey) : k.key ≠ .text := by cases k <;> decide

/-- The JSON of these parts is null or a word. -/
theorem element_eq (k : PageKey) (p : Parts) : p.element k.key = .null ∨ ∃ w, p.element k.key = wordJson w := by
  have hword (word : Option UInt64) : word.elim .null wordJson = .null ∨
      ∃ w, word.elim .null wordJson = wordJson w := by
    cases word with
    | none => exact Or.inl rfl
    | some w => exact Or.inr ⟨w, rfl⟩
  cases k with
  | size => exact hword p.size
  | offset => exact hword p.offset

/-- A plain literal makes the request with its number. -/
theorem parse_of_isPlain {r : Request} (h : Request.parse f.without = .ok r) (hl : l.IsPlain) (lead trail : Blanks)
    {w : UInt64} (hw : w.toNat = l.magnitude) :
    Request.parse (f.fill (lead.val ++ l.text ++ trail.val)) = .ok (k.set r w) := by
  rw [Request.parse, PartFrame.parse_without] at h
  obtain ⟨p, hp, hr⟩ := Request.ofJson_eq_ok.1 h
  obtain ⟨hword, hrest⟩ := k.element_setPart w p
  have hread : Reads (readValue innerDepth) (lead.val ++ l.text ++ trail.val) (wordJson w) :=
    hl.reads hw lead trail innerDepth
  rw [Request.parse, PartFrame.parse_fill hread, ← hword]
  exact Request.ofJson_eq_ok.2 ⟨_, PartFrame.hasForm_update_without k.key_ne_text hp hrest, k.ofParts_setPart w hr⟩

/-- Every other literal refuses the request. -/
theorem refused_of_not_isPlain (hl : ¬ l.IsPlain) (lead trail : Blanks) :
    ∃ reason, Request.parse (f.fill (lead.val ++ l.text ++ trail.val)) = .error (.invalidRequest reason) := by
  rcases NumberLiteral.reads_of_not_isPlain hl lead trail innerDepth with ⟨x, hx, hread⟩ | hout
  · rw [Request.parse, PartFrame.parse_fill hread]
    refine Request.refused_of_forall_not_hasForm fun p hp => ?_
    have helem := PartFrame.element_eq k.key_ne_text hp
    rcases k.element_eq p with hnull | ⟨w, hword⟩
    · cases hnull.symm.trans helem
    · exact hx w (Json.num.inj (hword.symm.trans helem)).symm
  · obtain ⟨line, column, hparse⟩ := PartFrame.parse_fill_outOfRange (f := f) hout
    exact ⟨_, by rw [Request.parse, hparse]⟩

theorem pageDigits_set (k : PageKey) (r : Request) (w : UInt64) :
    pageDigits (k.set r w) = Function.update (pageDigits r) k (some (Nat.toDigits 10 w.toNat)) := by
  funext j
  cases k <;> cases j <;> rfl

end PageKey

/-- **The page is passed through or refused.** Take a request text in which one of the two parts of the page is left
open, and which is a request without it. With a number literal in the place it is a request exactly if the literal is
plain: digits alone, with a number below two to the 64. Then the request has this number, and is else as before, and its
body shows the literal with its own digits, behind the same query and beside the same other part. With any other literal
it is refused. The keys of a body are the query, then the size and the offset where they are set. -/
theorem parse_page (k : PageKey) (f : PartFrame k.key) (l : NumberLiteral) (lead trail : Blanks) (r : Request)
    (h : Request.parse f.without = .ok r) :
    let text := f.fill (lead.val ++ l.text ++ trail.val)
    ((∃ r', Request.parse text = .ok r') ↔ l.IsPlain) ∧
    (∀ r', Request.parse text = .ok r' → ∃ w : UInt64, w.toNat = l.magnitude ∧ r' = k.set r w ∧
      r'.query = r.query ∧ k.other.get r' = k.other.get r ∧ (SearchBody.ofRequest r').toJson.compact =
        bodyText r.query.toJson (Function.update (pageDigits r) k (some l.text))) ∧
    (¬ l.IsPlain → ∃ reason, Request.parse text = .error (.invalidRequest reason)) ∧
    ∀ b : SearchBody, ∃ ms : Members, b.toJson = .obj ms ∧ ms.map Prod.fst =
      "query" :: ((if b.size.isSome then ["size"] else []) ++ if b.offset.isSome then ["from"] else []) := by
  intro text
  have hplain (hl : l.IsPlain) : ∃ w : UInt64, w.toNat = l.magnitude ∧ Request.parse text = .ok (k.set r w) := by
    have hw : (UInt64.ofNat l.magnitude).toNat = l.magnitude := UInt64.toNat_ofNat_of_lt' hl.magnitude_lt
    exact ⟨_, hw, PageKey.parse_of_isPlain h hl lead trail hw⟩
  have hrefused (hl : ¬ l.IsPlain) : ∃ reason, Request.parse text = .error (.invalidRequest reason) :=
    PageKey.refused_of_not_isPlain hl lead trail
  have hiff : (∃ r', Request.parse text = .ok r') ↔ l.IsPlain := by
    refine ⟨fun ⟨r', hr'⟩ => ?_, fun hl => ?_⟩
    · by_contra hl
      obtain ⟨reason, herror⟩ := hrefused hl
      rw [hr'] at herror
      cases herror
    · obtain ⟨w, -, hparse⟩ := hplain hl
      exact ⟨_, hparse⟩
  refine ⟨hiff, fun r' hr' => ?_, hrefused, keys_body⟩
  have hl := hiff.1 ⟨r', hr'⟩
  obtain ⟨w, hw, hparse⟩ := hplain hl
  obtain rfl : r' = k.set r w := Except.ok.inj (hr'.symm.trans hparse)
  refine ⟨w, hw, rfl, k.query_set r w, (k.get_set r w).2, ?_⟩
  rw [compact_body, k.query_set, k.pageDigits_set, hw, hl.toDigits_magnitude]

/-- The greatest word as a size, between a text and an offset of seven, and a negative zero in its place. -/
theorem parse_page_greatest_size :
    let text (literal : String) := "\x7b\"q\":\"abc\",\"size\": " ++ literal ++ ",\"from\":7\x7d"
    let r : Request := { text := "abc", size := some 18446744073709551615, offset := some 7 }
    Request.parse (text "18446744073709551615") = .ok r ∧ (SearchBody.ofRequest r).toJson.compact =
        bodyText r.query.toJson (Function.update (pageDigits r) .size (some "18446744073709551615".toList)) ∧
      ∃ reason, Request.parse (text "-0") = .error (.invalidRequest reason) := by
  intro text r
  let none : Blanks := ⟨[], by simp⟩
  let space : Blanks := ⟨[' '], by simp [isBlank]⟩
  let greatest : NumberLiteral := ⟨⟨false, "18446744073709551615".toList, List.all_eq_true.1 rfl,
    Or.inr ⟨_, _, rfl, by decide⟩⟩, .none, .none⟩
  let zero : NumberLiteral := ⟨⟨true, ['0'], List.all_eq_true.1 rfl, Or.inl rfl⟩, .none, .none⟩
  let seven : NumberLiteral := ⟨⟨false, ['7'], List.all_eq_true.1 rfl, Or.inr ⟨_, _, rfl, by decide⟩⟩, .none, .none⟩
  have hseven : seven.IsPlain := ⟨rfl, rfl, rfl, by decide⟩
  let q : Item (members innerDepth) := ⟨_, _, (KeyText.plain "q" (List.all_eq_true.1 rfl)).reads_member
    (reads_plain (s := "abc") (List.all_eq_true.1 rfl) innerDepth)⟩
  let offset : Item (members innerDepth) := ⟨_, _, (KeyText.plain "from" (List.all_eq_true.1 rfl)).reads_member
    (hseven.reads (w := 7) (by decide) none none innerDepth)⟩
  let f : PartFrame PageKey.size.key :=
    .member ⟨⟨none, [q], [offset], none⟩, KeyText.plain "size" (List.all_eq_true.1 rfl), by simp [offset, PageKey.key,
      RequestKey.name]⟩
  have hf : Request.parse f.without = .ok { text := "abc", offset := some 7 } := by
    rw [Request.parse, PartFrame.parse_without]
    rfl
  obtain ⟨hiff, hpage, -⟩ := parse_page .size f greatest space none _ hf
  obtain ⟨r', hr'⟩ := hiff.2 ⟨rfl, rfl, rfl, by decide⟩
  obtain ⟨w, hw, rfl, -, -, hbody⟩ := hpage r' hr'
  obtain rfl : w = 18446744073709551615 := UInt64.toNat_inj.1 (hw.trans (by decide))
  obtain ⟨-, -, hrefused, -⟩ := parse_page .size f zero space none _ hf
  exact ⟨hr', hbody, hrefused fun hzero => by cases hzero.unsigned⟩

end QueryDsl
