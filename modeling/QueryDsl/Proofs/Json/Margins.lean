import QueryDsl.Proofs.Json.Framing
import QueryDsl.Text.Blank

/-!
# What stands around a value

No token begins or ends with white space, in the wide sense of Unicode. So a text that is read as a value has nothing
but blanks at its ends, and white space of any other sort there is never passed over (`isBlank_of_parse`).

- What a reader takes does not end with white space, which chains of readers pass on (`Firm`).
-/

namespace QueryDsl.Json

open Checks Text

/-- No white space ends the text. -/
def EndsFirmly (text : List Char) : Prop := ∀ c, text.getLast? = some c → isWhiteSpace c = false

theorem endsFirmly_singleton {c : Char} (h : isWhiteSpace c = false) : EndsFirmly [c] := by
  rintro d ⟨⟩
  exact h

theorem EndsFirmly.append {front back : List Char} (hfront : EndsFirmly front) (hback : EndsFirmly back) :
    EndsFirmly (front ++ back) := by
  intro c hc
  rw [List.getLast?_append, Option.or_eq_some_iff] at hc
  rcases hc with hc | ⟨-, hc⟩
  · exact hback c hc
  · exact hfront c hc

section Combinators

variable {α β : Type} {read : List Char → Reading α} {cs rest : List Char} {a : α}

/-- What a reader has taken does not end with white space. -/
def TakenFirmly (cs rest : List Char) : Prop := ∃ text, cs = text ++ rest ∧ EndsFirmly text

theorem TakenFirmly.nothing : TakenFirmly rest rest := ⟨[], rfl, by rintro c ⟨⟩⟩

theorem TakenFirmly.cons {c : Char} (h : TakenFirmly cs rest) (hc : isWhiteSpace c = false) :
    TakenFirmly (c :: cs) rest :=
  let ⟨text, hcs, htext⟩ := h
  ⟨c :: text, by rw [hcs, List.cons_append], (endsFirmly_singleton hc).append htext⟩

/-- Where the reader succeeds, what it has taken does not end with white space. -/
def Firm (read : List Char → Reading α) : Prop := ∀ ⦃cs a rest⦄, read cs = .ok (a, rest) → TakenFirmly cs rest

namespace Firm

theorem ok (a : α) : Firm fun cs => .ok (a, cs) := by
  intro cs b rest h
  cases h
  exact .nothing

theorem bind {next : α → List Char → Reading β} (hread : Firm read) (hnext : ∀ a, Firm (next a)) :
    Firm fun cs => (read cs).bind fun (a, rest) => next a rest := by
  intro cs b rest h
  obtain ⟨⟨a, middle⟩, ha, hb⟩ := bind_eq_ok.1 h
  obtain ⟨front, rfl, hfront⟩ := hread ha
  obtain ⟨back, rfl, hback⟩ := hnext a hb
  exact ⟨front ++ back, (List.append_assoc ..).symm, hfront.append hback⟩

theorem map (hread : Firm read) (g : α → β) : Firm fun cs => (read cs).map fun (a, rest) => (g a, rest) := by
  intro cs b rest h
  obtain ⟨⟨a, middle⟩, ha, hb⟩ := map_eq_ok.1 h
  cases hb
  exact hread ha

end Firm

end Combinators

/-! ## Tokens -/

theorem isWhiteSpace_of_isDigit {c : Char} (h : c.isDigit = true) : isWhiteSpace c = false := by
  have hbounds : 48 ≤ c.toNat ∧ c.toNat ≤ 57 := by
    simpa [Char.isDigit, UInt32.le_iff_toNat_le] using h
  simp only [isWhiteSpace, whiteSpaceRanges, List.any_cons, List.any_nil, Bool.or_false, Bool.or_eq_false_iff,
    Bool.and_eq_false_iff, decide_eq_false_iff_not]
  omega

namespace Numeral

theorem firm_readSign : Firm fun cs => .ok (readSign cs) := by
  intro cs negative rest h
  obtain ⟨-, hrest⟩ := Prod.mk.inj (Except.ok.inj h)
  subst hrest
  split
  · exact TakenFirmly.nothing.cons (by decide)
  · exact .nothing

theorem firm_readDigits : Firm readDigits := by
  intro cs digits rest h
  unfold readDigits at h
  split at h
  · cases h
  · split at h
    · obtain ⟨rfl, rfl⟩ := Prod.mk.inj (Except.ok.inj h)
      refine ⟨_, (spanDigits_append _).symm, fun c hc => ?_⟩
      exact isWhiteSpace_of_isDigit (isDigit_of_mem_spanDigits c (List.mem_of_getLast? hc))
    · cases h

theorem firm_readWhole : Firm readWhole := by
  intro cs digits rest h
  unfold readWhole at h
  split at h
  · split at h
    · split at h
      · cases h
      · cases h
        exact TakenFirmly.nothing.cons (by decide)
    · cases h
      exact TakenFirmly.nothing.cons (by decide)
  · exact firm_readDigits h

theorem firm_readFraction : Firm readFraction := by
  intro cs fraction rest h
  unfold readFraction at h
  split at h
  · exact (firm_readDigits.map some h).cons (by decide)
  · cases h
    exact .nothing

theorem firm_readSignedDigits : Firm readSignedDigits := by
  intro cs e rest h
  unfold readSignedDigits at h
  split at h
  · exact (firm_readDigits.map (WrittenExponent.mk true) h).cons (by decide)
  · exact (firm_readDigits.map (WrittenExponent.mk false) h).cons (by decide)
  · exact firm_readDigits.map (WrittenExponent.mk false) h

theorem firm_readExponent : Firm readExponent := by
  intro cs e rest h
  unfold readExponent at h
  split at h
  · split at h
    · next hc =>
      refine (firm_readSignedDigits.map some h).cons ?_
      rcases hc with rfl | rfl <;> decide
    · cases h
      exact .nothing
  · cases h
    exact .nothing

theorem firm_readParts : Firm readParts :=
  firm_readSign.bind fun negative => firm_readWhole.bind fun whole => firm_readFraction.bind fun fraction =>
    firm_readExponent.bind fun exponent => .ok (Numeral.mk negative whole fraction exponent)

theorem firm_read : Firm read := by
  have hvalue (n : Numeral) : Firm fun rest => (n.value rest).bind fun x => .ok (x, rest) := by
    intro cs x rest h
    obtain ⟨y, -, heq⟩ := bind_eq_ok.1 h
    cases heq
    exact .nothing
  exact firm_readParts.bind hvalue

end Numeral

namespace StringLiteral

/-- A string is read up to its quote. -/
theorem exists_eq_append_quote : ∀ {n : Nat} {done cs rest : List Char} {s : String},
    readChars n done cs = .ok (s, rest) → ∃ text, cs = text ++ '"' :: rest
  | 0, _, _, _, _, h => by cases h
  | _ + 1, _, [], _, _, h => by cases h
  | n + 1, done, c :: cs, rest, s, h => by
    rw [readChars] at h
    split at h
    · next hquote =>
      cases h
      exact ⟨[], by rw [hquote, List.nil_append]⟩
    · split at h
      · split at h
        · next hescape =>
          obtain ⟨front, rfl, -⟩ := local_readEscape hescape
          obtain ⟨back, rfl⟩ := exists_eq_append_quote h
          exact ⟨c :: front ++ back, by simp⟩
        · cases h
      · split at h
        · cases h
        · obtain ⟨text, rfl⟩ := exists_eq_append_quote h
          exact ⟨c :: text, rfl⟩

theorem firm_read : Firm read := by
  intro cs s rest h
  obtain ⟨text, rfl⟩ := exists_eq_append_quote h
  refine ⟨text ++ ['"'], by simp, fun c hc => ?_⟩
  rw [List.getLast?_concat] at hc
  cases hc
  decide

end StringLiteral

theorem firm_readWord (v : Json) {word : List Char} (hword : word.any isWhiteSpace = false) :
    Firm (readWord v word) := by
  induction word with
  | nil => exact .ok v
  | cons c word ih =>
    obtain ⟨hc, hword⟩ := Bool.or_eq_false_iff.1 (List.any_cons ▸ hword)
    intro cs w rest h
    cases cs with
    | nil => cases h
    | cons d cs =>
      rw [readWord] at h
      split at h
      · next heq => exact (ih hword h).cons (heq ▸ hc)
      · cases h

/-! ## Values -/

theorem isWhiteSpace_of_mem_words {c : Char} {word : List Char} {v : Json} (h : (c, word, v) ∈ words) :
    isWhiteSpace c = false ∧ word.any isWhiteSpace = false :=
  of_mem_words (P := fun c word _ => isWhiteSpace c = false ∧ word.any isWhiteSpace = false) (by decide) (by decide)
    (by decide) h

theorem isWhiteSpace_of_begins {c : Char} (h : c = '-' ∨ c.isDigit = true) : isWhiteSpace c = false := by
  rcases h with rfl | h
  · decide
  · exact isWhiteSpace_of_isDigit h

theorem Closes.isWhiteSpace_eq_false {c : Char} (h : Closes c) : isWhiteSpace c = false := by
  rcases h with rfl | rfl | rfl <;> decide

/-- A list is read up to its closing character. -/
theorem ItemReader.TextsOf.takenFirmly {α : Type} {r : ItemReader α} {IsText : List Char → α → Prop}
    (hr : r.TextsOf IsText) {cs rest : List Char} {v : Json}
    (h : readValue (r.depth + 1) (r.opening :: cs) = .ok (v, rest)) : TakenFirmly (r.opening :: cs) rest := by
  have hends (text : List Char) : EndsFirmly (text ++ [r.closing]) := by
    intro c hc
    rw [List.getLast?_concat] at hc
    exact Option.some.inj hc ▸ r.closes.isWhiteSpace_eq_false
  rcases hr.exists_texts_of_readValue h with ⟨blanks, rfl, -⟩ | ⟨texts, -, -, hcs, -, -⟩
  · exact ⟨r.opening :: blanks.val ++ [r.closing], by simp, hends _⟩
  · exact ⟨r.text texts, hcs, by rw [ItemReader.text]; exact hends _⟩

/-- A token neither begins nor ends with white space. -/
theorem takenFirmly_of_readValue {depth : Nat} {c : Char} (hblank : isBlank c = false) {cs rest : List Char} {v : Json}
    (h : readValue depth (c :: cs) = .ok (v, rest)) : isWhiteSpace c = false ∧ TakenFirmly (c :: cs) rest := by
  by_cases hbracket : c = '['
  · subst hbracket
    cases depth with
    | zero =>
      rw [readValue.eq_def, skipBlank_cons hblank] at h
      cases h
    | succ depth => exact ⟨by decide, (textsOf_elements (local_readValue depth)).takenFirmly h⟩
  · by_cases hbrace : c = '{'
    · subst hbrace
      cases depth with
      | zero =>
        rw [readValue.eq_def, skipBlank_cons hblank] at h
        cases h
      | succ depth => exact ⟨by decide, (textsOf_members (local_readValue depth)).takenFirmly h⟩
    · rcases scalar_cases hblank hbracket hbrace h with ⟨word, hword, hread⟩ | ⟨rfl, s, hread, -⟩ | ⟨hc, n, hread, -⟩
      · obtain ⟨hc, hword⟩ := isWhiteSpace_of_mem_words hword
        exact ⟨hc, (firm_readWord v hword hread).cons hc⟩
      · exact ⟨by decide, (StringLiteral.firm_read hread).cons (by decide)⟩
      · exact ⟨isWhiteSpace_of_begins hc, Numeral.firm_read hread⟩

/-! ## Whole texts -/

/-- White space at the front of a text stands before the first token. -/
theorem mem_of_append_eq {front rest lead token rest' : List Char} (h : front ++ rest = lead ++ (token ++ rest'))
    (hfront : ∀ c ∈ front, isWhiteSpace c = true) (hne : token ≠ [])
    (htoken : ∀ c, token.head? = some c → isWhiteSpace c = false) {c : Char} (hc : c ∈ front) : c ∈ lead := by
  obtain ⟨d, token, rfl⟩ := List.exists_cons_of_ne_nil hne
  rcases List.append_eq_append_iff.1 h with ⟨more, rfl, -⟩ | ⟨more, rfl, hmore⟩
  · exact List.mem_append_left more hc
  · cases more with
    | nil => simpa using hc
    | cons e more =>
      obtain ⟨rfl, -⟩ := List.cons.inj hmore
      have hwhite := hfront d (by simp)
      rw [htoken d rfl] at hwhite
      cases hwhite

/-- A text that is read is a token with blanks around it, and the token neither begins nor ends with white space. -/
theorem exists_margins_of_parse {s : String} {v : Json} (h : parse s = .ok v) :
    ∃ (lead trail : Blanks) (token : List Char), s.toList = lead.val ++ token ++ trail.val ∧ token ≠ [] ∧
      (∀ c, token.head? = some c → isWhiteSpace c = false) ∧ EndsFirmly token := by
  obtain ⟨lead, trail, c, cs, hs, hblank, hread⟩ := exists_token_of_parse h
  obtain ⟨hc, token, hcs, htoken⟩ := takenFirmly_of_readValue hblank hread
  cases token with
  | nil =>
    -- the token is not empty: its first character is no blank
    have hmem : c ∈ trail.val := by
      rw [List.nil_append] at hcs
      exact hcs ▸ List.mem_cons_self
    rw [trail.2 c hmem] at hblank
    cases hblank
  | cons d token =>
    obtain ⟨rfl, -⟩ := List.cons.inj hcs
    refine ⟨lead, trail, c :: token, by rw [hs, hcs, List.append_assoc], List.cons_ne_nil _ _, ?_, htoken⟩
    rintro d ⟨⟩
    exact hc

/-- A text that is read is not blank. -/
theorem isBlank_eq_false_of_parse {s : String} {v : Json} (h : parse s = .ok v) : Text.isBlank s = false := by
  obtain ⟨lead, trail, token, hs, hne, hhead, -⟩ := exists_margins_of_parse h
  obtain ⟨c, token, rfl⟩ := List.exists_cons_of_ne_nil hne
  rw [Text.isBlank, hs, List.all_eq_false]
  exact ⟨c, by simp, by simp [hhead c rfl]⟩

/-- **White space at the ends of a text that is read is blank.** -/
theorem isBlank_of_parse {s : String} {v : Json} (h : parse s = .ok v) {front core back : List Char}
    (hs : s.toList = front ++ core ++ back) (hfront : ∀ c ∈ front, isWhiteSpace c = true)
    (hback : ∀ c ∈ back, isWhiteSpace c = true) : ∀ c ∈ front ++ back, isBlank c = true := by
  obtain ⟨lead, trail, token, hs', hne, hhead, hlast⟩ := exists_margins_of_parse h
  rw [hs, List.append_assoc, List.append_assoc] at hs'
  intro c hc
  rcases List.mem_append.1 hc with hc | hc
  · exact lead.2 c (mem_of_append_eq hs' hfront hne hhead hc)
  · -- the other end is the first one of the reversed text
    have hreverse := congrArg List.reverse hs'
    simp only [List.reverse_append, List.append_assoc] at hreverse
    refine trail.2 c (List.mem_reverse.1 (mem_of_append_eq hreverse ?_ ?_ ?_ (List.mem_reverse.2 hc)))
    · exact fun d hd => hback d (List.mem_reverse.1 hd)
    · simpa using hne
    · exact fun d hd => hlast d (by rwa [List.head?_reverse] at hd)

end QueryDsl.Json
