import QueryDsl.Proofs.Checks
import QueryDsl.Proofs.Json.Frames
import QueryDsl.Proofs.Json.IntegerLiteral

/-!
# What a reader has read

A reader that succeeds has taken a text, and it takes this text in the same way whatever follows (`Local`); a numeral
has to be followed by something that ends it. The steps of a reader pass on what their texts begin with, so that a
chain of local readers is local (`Local.bind`).
-/

namespace QueryDsl.Json

open Checks

section Combinators

variable {α β : Type} {before between after : List Char → Prop} {read : List Char → Reading α}
  {cs rest : List Char} {a : α}

/-- The reader takes a text, up to the rest, that it takes again before whatever is `after`; then the text and what
follows are `before`. -/
def Takes (before after : List Char → Prop) (read : List Char → Reading α) (cs : List Char) (a : α)
    (rest : List Char) : Prop :=
  ∃ text, cs = text ++ rest ∧ ∀ more, after more → before (text ++ more) ∧ read (text ++ more) = .ok (a, more)

/-- Where the reader succeeds, it takes a text. -/
def Local (before after : List Char → Prop) (read : List Char → Reading α) : Prop :=
  ∀ ⦃cs a rest⦄, read cs = .ok (a, rest) → Takes before after read cs a rest

/-- Whatever follows. -/
def Anything : List Char → Prop := fun _ => True

theorem Takes.nothing (h : ∀ more, after more → before more ∧ read more = .ok (a, more)) :
    Takes before after read rest a rest :=
  ⟨[], rfl, h⟩

/-- Characters that another reader passes over. -/
theorem Takes.prepend {before' : List Char → Prop} {read' : List Char → Reading α}
    (h : Takes before after read cs a rest) (front : List Char) (hbefore : ∀ more, before' (front ++ more))
    (hread : ∀ more, before more → read' (front ++ more) = read more) :
    Takes before' after read' (front ++ cs) a rest := by
  obtain ⟨text, rfl, htext⟩ := h
  refine ⟨front ++ text, (List.append_assoc ..).symm, fun more hmore => ?_⟩
  obtain ⟨hbefore', hok⟩ := htext more hmore
  rw [List.append_assoc, hread _ hbefore']
  exact ⟨hbefore _, hok⟩

theorem Takes.mono {after' : List Char → Prop} (h : Takes before after read cs a rest)
    (hafter : ∀ more, after' more → after more) : Takes before after' read cs a rest :=
  let ⟨text, hcs, htext⟩ := h
  ⟨text, hcs, fun more hmore => htext more (hafter more hmore)⟩

namespace Local

theorem ok (after : List Char → Prop) (a : α) : Local after after fun cs => .ok (a, cs) := by
  intro cs b rest h
  cases h
  exact .nothing fun more hmore => ⟨hmore, rfl⟩

theorem bind {next : α → List Char → Reading β} (hread : Local before between read)
    (hnext : ∀ a, Local between after (next a)) :
    Local before after fun cs => (read cs).bind fun (a, rest) => next a rest := by
  intro cs b rest h
  obtain ⟨⟨a, middle⟩, ha, hb⟩ := bind_eq_ok.1 h
  obtain ⟨front, rfl, hfront⟩ := hread ha
  obtain ⟨back, rfl, hback⟩ := hnext a hb
  refine ⟨front ++ back, (List.append_assoc ..).symm, fun more hmore => ?_⟩
  obtain ⟨hbetween, hb⟩ := hback more hmore
  obtain ⟨hbefore, ha⟩ := hfront _ hbetween
  rw [List.append_assoc]
  exact ⟨hbefore, bind_eq_ok.2 ⟨_, ha, hb⟩⟩

theorem map (hread : Local before after read) (g : α → β) :
    Local before after fun cs => (read cs).map fun (a, rest) => (g a, rest) := by
  intro cs b rest h
  obtain ⟨⟨a, middle⟩, ha, hb⟩ := map_eq_ok.1 h
  cases hb
  obtain ⟨text, rfl, htext⟩ := hread ha
  exact ⟨text, rfl, fun more hmore => ⟨(htext more hmore).1, map_eq_ok.2 ⟨_, (htext more hmore).2, rfl⟩⟩⟩

theorem ite {p : Prop} [Decidable p] {read' : List Char → Reading α} (hread : p → Local before after read)
    (hread' : ¬ p → Local before after read') : Local before after fun cs => if p then read cs else read' cs := by
  by_cases hp : p
  · simpa only [if_pos hp] using hread hp
  · simpa only [if_neg hp] using hread' hp

theorem faultAfter (cause : Cause) : Local before after fun rest => (Json.faultAfter cause rest : Reading α) := by
  intro cs a rest h
  cases h

end Local

end Combinators

/-! ## Strings -/

namespace StringLiteral

theorem local_readHex : Local Anything Anything readHex := by
  intro cs n rest h
  unfold readHex at h
  split at h
  · next a b c d rest' =>
    split at h
    · next n' hn =>
      cases h
      exact ⟨[a, b, c, d], rfl, fun more _ => ⟨trivial, by simp [readHex, hn]⟩⟩
    · cases h
  · split at h <;> cases h

theorem local_readLowSurrogate (high : Nat) : Local Anything Anything (readLowSurrogate high) := by
  intro cs c rest h
  unfold readLowSurrogate at h
  split at h
  · cases h
  · cases h
  · have hlow := local_readHex.bind fun low => Local.ite (p := isLowSurrogate low)
      (fun _ => .ok Anything (pairedChar high low)) fun _ => .faultAfter .loneSurrogate
    exact (hlow h).prepend ['\\', 'u'] (fun _ => trivial) fun _ _ => rfl
  · cases h
  · cases h

theorem local_readCodePoint : Local Anything Anything readCodePoint :=
  local_readHex.bind fun n => .ite (p := isLowSurrogate n) (fun _ => .faultAfter .loneSurrogate) fun _ =>
    .ite (p := isHighSurrogate n) (fun _ => local_readLowSurrogate n) fun _ => .ok Anything (Char.ofNat n)

theorem local_readEscape : Local Anything Anything readEscape := by
  intro cs c rest h
  unfold readEscape at h
  split at h
  · cases h
  · next d rest' =>
    split at h
    · next e he =>
      cases h
      exact ⟨[d], rfl, fun more _ => ⟨trivial, by simp [readEscape, he]⟩⟩
    · next hnone =>
      split at h
      · next hu =>
        refine (local_readCodePoint h).prepend [d] (fun _ => trivial) fun more _ => ?_
        simp only [readEscape, List.singleton_append, hnone, if_pos hu]
      · cases h

/-- The characters of a string are read again with as much fuel as there are characters. -/
theorem exists_of_readChars : ∀ {n : Nat} {done cs rest : List Char} {s : String}, readChars n done cs = .ok (s, rest) →
    ∃ text, cs = text ++ rest ∧ ∀ m more, text.length ≤ m → readChars m done (text ++ more) = .ok (s, more)
  | 0, _, _, _, _, h => by cases h
  | _ + 1, _, [], _, _, h => by cases h
  | n + 1, done, c :: cs, rest, s, h => by
    rw [readChars] at h
    split at h
    · next hquote =>
      cases h
      refine ⟨[c], rfl, fun m more hm => ?_⟩
      rw [List.length_singleton] at hm
      obtain ⟨k, rfl⟩ := Nat.exists_eq_add_of_le' hm
      rw [List.singleton_append, readChars, if_pos hquote]
    · next hquote =>
      split at h
      · next hbackslash =>
        split at h
        · next d middle hescape =>
          obtain ⟨front, rfl, hfront⟩ := local_readEscape hescape
          obtain ⟨back, rfl, hback⟩ := exists_of_readChars h
          refine ⟨c :: front ++ back, by simp, fun m more hm => ?_⟩
          rw [List.cons_append, List.length_cons, List.length_append] at hm
          obtain ⟨k, rfl⟩ := Nat.exists_eq_add_of_le' (Nat.le_trans (Nat.le_add_left 1 _) hm)
          rw [List.cons_append, List.cons_append, List.append_assoc, readChars, if_neg hquote, if_pos hbackslash,
            (hfront (back ++ more) trivial).2]
          exact hback k more (by omega)
        · cases h
      · next hbackslash =>
        split at h
        · cases h
        · next hcontrol =>
          obtain ⟨text, rfl, htext⟩ := exists_of_readChars h
          refine ⟨c :: text, rfl, fun m more hm => ?_⟩
          rw [List.length_cons] at hm
          obtain ⟨k, rfl⟩ := Nat.exists_eq_add_of_le' (Nat.le_trans (Nat.le_add_left 1 _) hm)
          rw [List.cons_append, readChars, if_neg hquote, if_neg hbackslash, if_neg hcontrol]
          exact htext k more (by omega)

theorem local_read : Local Anything Anything read := by
  intro cs s rest h
  obtain ⟨text, rfl, htext⟩ := exists_of_readChars h
  exact ⟨text, rfl, fun more _ => ⟨trivial, htext _ more (by simp)⟩⟩

end StringLiteral

/-! ## Numerals -/

/-- A digit begins the text. -/
def BeginsDigits (text : List Char) : Prop := ∃ c more, text = c :: more ∧ c.isDigit = true

/-- A sign or a digit begins the text. -/
def BeginsNumeral (text : List Char) : Prop := ∃ c more, text = c :: more ∧ (c = '-' ∨ c.isDigit = true)

/-- No digit and no point begins the text. -/
def EndsWhole (rest : List Char) : Prop := NoDigit rest ∧ rest.head? ≠ some '.'

theorem EndsNumeral.endsWhole {rest : List Char} (h : EndsNumeral rest) : EndsWhole rest := ⟨h.noDigit, h.head?_ne⟩

namespace Numeral

theorem local_readSign : Local BeginsNumeral BeginsDigits fun cs => .ok (readSign cs) := by
  intro cs negative rest h
  obtain ⟨rfl, rfl⟩ := Prod.mk.inj (Except.ok.inj h)
  unfold readSign
  split
  · exact ⟨['-'], rfl, fun more _ => ⟨⟨'-', more, rfl, Or.inl rfl⟩, rfl⟩⟩
  · refine .nothing ?_
    rintro _ ⟨c, more, rfl, hc⟩
    refine ⟨⟨c, more, rfl, Or.inr hc⟩, ?_⟩
    split
    · next heq => exact absurd (List.cons.inj heq).1 (ne_of_isDigit hc (by decide))
    · rfl

theorem local_readDigits : Local BeginsDigits NoDigit readDigits := by
  intro cs digits rest h
  unfold readDigits at h
  split at h
  · cases h
  · next c cs' =>
    split at h
    · next hc =>
      have hspan : spanDigits (c :: cs') = (digits, rest) := Except.ok.inj h
      have happend := spanDigits_append (c :: cs')
      have hall : ∀ d ∈ (spanDigits (c :: cs')).1, d.isDigit = true := isDigit_of_mem_spanDigits
      rw [hspan] at happend hall
      obtain ⟨more, rfl⟩ : ∃ more, digits = c :: more := by
        simp only [spanDigits, List.takeWhile_cons, hc, if_true, Prod.mk.injEq] at hspan
        exact ⟨_, hspan.1.symm⟩
      exact ⟨c :: more, happend.symm, fun after hafter => ⟨⟨c, _, rfl, hc⟩, readDigits_append hall hafter⟩⟩
    · cases h

theorem local_readWhole : Local BeginsDigits NoDigit readWhole := by
  intro cs digits rest h
  unfold readWhole at h
  split at h
  · next rest' =>
    have heq : (['0'], rest') = (digits, rest) := by
      split at h
      · split at h
        · cases h
        · exact Except.ok.inj h
      · exact Except.ok.inj h
    cases heq
    exact ⟨['0'], rfl, fun more hmore => ⟨⟨'0', more, rfl, by decide⟩, readWhole_zero hmore⟩⟩
  · next hne =>
    obtain ⟨text, rfl, htext⟩ := local_readDigits h
    refine ⟨text, rfl, fun more hmore => ⟨(htext more hmore).1, ?_⟩⟩
    cases text with
    | nil =>
      -- what follows begins with no digit, so the text has one
      obtain ⟨c, cs, rfl, hc⟩ := (htext more hmore).1
      cases hc.symm.trans (hmore c rfl)
    | cons c text =>
      rw [List.cons_append, readWhole_of_ne fun hzero => hne (text ++ rest) (by rw [hzero]; rfl)]
      exact (htext more hmore).2

theorem local_readFraction : Local NoDigit EndsWhole readFraction := by
  intro cs fraction rest h
  unfold readFraction at h
  split at h
  · have hpoint : ∀ more, NoDigit ('.' :: more) := by
      rintro more c ⟨⟩
      decide
    exact ((local_readDigits.map some h).prepend ['.'] hpoint fun _ _ => rfl).mono fun _ => And.left
  · cases h
    exact .nothing fun more hmore => ⟨hmore.1, readFraction_of_head?_ne hmore.2⟩

theorem local_readSignedDigits : Local Anything NoDigit readSignedDigits := by
  intro cs e rest h
  unfold readSignedDigits at h
  split at h
  · exact (local_readDigits.map (WrittenExponent.mk true) h).prepend ['-'] (fun _ => trivial) fun _ _ => rfl
  · exact (local_readDigits.map (WrittenExponent.mk false) h).prepend ['+'] (fun _ => trivial) fun _ _ => rfl
  · -- without a sign, the digits have to be told from one
    refine (local_readDigits.map (WrittenExponent.mk false) h).prepend [] (fun _ => trivial) ?_
    rintro _ ⟨c, more, rfl, hc⟩
    unfold readSignedDigits
    split
    · next heq => exact absurd (List.cons.inj heq).1 (ne_of_isDigit hc (by decide))
    · next heq => exact absurd (List.cons.inj heq).1 (ne_of_isDigit hc (by decide))
    · rfl

theorem local_readExponent : Local EndsWhole EndsNumeral readExponent := by
  intro cs e rest h
  unfold readExponent at h
  split at h
  · next c rest' =>
    split at h
    · next hc =>
      have hletter : ∀ more, EndsWhole (c :: more) := by
        intro more
        rcases hc with rfl | rfl <;> exact ⟨by rintro d ⟨⟩; decide, by simp⟩
      refine Takes.mono ?_ fun _ => EndsNumeral.noDigit
      exact (local_readSignedDigits.map some h).prepend [c] hletter fun more _ => if_pos hc
    · cases h
      exact .nothing fun more hmore => ⟨hmore.endsWhole, readExponent_of_ends hmore⟩
  · cases h
    exact .nothing fun more hmore => ⟨hmore.endsWhole, readExponent_of_ends hmore⟩

theorem local_readParts : Local BeginsNumeral EndsNumeral readParts :=
  local_readSign.bind fun negative => local_readWhole.bind fun whole => local_readFraction.bind fun fraction =>
    local_readExponent.bind fun exponent => .ok EndsNumeral (Numeral.mk negative whole fraction exponent)

/-- A value that is read depends on the numeral alone. -/
theorem value_eq_ok {n : Numeral} {rest : List Char} {x : Number} (h : n.value rest = .ok x) (more : List Char) :
    n.value more = .ok x := by
  unfold value at h ⊢
  cases hint : n.integer? with
  | some i => simpa only [hint] using h
  | none =>
    simp only [hint] at h ⊢
    split at h
    · split at h
      · exact h
      · cases h
    · split at h
      · next hzero => rwa [if_pos hzero]
      · cases h

theorem local_read : Local BeginsNumeral EndsNumeral read := by
  have hvalue (n : Numeral) : Local EndsNumeral EndsNumeral fun rest => (n.value rest).bind fun x => .ok (x, rest) := by
    intro cs x rest h
    obtain ⟨y, hy, heq⟩ := bind_eq_ok.1 h
    cases heq
    exact .nothing fun more hmore => ⟨hmore, bind_eq_ok.2 ⟨x, value_eq_ok hy more, rfl⟩⟩
  exact local_readParts.bind hvalue

end Numeral

/-! ## Words -/

theorem local_readWord (v : Json) (word : List Char) : Local Anything Anything (readWord v word) := by
  induction word with
  | nil => exact .ok Anything v
  | cons c word ih =>
    intro cs w rest h
    cases cs with
    | nil => cases h
    | cons d cs =>
      rw [readWord] at h
      split at h
      · next heq => exact (ih h).prepend [d] (fun _ => trivial) fun more _ => if_pos heq
      · cases h

theorem eq_of_readWord {v w : Json} {word cs rest : List Char} (h : readWord v word cs = .ok (w, rest)) : w = v := by
  induction word generalizing cs with
  | nil =>
    cases h
    rfl
  | cons c word ih =>
    cases cs with
    | nil => cases h
    | cons d cs =>
      rw [readWord] at h
      split at h
      · exact ih h
      · cases h

end QueryDsl.Json
