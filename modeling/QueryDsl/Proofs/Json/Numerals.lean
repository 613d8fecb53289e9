import Mathlib.Data.List.TakeWhile
import QueryDsl.Proofs.Json.ItemTexts

/-!
# Reading numerals

A numeral ends where no character of one follows (`EndsNumeral`). Its parts are read up to there, and its digits are
taken into a word exactly while their number keeps the bound (`Numeral.absorb_of_le`, `Numeral.absorb_of_lt`). A text
that is taken apart as a numeral (`IsNumeralText`) is read as its value, or it is out of range with it.
-/

namespace QueryDsl.Json

/-! ## Parts -/

/-- No character of a numeral begins the text. -/
def EndsNumeral (rest : List Char) : Prop :=
  ∀ c, rest.head? = some c → c.isDigit = false ∧ c ≠ '.' ∧ c ≠ 'e' ∧ c ≠ 'E'

/-- Blanks before a closing character end a numeral. -/
theorem endsNumeral_blanks (trail : Blanks) {c : Char} (hc : Closes c) (rest : List Char) :
    EndsNumeral (trail.val ++ c :: rest) := by
  obtain ⟨blanks, hblanks⟩ := trail
  intro d hd
  cases blanks with
  | nil =>
    obtain rfl := Option.some.inj hd
    rcases hc with rfl | rfl | rfl <;> decide
  | cons b blanks =>
    obtain rfl := Option.some.inj hd
    have hb := hblanks b List.mem_cons_self
    simp only [isBlank, Bool.or_eq_true, beq_iff_eq] at hb
    rcases hb with ((rfl | rfl) | rfl) | rfl <;> decide

theorem ne_of_isDigit {c d : Char} (hc : c.isDigit = true) (hd : d.isDigit = false) : c ≠ d := by
  rintro rfl
  simp [hc] at hd

/-- No digit begins the text. -/
def NoDigit (rest : List Char) : Prop := ∀ c, rest.head? = some c → c.isDigit = false

namespace Numeral

variable {rest : List Char}

theorem readDigits_append {c : Char} {digits : List Char} (hdigits : ∀ d ∈ c :: digits, d.isDigit = true)
    (h : NoDigit rest) : readDigits (c :: digits ++ rest) = .ok (c :: digits, rest) := by
  have hrest : rest.takeWhile Char.isDigit = [] ∧ rest.dropWhile Char.isDigit = rest := by
    cases rest with
    | nil => exact ⟨rfl, rfl⟩
    | cons d cs => simp [h d rfl]
  rw [List.cons_append, readDigits, if_pos (hdigits c List.mem_cons_self), ← List.cons_append, spanDigits,
    List.takeWhile_append_of_pos hdigits, List.dropWhile_append_of_pos hdigits, hrest.1, hrest.2, List.append_nil]

theorem readWhole_zero (h : NoDigit rest) : readWhole ('0' :: rest) = .ok (['0'], rest) := by
  cases rest with
  | nil => rfl
  | cons d cs => simp [readWhole, h d rfl]

theorem readWhole_of_ne {c : Char} (hc : c ≠ '0') (cs : List Char) : readWhole (c :: cs) = readDigits (c :: cs) := by
  unfold readWhole
  split
  · next heq => exact absurd (List.cons.inj heq).1 hc
  · rfl

theorem readFraction_of_head?_ne (h : rest.head? ≠ some '.') : readFraction rest = .ok (none, rest) := by
  unfold readFraction
  split
  · exact absurd rfl h
  · rfl

theorem readExponent_of_ends (h : EndsNumeral rest) : readExponent rest = .ok (none, rest) := by
  cases rest with
  | nil => rfl
  | cons c cs =>
    obtain ⟨-, -, he, hE⟩ := h c rfl
    rw [readExponent, if_neg (not_or.2 ⟨he, hE⟩)]

end Numeral

theorem EndsNumeral.noDigit {rest : List Char} (h : EndsNumeral rest) : NoDigit rest := fun c hc => (h c hc).1

theorem EndsNumeral.head?_ne {rest : List Char} (h : EndsNumeral rest) : rest.head? ≠ some '.' :=
  fun he => (h '.' he).2.1 rfl

theorem isBlank_of_begins {c : Char} (h : c = '-' ∨ c.isDigit = true) : isBlank c = false := by
  rcases h with rfl | h
  · decide
  · have hne (d : Char) (hd : d.isDigit = false) : (c == d) = false := beq_false_of_ne (ne_of_isDigit h hd)
    simp [isBlank, hne ' ' (by decide), hne '\n' (by decide), hne '\r' (by decide), hne '\t' (by decide)]

/-- A value that begins with a sign or a digit is a numeral. -/
theorem readValue_numeral {c : Char} (h : c = '-' ∨ c.isDigit = true) (cs : List Char) (depth : Nat) :
    readValue depth (c :: cs) = (Numeral.read (c :: cs)).map fun (n, rest) => (.num n, rest) := by
  have hne (d : Char) (hd : (d == '-' || d.isDigit) = false) : c ≠ d := by
    rintro rfl
    simp_all
  rw [readValue.eq_def, skipBlank_cons (isBlank_of_begins h)]
  split
  case h_8 heq =>
    obtain ⟨rfl, rfl⟩ := List.cons.inj heq
    exact if_pos h
  case h_1 heq => cases heq
  all_goals
    next heq => exact absurd (List.cons.inj heq).1 (hne _ (by decide))

/-! ## Values -/

namespace Numeral

variable {bound : Nat}

/-- Digits whose number keeps the bound are all taken. -/
theorem absorb_of_le : ∀ {cs : List Char} {n : Nat}, Nat.ofDigitChars 10 cs n ≤ bound →
    absorb bound n cs = (Nat.ofDigitChars 10 cs n, [])
  | [], n, _ => rfl
  | c :: cs, n, h => by
    rw [Nat.ofDigitChars_cons] at h ⊢
    have hstep : 10 * n + digitValue c ≤ bound := by
      rw [Nat.ofDigitChars_eq_ofDigitChars_zero] at h
      have hpow : 1 ≤ 10 ^ cs.length := Nat.one_le_pow _ _ (by decide)
      calc 10 * n + digitValue c ≤ 10 ^ cs.length * (10 * n + digitValue c) := Nat.le_mul_of_pos_left _ hpow
        _ ≤ bound := le_trans (Nat.le_add_right _ _) h
    rw [absorb, if_pos hstep]
    exact absorb_of_le h

/-- Digits whose number exceeds the bound are not all taken. -/
theorem absorb_of_lt : ∀ {cs : List Char} {n : Nat}, n ≤ bound → bound < Nat.ofDigitChars 10 cs n →
    (absorb bound n cs).2 ≠ []
  | [], n, hn, h => absurd h (Nat.not_lt.2 hn)
  | c :: cs, n, hn, h => by
    rw [Nat.ofDigitChars_cons] at h
    rw [absorb]
    split
    · next hstep => exact absorb_of_lt hstep h
    · exact List.cons_ne_nil _ _

theorem exists_float_of_double {negative : Bool} {significand : Nat} {exponent : Int} {x : Number}
    (h : double negative significand exponent = some x) : ∃ y, x = .float y := by
  unfold double at h
  obtain ⟨m, -, h⟩ := Option.bind_eq_some_iff.1 h
  obtain ⟨scaled, -, h⟩ := Option.bind_eq_some_iff.1 h
  exact ⟨_, (Option.some.inj h).symm⟩

end Numeral

/-! ## Texts of numerals -/

/-- The text begins like a numeral, and it is taken apart as the numeral before whatever ends one. -/
structure IsNumeralText (text : List Char) (n : Numeral) : Prop where
  begins : ∃ c cs, text = c :: cs ∧ (c = '-' ∨ c.isDigit = true)
  readParts_append : ∀ {rest}, EndsNumeral rest → Numeral.readParts (text ++ rest) = .ok (n, rest)

namespace IsNumeralText

variable {text : List Char} {n : Numeral}

theorem read_append (h : IsNumeralText text n) {rest : List Char} (hrest : EndsNumeral rest) :
    Numeral.read (text ++ rest) = (n.value rest).map (·, rest) := by
  rw [Numeral.read, h.readParts_append hrest]
  simp only [bind, Except.bind]
  cases n.value rest <;> rfl

theorem readValue_append (h : IsNumeralText text n) (lead trail : Blanks) (depth : Nat) {c : Char} (hc : Closes c)
    (rest : List Char) : readValue depth (skipBlank (lead.val ++ text ++ trail.val ++ c :: rest)) =
      (n.value (trail.val ++ c :: rest)).map fun x => (.num x, trail.val ++ c :: rest) := by
  obtain ⟨first, more, htext, hfirst⟩ := h.begins
  have hnumeral := readValue_numeral hfirst (more ++ (trail.val ++ c :: rest)) depth
  rw [← List.cons_append, ← htext, h.read_append (endsNumeral_blanks trail hc rest)] at hnumeral
  rw [List.append_assoc, List.append_assoc, skipBlank_append, readValue_skipBlank, hnumeral]
  cases n.value (trail.val ++ c :: rest) <;> rfl

/-- With blanks around it the text is read as the value of the numeral. -/
theorem reads (h : IsNumeralText text n) {x : Number} (hvalue : ∀ rest, n.value rest = .ok x) (lead trail : Blanks)
    (depth : Nat) : Reads (readValue depth) (lead.val ++ text ++ trail.val) (.num x) := by
  intro c rest hc
  refine ⟨trail.val ++ c :: rest, ?_, ?_⟩
  · rw [h.readValue_append lead trail depth hc, hvalue]
    rfl
  · rw [skipBlank_append, skipBlank_cons hc.isBlank_eq_false]

/-- With blanks around it the text is out of range where the numeral is. -/
theorem outOfRange (h : IsNumeralText text n)
    (hvalue : ∀ rest, ∃ fault, n.value rest = .error fault ∧ fault.cause = .numberOutOfRange) (lead trail : Blanks)
    (depth : Nat) : OutOfRange (readValue depth) (lead.val ++ text ++ trail.val) := by
  intro c rest hc
  obtain ⟨fault, hfault, hcause⟩ := hvalue (trail.val ++ c :: rest)
  refine ⟨fault, ?_, hcause⟩
  rw [h.readValue_append lead trail depth hc, hfault]
  rfl

end IsNumeralText

end QueryDsl.Json
