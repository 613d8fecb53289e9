import Mathlib.Data.List.Induction
import QueryDsl.Proofs.Json.IntegerLiteral

/-!
# Number literals

A number is written as an integer, and behind it a fraction and an exponent if there are any (`NumberLiteral`). The
literal is read to its end, part by part (`NumberLiteral.readParts_text`).

- `NumberLiteral.reads_word`: a plain literal, one without sign, fraction and exponent, is read as the word of its
  digits where they keep the bound, and the digits are printed back (`NumberLiteral.toDigits_magnitude`).
- `NumberLiteral.reads_no_word`: every other literal is read as a number that is no word, or it is out of range.
-/

namespace QueryDsl.Json

/-! ## Numerals that are no integers -/

/-- A numeral that is no integer is a double, or it is out of range. What follows it is no matter. -/
theorem Numeral.value_of_integer?_eq_none {n : Numeral} (h : n.integer? = none) :
    (∃ x, ∀ rest, n.value rest = .ok (.float x)) ∨
      ∀ rest, ∃ fault, n.value rest = .error fault ∧ fault.cause = .numberOutOfRange := by
  simp only [value, h]
  generalize n.significand = s
  obtain ⟨exponent, unread⟩ := absorb greatestExponent 0 (n.exponent.getD ⟨false, []⟩).digits
  generalize (n.exponent.getD ⟨false, []⟩).negative = negative
  cases unread with
  | nil =>
    dsimp only
    cases hdouble : double n.negative s.1 (s.2 + if negative then -(exponent : Int) else exponent) with
    | none => exact Or.inr fun rest => ⟨_, rfl, rfl⟩
    | some x =>
      obtain ⟨y, rfl⟩ := exists_float_of_double hdouble
      exact Or.inl ⟨y, fun rest => rfl⟩
  | cons d unread =>
    dsimp only
    split
    · exact Or.inl ⟨_, fun rest => rfl⟩
    · exact Or.inr fun rest => ⟨_, rfl, rfl⟩

/-! ## Printed digits -/

theorem digitChar_eq_ofNat : ∀ n < 10, Nat.digitChar n = Char.ofNat (n + '0'.toNat) := by decide

/-- A digit is the one of its value. -/
theorem toDigits_digitValue {d : Char} (h : d.isDigit = true) :
    Numeral.digitValue d < 10 ∧ Nat.toDigits 10 (Numeral.digitValue d) = [d] := by
  have hrange : '0'.toNat ≤ d.toNat ∧ d.toNat ≤ '9'.toNat := by
    simpa [Char.isDigit, UInt32.le_iff_toNat_le] using h
  have hlt : Numeral.digitValue d < 10 := by
    have hnine : '9'.toNat = '0'.toNat + 9 := rfl
    unfold Numeral.digitValue
    omega
  refine ⟨hlt, ?_⟩
  rw [Nat.toDigits_of_lt_base hlt, digitChar_eq_ofNat _ hlt, Numeral.digitValue, Nat.sub_add_cancel hrange.1,
    Char.ofNat_toNat]

/-- Digits with no needless zero in front are the ones of their number. -/
theorem toDigits_ofDigitChars {c : Char} (hc : c ≠ '0') {cs : List Char} (h : ∀ d ∈ c :: cs, d.isDigit = true) :
    Nat.toDigits 10 (Nat.ofDigitChars 10 (c :: cs) 0) = c :: cs := by
  -- from the right, since the last digit is what the division by ten leaves
  induction cs using List.reverseRecOn with
  | nil =>
    rw [Nat.ofDigitChars_cons, Nat.ofDigitChars_nil, Nat.mul_zero, Nat.zero_add]
    exact (toDigits_digitValue (h c List.mem_cons_self)).2
  | append_singleton cs d ih =>
    rw [← List.cons_append] at h ⊢
    obtain ⟨hcs, hd⟩ := List.forall_mem_append.1 h
    obtain ⟨hlt, hdigit⟩ := toDigits_digitValue (hd d (List.mem_singleton_self d))
    have hrest := ih hcs
    have hpos : 0 < Nat.ofDigitChars 10 (c :: cs) 0 := by
      rw [Nat.pos_iff_ne_zero]
      intro hzero
      rw [hzero] at hrest
      exact hc (List.cons.inj hrest).1.symm
    calc Nat.toDigits 10 (Nat.ofDigitChars 10 (c :: cs ++ [d]) 0)
        = Nat.toDigits 10 (10 * Nat.ofDigitChars 10 (c :: cs) 0 + Numeral.digitValue d) := by
          rw [Nat.ofDigitChars_append, Nat.ofDigitChars_cons, Nat.ofDigitChars_nil]
          rfl
      _ = Nat.toDigits 10 (Nat.ofDigitChars 10 (c :: cs) 0) ++ Nat.toDigits 10 (Numeral.digitValue d) :=
          (Nat.toDigits_append_toDigits (by decide) hpos hlt).symm
      _ = c :: cs ++ [d] := by rw [hrest, hdigit]

theorem IntegerLiteral.toDigits_magnitude (l : IntegerLiteral) : Nat.toDigits 10 l.magnitude = l.digits := by
  unfold magnitude
  rcases l.shortest with hzero | ⟨c, cs, hcons, hc⟩
  · rw [hzero]
    rfl
  · rw [hcons]
    exact toDigits_ofDigitChars hc (hcons ▸ l.isDigit)

/-! ## Literals -/

/-- One digit or more. -/
abbrev Digits := {ds : List Char // ds ≠ [] ∧ ∀ d ∈ ds, d.isDigit = true}

/-- The sign of an exponent, if it is written. -/
inductive ExponentSign where
  | absent
  | plus
  | minus

/-- The characters of a sign. -/
def ExponentSign.text : ExponentSign → List Char
  | absent => []
  | plus => ['+']
  | minus => ['-']

/-- An exponent as it is written, with its letter. -/
structure ExponentLiteral where
  letter : Char
  isLetter : letter = 'e' ∨ letter = 'E'
  sign : ExponentSign
  digits : Digits

namespace ExponentLiteral

/-- The characters of an exponent. -/
def text (e : ExponentLiteral) : List Char := e.letter :: (e.sign.text ++ e.digits.val)

/-- The exponent that is read. -/
def written (e : ExponentLiteral) : WrittenExponent := ⟨e.sign.text == ['-'], e.digits.val⟩

end ExponentLiteral

/-- A number as it is written. -/
structure NumberLiteral extends IntegerLiteral where
  fraction : Option Digits
  exponent : Option ExponentLiteral

namespace NumberLiteral

variable (l : NumberLiteral)

/-- The characters of the fraction, with the point. -/
def fractionText : List Char := l.fraction.elim [] fun ds => '.' :: ds.val

/-- The characters of the exponent. -/
def exponentText : List Char := l.exponent.elim [] ExponentLiteral.text

/-- The characters of a literal. -/
def text : List Char := l.toIntegerLiteral.text ++ (l.fractionText ++ l.exponentText)

/-- The literal as a numeral. -/
def numeral : Numeral := ⟨l.negative, l.digits, l.fraction.map Subtype.val, l.exponent.map ExponentLiteral.written⟩

/-- The literal is made of digits alone, and it writes a word of 64 bits. -/
structure IsPlain : Prop where
  unsigned : l.negative = false
  noFraction : l.fraction = none
  noExponent : l.exponent = none
  magnitude_lt : l.magnitude < 18446744073709551616

/-! ## Reading the parts -/

variable {l}

theorem exists_eq_cons_of_digits (ds : Digits) : ∃ d more, ds.val = d :: more ∧ d.isDigit = true := by
  obtain ⟨ds, hne, hdigits⟩ := ds
  obtain ⟨d, more, rfl⟩ := List.exists_cons_of_ne_nil hne
  exact ⟨d, more, rfl, hdigits d List.mem_cons_self⟩

theorem readDigits_digits (ds : Digits) {rest : List Char} (h : NoDigit rest) :
    Numeral.readDigits (ds.val ++ rest) = .ok (ds.val, rest) := by
  obtain ⟨d, more, hcons, -⟩ := exists_eq_cons_of_digits ds
  rw [hcons]
  exact Numeral.readDigits_append (hcons ▸ ds.2.2) h

/-- What follows the whole digits is no digit, and what follows the fraction is no point either. -/
theorem noDigit_exponentText (l : NumberLiteral) {rest : List Char} (h : EndsNumeral rest) :
    NoDigit (l.exponentText ++ rest) ∧ (l.exponentText ++ rest).head? ≠ some '.' := by
  unfold exponentText
  cases l.exponent with
  | none => exact ⟨h.noDigit, h.head?_ne⟩
  | some e =>
    have hhead : (e.text ++ rest).head? = some e.letter := rfl
    constructor
    · intro c hc
      obtain rfl : e.letter = c := Option.some.inj (hhead.symm.trans hc)
      rcases e.isLetter with hletter | hletter <;> rw [hletter] <;> decide
    · rw [Option.elim_some, hhead]
      rcases e.isLetter with hletter | hletter <;> rw [hletter] <;> decide

theorem noDigit_fractionText (l : NumberLiteral) {rest : List Char} (h : EndsNumeral rest) :
    NoDigit (l.fractionText ++ (l.exponentText ++ rest)) := by
  unfold fractionText
  cases l.fraction with
  | none => exact (l.noDigit_exponentText h).1
  | some ds =>
    intro c hc
    obtain rfl : '.' = c := Option.some.inj hc
    decide

theorem readFraction_text (l : NumberLiteral) {rest : List Char} (h : EndsNumeral rest) :
    Numeral.readFraction (l.fractionText ++ (l.exponentText ++ rest)) =
      .ok (l.fraction.map Subtype.val, l.exponentText ++ rest) := by
  obtain ⟨hdigit, hpoint⟩ := l.noDigit_exponentText h
  unfold fractionText
  cases l.fraction with
  | none => exact Numeral.readFraction_of_head?_ne hpoint
  | some ds =>
    rw [Option.elim_some, List.cons_append, Numeral.readFraction, readDigits_digits ds hdigit]
    rfl

theorem readSignedDigits_text (e : ExponentLiteral) {rest : List Char} (h : NoDigit rest) :
    Numeral.readSignedDigits (e.sign.text ++ e.digits.val ++ rest) = .ok (e.written, rest) := by
  have hdigits := readDigits_digits e.digits h
  rw [List.append_assoc, ExponentLiteral.written]
  cases e.sign with
  | plus =>
    simp only [ExponentSign.text, List.cons_append, List.nil_append, Numeral.readSignedDigits, hdigits]
    rfl
  | minus =>
    simp only [ExponentSign.text, List.cons_append, List.nil_append, Numeral.readSignedDigits, hdigits]
    rfl
  | absent =>
    obtain ⟨d, more, hcons, hd⟩ := exists_eq_cons_of_digits e.digits
    have hminus : d ≠ '-' := ne_of_isDigit hd (by decide)
    have hplus : d ≠ '+' := ne_of_isDigit hd (by decide)
    rw [hcons] at hdigits ⊢
    simp only [ExponentSign.text, List.nil_append, List.cons_append] at hdigits ⊢
    unfold Numeral.readSignedDigits
    split
    · next heq => exact absurd (List.cons.inj heq).1 hminus
    · next heq => exact absurd (List.cons.inj heq).1 hplus
    · rw [hdigits]
      rfl

theorem readExponent_text (l : NumberLiteral) {rest : List Char} (h : EndsNumeral rest) :
    Numeral.readExponent (l.exponentText ++ rest) = .ok (l.exponent.map ExponentLiteral.written, rest) := by
  unfold exponentText
  cases l.exponent with
  | none => exact Numeral.readExponent_of_ends h
  | some e =>
    have hsigned := readSignedDigits_text e h.noDigit
    rw [Option.elim_some, ExponentLiteral.text, List.cons_append, Numeral.readExponent, if_pos e.isLetter, hsigned]
    rfl

/-- A literal is taken apart as it is put together. -/
theorem readParts_text (l : NumberLiteral) {rest : List Char} (h : EndsNumeral rest) :
    Numeral.readParts (l.text ++ rest) = .ok (l.numeral, rest) := by
  have happend : l.text ++ rest = l.toIntegerLiteral.text ++ (l.fractionText ++ (l.exponentText ++ rest)) := by
    simp [text]
  rw [happend, Numeral.readParts, l.toIntegerLiteral.readSign_text]
  simp only [l.toIntegerLiteral.readWhole_digits (l.noDigit_fractionText h), l.readFraction_text h,
    l.readExponent_text h, bind, Except.bind]
  rfl

/-- A literal is taken apart as it is written. -/
theorem isNumeralText (l : NumberLiteral) : IsNumeralText l.text l.numeral := by
  obtain ⟨c, cs, hcons, hc⟩ := l.toIntegerLiteral.exists_text_eq_cons
  exact ⟨⟨c, cs ++ (l.fractionText ++ l.exponentText), by rw [text, hcons, List.cons_append], hc⟩, l.readParts_text⟩

/-! ## Values -/

/-- A plain literal is an integer literal that fits. -/
theorem IsPlain.numeral_eq (h : l.IsPlain) : l.numeral = l.toIntegerLiteral.numeral ∧ l.toIntegerLiteral.Fits ∧
    l.value = l.magnitude := by
  obtain ⟨hneg, hfraction, hexponent, hlt⟩ := h
  have hvalue : l.value = l.magnitude := by rw [IntegerLiteral.value, hneg, if_neg Bool.false_ne_true]
  refine ⟨by simp [numeral, IntegerLiteral.numeral, hfraction, hexponent], ⟨?_, ?_, by simp [hneg]⟩, hvalue⟩
  · rw [hvalue]
    omega
  · rw [hvalue]
    omega

theorem IsPlain.value_numeral (h : l.IsPlain) {w : UInt64} (hw : w.toNat = l.magnitude) (rest : List Char) :
    l.numeral.value rest = .ok (.int (.ofWord w)) := by
  obtain ⟨hnumeral, hfits, hvalue⟩ := h.numeral_eq
  have hword : (Integer.ofWord w).value = l.value := by rw [hvalue, ← hw]; rfl
  rw [Numeral.value, hnumeral, l.toIntegerLiteral.integer?_numeral_eq_some.2 ⟨hfits, hword⟩]

/-- A literal that is not plain writes no word. -/
theorem integer?_numeral_of_not_isPlain (h : ¬ l.IsPlain) (w : UInt64) : l.numeral.integer? ≠ some (.ofWord w) := by
  intro hword
  by_cases hparts : l.fraction = none ∧ l.exponent = none
  · have hnumeral : l.numeral = l.toIntegerLiteral.numeral := by
      simp [numeral, IntegerLiteral.numeral, hparts]
    obtain ⟨⟨-, hlt, hzero⟩, hvalue⟩ := l.toIntegerLiteral.integer?_numeral_eq_some.1 (hnumeral ▸ hword)
    have hnonneg : 0 ≤ l.value := by
      rw [← hvalue]
      exact Int.natCast_nonneg _
    unfold IntegerLiteral.value at hlt hnonneg
    cases hneg : l.negative with
    | true =>
      rw [hneg, if_pos rfl] at hnonneg
      exact hzero ⟨hneg, by omega⟩
    | false =>
      rw [hneg, if_neg Bool.false_ne_true] at hlt
      exact h ⟨hneg, hparts.1, hparts.2, by omega⟩
  · have hnone : l.numeral.integer? = none := by
      unfold Numeral.integer?
      rcases Classical.not_and_iff_not_or_not.1 hparts with hfraction | hexponent
      · obtain ⟨ds, hds⟩ := Option.ne_none_iff_exists'.1 hfraction
        simp [numeral, hds]
      · obtain ⟨e, he⟩ := Option.ne_none_iff_exists'.1 hexponent
        cases hfraction : l.fraction <;> simp [numeral, he, hfraction]
    rw [hnone] at hword
    cases hword

/-! ## Reading a literal -/

/-- A plain literal is read as the word of its digits. -/
theorem IsPlain.reads (h : l.IsPlain) {w : UInt64} (hw : w.toNat = l.magnitude) (lead trail : Blanks) (depth : Nat) :
    Reads (readValue depth) (lead.val ++ l.text ++ trail.val) (.num (.int (.ofWord w))) :=
  l.isNumeralText.reads (h.value_numeral hw) lead trail depth

/-- A literal that is not plain is read as a number that is no word, or it is out of range. -/
theorem reads_of_not_isPlain (h : ¬ l.IsPlain) (lead trail : Blanks) (depth : Nat) :
    (∃ x : Number, (∀ w, x ≠ .int (.ofWord w)) ∧
      Reads (readValue depth) (lead.val ++ l.text ++ trail.val) (.num x)) ∨
    OutOfRange (readValue depth) (lead.val ++ l.text ++ trail.val) := by
  cases hinteger : l.numeral.integer? with
  | some i =>
    have hvalue (rest : List Char) : l.numeral.value rest = .ok (.int i) := by rw [Numeral.value, hinteger]
    refine Or.inl ⟨.int i, fun w hw => ?_, l.isNumeralText.reads hvalue lead trail depth⟩
    obtain rfl := Number.int.inj hw
    exact integer?_numeral_of_not_isPlain h w hinteger
  | none =>
    rcases Numeral.value_of_integer?_eq_none hinteger with ⟨x, hvalue⟩ | hvalue
    · exact Or.inl ⟨.float x, by simp, l.isNumeralText.reads hvalue lead trail depth⟩
    · exact Or.inr (l.isNumeralText.outOfRange hvalue lead trail depth)

/-! ## Printing the digits -/

/-- The digits of a plain literal are printed back. -/
theorem IsPlain.toDigits_magnitude (h : l.IsPlain) : Nat.toDigits 10 l.magnitude = l.text := by
  have htext : l.text = l.digits := by
    simp [text, IntegerLiteral.text, h.unsigned, fractionText, h.noFraction, exponentText, h.noExponent]
  rw [htext]
  exact l.toIntegerLiteral.toDigits_magnitude

end NumberLiteral

end QueryDsl.Json
