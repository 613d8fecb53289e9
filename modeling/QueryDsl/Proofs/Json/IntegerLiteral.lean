import QueryDsl.Json.Printer
import QueryDsl.Proofs.Json.Numerals

/-!
# Integer literals

An integer is written as digits, with no needless zero in front of them, behind a sign if it is negative
(`IntegerLiteral`). Its literal is read as the integer exactly where that fits a word and is no negative zero
(`IntegerLiteral.Fits`); every other literal is read as a double, or it is out of range (`IntegerLiteral.reads_text`).

An integer is printed as a literal that fits (`IntegerLiteral.ofInteger`), so it is read back.
-/

namespace QueryDsl

/-- An integer that fits is known by its value. -/
theorem Integer.ofInt?_eq_some {n : Int} {i : Integer} : ofInt? n = some i ↔ i.value = n := by
  obtain ⟨value, hl, hu⟩ := i
  unfold ofInt?
  constructor
  · intro h
    split at h
    · exact (congrArg Integer.value (Option.some.inj h)).symm
    · cases h
  · rintro rfl
    exact dif_pos ⟨hl, hu⟩

theorem Integer.value_injective : Function.Injective value := by
  rintro ⟨m, -, -⟩ ⟨n, -, -⟩ rfl
  rfl

namespace Json

/-- An integer as it is written. -/
structure IntegerLiteral where
  negative : Bool
  digits : List Char
  isDigit : ∀ c ∈ digits, c.isDigit = true
  shortest : digits = ['0'] ∨ ∃ c cs, digits = c :: cs ∧ c ≠ '0'

namespace IntegerLiteral

/-- The characters of a literal. -/
def text (l : IntegerLiteral) : List Char := (if l.negative then ['-'] else []) ++ l.digits

/-- The number that the digits of a literal write. -/
def magnitude (l : IntegerLiteral) : Nat := Nat.ofDigitChars 10 l.digits 0

/-- The integer that is written. -/
def value (l : IntegerLiteral) : Int := if l.negative then -l.magnitude else l.magnitude

/-- Whether the integer fits a signed or an unsigned word. A negative zero does not. -/
def Fits (l : IntegerLiteral) : Prop :=
  -9223372036854775808 ≤ l.value ∧ l.value < 18446744073709551616 ∧ ¬ (l.negative = true ∧ l.magnitude = 0)

instance (l : IntegerLiteral) : Decidable l.Fits := inferInstanceAs (Decidable (_ ∧ _ ∧ ¬ _))

/-- The literal is read as the number: the integer itself where it fits, else a double. -/
inductive Denotes (l : IntegerLiteral) : Number → Prop
  | integer {n : Integer} (h : l.Fits) (hn : n.value = l.value) : Denotes l (.int n)
  | double {x : Binary64} (h : ¬ l.Fits) : Denotes l (.float x)

variable (l : IntegerLiteral)

/-- The literal as a numeral. -/
def numeral : Numeral := ⟨l.negative, l.digits, none, none⟩

theorem Fits.magnitude_le {l : IntegerLiteral} (h : l.Fits) : l.magnitude ≤ Numeral.greatestWord := by
  obtain ⟨hl, hu, -⟩ := h
  unfold value at hl hu
  unfold Numeral.greatestWord
  cases hneg : l.negative <;> simp only [hneg, if_true, Bool.false_eq_true, if_false] at hl hu <;> omega

theorem integer?_numeral (h : l.magnitude ≤ Numeral.greatestWord) : l.numeral.integer? =
    if l.negative = true ∧ l.magnitude = 0 then none else Integer.ofInt? l.value := by
  have habsorb : Numeral.absorb Numeral.greatestWord 0 l.digits = (l.magnitude, []) := Numeral.absorb_of_le h
  cases hneg : l.negative <;> simp [numeral, Numeral.integer?, value, habsorb, hneg]

theorem integer?_numeral_of_lt (h : Numeral.greatestWord < l.magnitude) : l.numeral.integer? = none := by
  have habsorb := Numeral.absorb_of_lt (Nat.zero_le _) h
  unfold Numeral.integer?
  simp only [numeral]
  split
  · next heq => exact absurd (congrArg Prod.snd heq) habsorb
  · rfl

/-- The integer of a literal is the one that is written, where it fits. -/
theorem integer?_numeral_eq_some {i : Integer} : l.numeral.integer? = some i ↔ l.Fits ∧ i.value = l.value := by
  by_cases hword : l.magnitude ≤ Numeral.greatestWord
  · rw [integer?_numeral l hword]
    split
    · next hzero => exact iff_of_false (by simp) fun h => h.1.2.2 hzero
    · next hzero =>
      rw [Integer.ofInt?_eq_some]
      exact ⟨fun h => ⟨⟨h ▸ i.least_le, h ▸ i.value_lt, hzero⟩, h⟩, And.right⟩
  · rw [integer?_numeral_of_lt l (Nat.lt_of_not_le hword)]
    exact iff_of_false (by simp) fun h => hword h.1.magnitude_le

theorem integer?_numeral_eq_none : l.numeral.integer? = none ↔ ¬ l.Fits := by
  rw [Option.eq_none_iff_forall_ne_some]
  simp only [ne_eq, integer?_numeral_eq_some, not_and]
  exact ⟨fun h hfits => h ⟨l.value, hfits.1, hfits.2.1⟩ hfits rfl, fun h i hfits => absurd hfits h⟩

/-- A literal that does not fit is read as a double from its digits. -/
theorem value_numeral_of_not_fits (h : ¬ l.Fits) (rest : List Char) : l.numeral.value rest =
    (Numeral.double l.negative l.numeral.significand.1 l.numeral.significand.2).elim
      (faultAfter .numberOutOfRange rest) .ok := by
  unfold Numeral.value
  rw [l.integer?_numeral_eq_none.2 h]
  simp only [numeral, Numeral.absorb, Option.getD_none, Bool.false_eq_true, if_false, Int.natCast_zero, Int.add_zero]
  cases Numeral.double l.negative (Numeral.significand _).1 _ <;> rfl

variable {l}

/-- The value of a literal: the integer itself where it fits, else a double, or the literal is out of range. What
follows it is no matter. -/
theorem value_numeral : (∃ x, l.Denotes x ∧ ∀ rest, l.numeral.value rest = .ok x) ∨
    ¬ l.Fits ∧ ∀ rest, l.numeral.value rest = faultAfter .numberOutOfRange rest := by
  by_cases hfits : l.Fits
  · have hint := l.integer?_numeral_eq_some (i := ⟨l.value, hfits.1, hfits.2.1⟩).2 ⟨hfits, rfl⟩
    refine Or.inl ⟨_, .integer (n := ⟨l.value, hfits.1, hfits.2.1⟩) hfits rfl, fun rest => ?_⟩
    rw [Numeral.value, hint]
  · cases hdouble : Numeral.double l.negative l.numeral.significand.1 l.numeral.significand.2 with
    | none => exact Or.inr ⟨hfits, fun rest => by rw [l.value_numeral_of_not_fits hfits, hdouble, Option.elim_none]⟩
    | some x =>
      obtain ⟨y, rfl⟩ := Numeral.exists_float_of_double hdouble
      exact Or.inl ⟨_, .double hfits, fun rest => by rw [l.value_numeral_of_not_fits hfits, hdouble, Option.elim_some]⟩

end IntegerLiteral

/-! ## Reading a literal -/

namespace IntegerLiteral

variable (l : IntegerLiteral)

theorem exists_digits_eq_cons : ∃ c cs, l.digits = c :: cs ∧ c.isDigit = true := by
  rcases l.shortest with h | ⟨c, cs, h, -⟩
  · exact ⟨'0', [], h, by decide⟩
  · exact ⟨c, cs, h, l.isDigit c (by simp [h])⟩

/-- A literal begins with a sign or a digit. -/
theorem exists_text_eq_cons : ∃ c cs, l.text = c :: cs ∧ (c = '-' ∨ c.isDigit = true) := by
  unfold text
  cases l.negative with
  | true => exact ⟨'-', l.digits, rfl, Or.inl rfl⟩
  | false =>
    obtain ⟨c, cs, h, hc⟩ := l.exists_digits_eq_cons
    exact ⟨c, cs, h, Or.inr hc⟩

theorem readSign_text (rest : List Char) : Numeral.readSign (l.text ++ rest) = (l.negative, l.digits ++ rest) := by
  unfold text
  cases l.negative with
  | true => rfl
  | false =>
    obtain ⟨c, cs, h, hc⟩ := l.exists_digits_eq_cons
    have hminus : c ≠ '-' := ne_of_isDigit hc (by decide)
    simp only [h, Bool.false_eq_true, if_false, List.nil_append, List.cons_append, Numeral.readSign]
    split <;> simp_all

theorem readWhole_digits {rest : List Char} (h : NoDigit rest) :
    Numeral.readWhole (l.digits ++ rest) = .ok (l.digits, rest) := by
  rcases l.shortest with hzero | ⟨c, cs, hcons, hc⟩
  · rw [hzero]
    exact Numeral.readWhole_zero h
  · rw [hcons, List.cons_append, Numeral.readWhole_of_ne hc, ← List.cons_append]
    exact Numeral.readDigits_append (hcons ▸ l.isDigit) h

/-- A literal is taken apart as it is written. -/
theorem isNumeralText : IsNumeralText l.text l.numeral := by
  refine ⟨l.exists_text_eq_cons, fun h => ?_⟩
  simp only [Numeral.readParts, readSign_text, readWhole_digits l h.noDigit,
    Numeral.readFraction_of_head?_ne h.head?_ne, Numeral.readExponent_of_ends h, bind, Except.bind]
  rfl

/-- A literal with blanks around it is read as what it denotes, or it is out of range. -/
theorem reads_text (lead trail : Blanks) (depth : Nat) :
    (∃ x, l.Denotes x ∧ Reads (readValue depth) (lead.val ++ l.text ++ trail.val) (.num x)) ∨
      ¬ l.Fits ∧ OutOfRange (readValue depth) (lead.val ++ l.text ++ trail.val) := by
  rcases l.value_numeral with ⟨x, hx, hvalue⟩ | ⟨hfits, hvalue⟩
  · exact Or.inl ⟨x, hx, l.isNumeralText.reads hvalue lead trail depth⟩
  · exact Or.inr ⟨hfits, l.isNumeralText.outOfRange (fun rest => ⟨_, hvalue rest, rfl⟩) lead trail depth⟩

end IntegerLiteral

/-! ## Printed integers -/

theorem digitChar_ne_zero : ∀ n < 10, 0 < n → Nat.digitChar n ≠ '0' := by decide

/-- A number that is not zero is written without a zero in front. -/
theorem exists_toDigits_eq_cons {n : Nat} (h : 0 < n) : ∃ c cs, Nat.toDigits 10 n = c :: cs ∧ c ≠ '0' := by
  induction n using Nat.strongRecOn with
  | ind n ih =>
    by_cases hn : n < 10
    · exact ⟨n.digitChar, [], Nat.toDigits_of_lt_base hn, digitChar_ne_zero n hn h⟩
    · obtain ⟨c, cs, hcons, hc⟩ := ih (n / 10) (by omega) (by omega)
      exact ⟨c, _, by rw [Nat.toDigits_of_base_le (by decide) (by omega), hcons, List.cons_append], hc⟩

namespace IntegerLiteral

/-- An integer as it is printed. -/
def ofInteger (n : Integer) : IntegerLiteral where
  negative := n.value < 0
  digits := Nat.toDigits 10 n.value.natAbs
  isDigit _ hc := Nat.isDigit_of_mem_toDigits (by decide) (by decide) hc
  shortest := by
    rcases Nat.eq_zero_or_pos n.value.natAbs with hzero | hpos
    · exact Or.inl (by rw [hzero]; rfl)
    · exact Or.inr (exists_toDigits_eq_cons hpos)

variable (n : Integer)

theorem text_ofInteger : (ofInteger n).text = integerText n.value := by
  simp [ofInteger, text, integerText]

theorem magnitude_ofInteger : (ofInteger n).magnitude = n.value.natAbs :=
  Nat.ofDigitChars_toDigits (by decide) (by decide)

theorem value_ofInteger : (ofInteger n).value = n.value := by
  rw [value, magnitude_ofInteger]
  by_cases h : n.value < 0
  · have hnegative : (ofInteger n).negative = true := decide_eq_true h
    rw [if_pos hnegative]
    omega
  · have hpositive : ¬ (ofInteger n).negative = true := fun hd => h (of_decide_eq_true hd)
    rw [if_neg hpositive]
    omega

/-- Only a negative zero is no integer, and it is never printed. -/
theorem fits_ofInteger : (ofInteger n).Fits := by
  refine ⟨?_, ?_, ?_⟩
  · rw [value_ofInteger]
    exact n.least_le
  · rw [value_ofInteger]
    exact n.value_lt
  · rw [magnitude_ofInteger]
    rintro ⟨hnegative, hzero⟩
    have hlt : n.value < 0 := of_decide_eq_true hnegative
    omega

end IntegerLiteral

/-! ## Lists of literals -/

/-- A literal with the blanks around it. -/
structure SpacedLiteral where
  lead : Blanks
  literal : IntegerLiteral
  trail : Blanks

/-- The characters of a literal and of the blanks. -/
def SpacedLiteral.text (s : SpacedLiteral) : List Char := s.lead.val ++ s.literal.text ++ s.trail.val

/-- An array of at least one integer as it is written, with the blanks around it. -/
structure IntegerList where
  lead : Blanks
  items : List SpacedLiteral
  nonempty : items ≠ []
  trail : Blanks

namespace IntegerList

/-- The literals of the array. -/
def literals (l : IntegerList) : List IntegerLiteral := l.items.map SpacedLiteral.literal

/-- The characters of the array. -/
def text (l : IntegerList) : List Char :=
  l.lead.val ++ ('[' :: [','].intercalate (l.items.map SpacedLiteral.text) ++ [']']) ++ l.trail.val

/-- A run over literals: all of them are read as what they denote, up to one that is out of range. -/
theorem reads_items (depth : Nat) : ∀ items : List SpacedLiteral,
    (∃ xs, List.Forall₂ IntegerLiteral.Denotes (items.map SpacedLiteral.literal) xs ∧
      List.Forall₂ (Reads (readValue depth)) (items.map SpacedLiteral.text) (xs.map Json.num)) ∨
    ∃ before bad after vs, items = before ++ bad :: after ∧ ¬ bad.literal.Fits ∧
      OutOfRange (readValue depth) bad.text ∧
      List.Forall₂ (Reads (readValue depth)) (before.map SpacedLiteral.text) vs
  | [] => Or.inl ⟨[], .nil, .nil⟩
  | s :: items => by
    rcases s.literal.reads_text s.lead s.trail depth with ⟨x, hx, hread⟩ | ⟨hfits, hout⟩
    · rcases reads_items depth items with ⟨xs, hxs, hreads⟩ | ⟨before, bad, after, vs, rfl, hfits, hout, hreads⟩
      · exact Or.inl ⟨x :: xs, .cons hx hxs, .cons hread hreads⟩
      · exact Or.inr ⟨s :: before, bad, after, .num x :: vs, rfl, hfits, hout, .cons hread hreads⟩
    · exact Or.inr ⟨[], s, items, [], rfl, hfits, hout, .nil⟩

/-- An array of literals is read as what they denote, or one that does not fit is out of range. -/
theorem reads_text (l : IntegerList) (depth : Nat) :
    (∃ xs, List.Forall₂ IntegerLiteral.Denotes l.literals xs ∧
      Reads (readValue (depth + 1)) l.text (.arr (xs.map Json.num))) ∨
    (∃ a ∈ l.literals, ¬ a.Fits) ∧ OutOfRange (readValue (depth + 1)) l.text := by
  rcases reads_items depth l.items with ⟨xs, hxs, hreads⟩ | ⟨before, bad, after, vs, hitems, hfits, hout, hreads⟩
  · have hlist := (elements depth).reads_text hreads l.lead l.trail
    rw [ItemReader.value_elements] at hlist
    exact Or.inl ⟨xs, hxs, hlist⟩
  · have hlist := (elements depth).outOfRange_text hreads hout (after.map SpacedLiteral.text) l.lead l.trail
    refine Or.inr ⟨⟨bad.literal, List.mem_map_of_mem (by simp [hitems]), hfits⟩, ?_⟩
    rw [text, hitems, List.map_append, List.map_cons]
    exact hlist

end IntegerList

/-! ## Numbers that are the same -/

namespace IntegerLiteral

/-- The literals write the same integer, or neither of them fits. -/
def Agrees (a b : IntegerLiteral) : Prop := (a.Fits ↔ b.Fits) ∧ (a.Fits → a.value = b.value)

theorem Denotes.agrees {a b : IntegerLiteral} {x y : Number} (hx : a.Denotes x) (hy : b.Denotes y)
    (h : x.same y = true) : a.Agrees b := by
  cases hx with
  | integer ha hm =>
    cases hy with
    | integer hb hn => exact ⟨iff_of_true ha hb, fun _ => hm.symm.trans ((eq_of_beq h).trans hn)⟩
    | double hb => cases h
  | double ha =>
    cases hy with
    | integer hb hn => cases h
    | double hb => exact ⟨iff_of_false ha hb, fun h => absurd h ha⟩

/-- Literals that are read as the same numbers agree. -/
theorem forall₂_agrees {ls ms : List IntegerLiteral} {xs ys : List Number} (hx : List.Forall₂ Denotes ls xs)
    (hy : List.Forall₂ Denotes ms ys) (h : sameElements (xs.map Json.num) (ys.map Json.num) = true) :
    List.Forall₂ Agrees ls ms := by
  induction hx generalizing ms ys with
  | nil =>
    cases hy with
    | nil => exact .nil
    | cons _ _ => simp [sameElements] at h
  | cons hx _ ih =>
    cases hy with
    | nil => simp [sameElements] at h
    | cons hy hys =>
      simp only [List.map_cons, sameElements, same, Bool.and_eq_true] at h
      exact .cons (hx.agrees hy h.1) (ih hys h.2)

/-- Literals that fit are read as their integers. -/
theorem exists_integers {ls : List IntegerLiteral} {xs : List Number} (hx : List.Forall₂ Denotes ls xs)
    (h : ∀ a ∈ ls, a.Fits) : ∃ ns : List Integer, xs = ns.map Number.int ∧ ns.map Integer.value = ls.map value := by
  induction hx with
  | nil => exact ⟨[], rfl, rfl⟩
  | @cons a x ls xs hx _ ih =>
    obtain ⟨ns, rfl, hns⟩ := ih fun b hb => h b (List.mem_cons_of_mem _ hb)
    cases hx with
    | @integer n _ hn => exact ⟨n :: ns, rfl, by rw [List.map_cons, hn, hns, List.map_cons]⟩
    | double hnot => exact absurd (h a List.mem_cons_self) hnot

end IntegerLiteral

end Json

end QueryDsl
