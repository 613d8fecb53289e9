import QueryDsl.Proofs.Json.PrintedText

/-!
# Texts without their layout

A text is condensed by leaving out the spaces and line feeds outside of its string literals (`withoutLayout`). To know
what is outside takes a run over the text that follows quotes and backslashes (`Position.next`).

The pieces of a printed value begin and end outside of string literals, so they are condensed one by one
(`CondensesTo.append`): a line break to nothing, a string to itself (`condensesTo_stringText`), a number to itself
(`condensesTo_numberText`). Hence a value in whatever style is condensed to its compact text (`withoutLayout_text`).
-/

namespace QueryDsl.Json

/-! ## Condensing -/

/-- Where a character of a text stands: outside of string literals, in one, or in one behind a backslash. -/
inductive Position where
  | outside
  | inString
  | escaped
  deriving DecidableEq, Repr

/-- Where the character behind a given one stands. -/
def Position.next (c : Char) : Position → Position
  | outside => if c = '"' then inString else outside
  | inString => if c = '"' then outside else if c = '\\' then escaped else inString
  | escaped => inString

/-- The characters from a position on, but for spaces and line feeds outside of string literals. -/
def condense : Position → List Char → List Char
  | _, [] => []
  | position, c :: cs =>
    if position = .outside ∧ (c = ' ' ∨ c = '\n') then condense position cs else c :: condense (position.next c) cs

/-- The text without the spaces and line feeds outside of its string literals. -/
def withoutLayout (s : String) : String := String.ofList (condense .outside s.toList)

/-- Whether a character outside of string literals is kept and leaves the text there. -/
def isKept (c : Char) : Bool := c != '"' && c != ' ' && c != '\n'

section Steps

variable {c : Char} (cs : List Char)

theorem condense_layout (h : c = ' ' ∨ c = '\n') : condense .outside (c :: cs) = condense .outside cs :=
  if_pos ⟨rfl, h⟩

theorem condense_kept (h : isKept c = true) : condense .outside (c :: cs) = c :: condense .outside cs := by
  simp only [isKept, Bool.and_eq_true, bne_iff_ne] at h
  obtain ⟨⟨hquote, hspace⟩, hbreak⟩ := h
  rw [condense, if_neg fun hlayout => hlayout.2.elim hspace hbreak, Position.next, if_neg hquote]

theorem condense_quote : condense .outside ('"' :: cs) = '"' :: condense .inString cs := rfl

theorem condense_closing : condense .inString ('"' :: cs) = '"' :: condense .outside cs := rfl

theorem condense_plain (hquote : c ≠ '"') (hbackslash : c ≠ '\\') :
    condense .inString (c :: cs) = c :: condense .inString cs := by
  rw [condense, if_neg fun hlayout => Position.noConfusion hlayout.1, Position.next, if_neg hquote, if_neg hbackslash]

theorem condense_escape (c : Char) : condense .inString ('\\' :: c :: cs) = '\\' :: c :: condense .inString cs := rfl

end Steps

/-! ## Pieces of a text -/

/-- A piece of a text between places outside of string literals, and what is left of it. -/
def CondensesTo (text kept : List Char) : Prop :=
  ∀ rest, condense .outside (text ++ rest) = kept ++ condense .outside rest

section Pieces

variable {text text' kept kept' : List Char}

theorem CondensesTo.append (h : CondensesTo text kept) (h' : CondensesTo text' kept') :
    CondensesTo (text ++ text') (kept ++ kept') := by
  intro rest
  rw [List.append_assoc, h, h', List.append_assoc]

theorem condensesTo_nil : CondensesTo [] [] := fun _ => rfl

theorem CondensesTo.cons {c : Char} (hc : isKept c = true) (h : CondensesTo text kept) :
    CondensesTo (c :: text) (c :: kept) := by
  intro rest
  rw [List.cons_append, condense_kept _ hc, h, List.cons_append]

/-- Characters that are kept are all left. -/
theorem condensesTo_self (h : ∀ c ∈ text, isKept c = true) : CondensesTo text text := by
  induction text with
  | nil => exact condensesTo_nil
  | cons c text ih =>
    obtain ⟨hc, htext⟩ := List.forall_mem_cons.1 h
    exact (ih htext).cons hc

/-- Nothing is left of spaces and line feeds. -/
theorem condensesTo_layout (h : ∀ c ∈ text, c = ' ' ∨ c = '\n') : CondensesTo text [] := by
  intro rest
  induction text with
  | nil => rfl
  | cons c text ih =>
    obtain ⟨hc, htext⟩ := List.forall_mem_cons.1 h
    rw [List.cons_append, condense_layout _ hc, ih htext]

end Pieces

theorem condensesTo_lineBreak (style : Style) : CondensesTo style.lineBreak [] := by
  cases style with
  | compact => exact condensesTo_nil
  | indented depth =>
    refine condensesTo_layout fun c hc => ?_
    rcases List.mem_cons.1 hc with rfl | hc
    · exact Or.inr rfl
    · exact Or.inl (List.eq_of_mem_replicate hc)

theorem condensesTo_colon (style : Style) : CondensesTo style.colon [':'] := by
  cases style with
  | compact => exact condensesTo_nil.cons (by decide)
  | indented depth =>
    have hspace : CondensesTo [' '] [] := condensesTo_layout (List.forall_mem_singleton.2 (Or.inl rfl))
    exact hspace.cons (by decide)

/-! ## Strings -/

/-- A character is printed as itself, and then it neither closes the string nor begins an escape, or as an escape in
which nothing behind the escaped character does so. -/
theorem escapedChar_shape (c : Char) : escapedChar c = [c] ∧ c ≠ '"' ∧ c ≠ '\\' ∨
    ∃ d hex, escapedChar c = '\\' :: d :: hex ∧ ∀ x ∈ hex, x ≠ '"' ∧ x ≠ '\\' := by
  unfold escapedChar
  split
  case h_8 hquote hbackslash _ _ _ _ _ =>
    -- the branch that names no character: a control character or one that is printed as itself
    split
    · next hcontrol =>
      have hescape := StringLiteral.controlEscape_ofNat c.toNat hcontrol
      rw [Char.ofNat_toNat] at hescape
      have hzero : '0' ≠ '"' ∧ '0' ≠ '\\' := by decide
      have hdigit : ∀ n < 0x20, Nat.digitChar n ≠ '"' ∧ Nat.digitChar n ≠ '\\' := by decide
      have hhex : ∀ x ∈ ['0', '0', Nat.digitChar (c.toNat / 16), Nat.digitChar (c.toNat % 16)],
          x ≠ '"' ∧ x ≠ '\\' := by
        simp only [List.forall_mem_cons]
        exact ⟨hzero, hzero, hdigit _ (by omega), hdigit _ (by omega), by simp⟩
      exact Or.inr ⟨_, _, hescape, hhex⟩
    · exact Or.inl ⟨rfl, hquote, hbackslash⟩
  all_goals exact Or.inr ⟨_, [], rfl, by simp⟩

theorem condense_plain_append {cs : List Char} (h : ∀ c ∈ cs, c ≠ '"' ∧ c ≠ '\\') (rest : List Char) :
    condense .inString (cs ++ rest) = cs ++ condense .inString rest := by
  induction cs with
  | nil => rfl
  | cons c cs ih =>
    obtain ⟨hc, hcs⟩ := List.forall_mem_cons.1 h
    rw [List.cons_append, condense_plain _ hc.1 hc.2, ih hcs, List.cons_append]

/-- A run over the printed characters stays in the string. -/
theorem condense_escaped (cs rest : List Char) : condense .inString (cs.flatMap escapedChar ++ rest) =
    cs.flatMap escapedChar ++ condense .inString rest := by
  induction cs with
  | nil => rfl
  | cons c cs ih =>
    rw [List.flatMap_cons, List.append_assoc, List.append_assoc, ← ih]
    rcases escapedChar_shape c with ⟨hc, hquote, hbackslash⟩ | ⟨d, hex, hc, hhex⟩
    · rw [hc, List.singleton_append, List.singleton_append, condense_plain _ hquote hbackslash]
    · rw [hc, List.cons_append, List.cons_append, condense_escape, condense_plain_append hhex]
      rfl

/-- Nothing is left out of a string, whatever characters it holds. -/
theorem condensesTo_stringText (s : String) : CondensesTo (stringText s) (stringText s) := by
  intro rest
  have htext (rest : List Char) : stringText s ++ rest = '"' :: (s.toList.flatMap escapedChar ++ '"' :: rest) := by
    simp [stringText]
  rw [htext, htext, condense_quote, condense_escaped, condense_closing]

/-! ## Numbers -/

/-- Whether numbers are written with the character: a digit, a sign, the point or the letter of the exponent. -/
def isNumberChar (c : Char) : Bool := c.isDigit || c == '-' || c == '+' || c == '.' || c == 'e'

theorem isKept_of_isNumberChar {c : Char} (h : isNumberChar c = true) : isKept c = true := by
  have hne (d : Char) (hd : isNumberChar d = false) : (c != d) = true := by
    rw [bne_iff_ne]
    rintro rfl
    rw [h] at hd
    cases hd
  rw [isKept, hne '"' (by decide), hne ' ' (by decide), hne '\n' (by decide)]
  rfl

theorem isNumberChar_of_mem_toDigits {n : Nat} {c : Char} (h : c ∈ Nat.toDigits 10 n) : isNumberChar c = true := by
  rw [isNumberChar, Nat.isDigit_of_mem_toDigits (by decide) (by decide) h]
  rfl

theorem isNumberChar_of_mem_integerText {n : Int} {c : Char} (h : c ∈ integerText n) : isNumberChar c = true := by
  rcases List.mem_append.1 h with h | h
  · split at h
    · obtain rfl := List.mem_singleton.1 h
      decide
    · cases h
  · exact isNumberChar_of_mem_toDigits h

theorem isNumberChar_of_mem_replicate {n : Nat} {c : Char} (h : c ∈ List.replicate n '0') : isNumberChar c = true := by
  obtain rfl := List.eq_of_mem_replicate h
  decide

/-- The text of a decimal consists of its digits, zeros, the point and the exponent. -/
theorem isNumberChar_of_mem_positional {d : Decimal} {c : Char} (h : c ∈ Layout.positional d) :
    isNumberChar c = true := by
  have hdigit {c : Char} (hc : c ∈ d.significand) : isNumberChar c = true := isNumberChar_of_mem_toDigits hc
  have hpoint : isNumberChar '.' = true := by decide
  have hzero : isNumberChar '0' = true := by decide
  unfold Layout.positional at h
  dsimp only at h
  split at h
  · simp only [List.mem_append, List.mem_cons, List.not_mem_nil, or_false] at h
    rcases h with (h | h) | rfl | rfl
    exacts [hdigit h, isNumberChar_of_mem_replicate h, hpoint, hzero]
  · split at h
    · simp only [List.mem_append, List.mem_cons] at h
      rcases h with h | rfl | h
      exacts [hdigit (List.mem_of_mem_take h), hpoint, hdigit (List.mem_of_mem_drop h)]
    · simp only [List.mem_append, List.mem_cons] at h
      rcases h with (rfl | rfl | h) | h
      exacts [hzero, hpoint, isNumberChar_of_mem_replicate h, hdigit h]

theorem isNumberChar_of_mem_scientific {d : Decimal} {c : Char} (h : c ∈ Layout.scientific d) :
    isNumberChar c = true := by
  have hdigit {c : Char} (hc : c ∈ d.significand) : isNumberChar c = true := isNumberChar_of_mem_toDigits hc
  unfold Layout.scientific Layout.signedExponent at h
  simp only [List.mem_append, List.mem_cons] at h
  rcases h with (h | h) | rfl | rfl | h
  · exact hdigit (List.mem_of_mem_take h)
  · split at h
    · cases h
    · rcases List.mem_cons.1 h with rfl | h
      · decide
      · exact hdigit (List.mem_of_mem_tail h)
  · decide
  · split <;> decide
  · exact isNumberChar_of_mem_toDigits h

/-- A number is written with digits, signs, a point and the letter of an exponent only. -/
theorem isNumberChar_of_mem_numberText {n : Number} {c : Char} (h : c ∈ numberText n) : isNumberChar c = true := by
  cases n with
  | int n => exact isNumberChar_of_mem_integerText h
  | float x =>
    rcases List.mem_append.1 h with h | h
    · split at h
      · obtain rfl := List.mem_singleton.1 h
        decide
      · cases h
    · unfold Layout.decimalText at h
      split at h
      · exact isNumberChar_of_mem_positional h
      · exact isNumberChar_of_mem_scientific h

theorem condensesTo_numberText (n : Number) : CondensesTo (numberText n) (numberText n) :=
  condensesTo_self fun _ hc => isKept_of_isNumberChar (isNumberChar_of_mem_numberText hc)

/-! ## Values -/

section Items

variable {texts kepts : List (List Char)}

theorem condensesTo_separated (style : Style) (h : List.Forall₂ CondensesTo texts kepts) :
    CondensesTo (texts.flatMap fun text => ',' :: style.lineBreak ++ text)
      (kepts.flatMap fun kept => ',' :: Style.compact.lineBreak ++ kept) := by
  induction h with
  | nil => exact condensesTo_nil
  | cons htext _ ih =>
    rw [List.flatMap_cons, List.flatMap_cons]
    exact (((condensesTo_lineBreak style).append htext).cons (by decide)).append ih

/-- Of a list in whatever style, the brackets, the commas and what is left of the items is left. -/
theorem condensesTo_itemsText {opening closing : Char} (hopening : isKept opening = true)
    (hclosing : isKept closing = true) (style : Style) (h : List.Forall₂ CondensesTo texts kepts) :
    CondensesTo (itemsText opening closing style texts) (itemsText opening closing .compact kepts) := by
  have hend : CondensesTo [closing] [closing] := condensesTo_nil.cons hclosing
  cases h with
  | nil => exact hend.cons hopening
  | cons htext htexts =>
    have hfirst := (condensesTo_lineBreak style.nested).append htext
    have hitems := hfirst.append (condensesTo_separated style.nested htexts)
    exact ((hitems.cons hopening).append (condensesTo_lineBreak style)).append hend

end Items

theorem condensesTo_memberText (style : Style) {key : String} {v : Json}
    (h : CondensesTo (v.text style) (v.text .compact)) :
    CondensesTo (memberText style (key, v)) (memberText .compact (key, v)) :=
  ((condensesTo_stringText key).append (condensesTo_colon style)).append h

theorem condensesTo_word {word : List Char} (h : word.all isKept = true) : CondensesTo word word :=
  condensesTo_self (List.all_eq_true.1 h)

mutual

/-- **Styles differ in their layout alone.** The text of a value in whatever style is condensed to its compact text. -/
theorem condensesTo_text : ∀ (v : Json) (style : Style), CondensesTo (v.text style) (v.text .compact)
  | .null, _ => condensesTo_word rfl
  | .bool true, _ => condensesTo_word rfl
  | .bool false, _ => condensesTo_word rfl
  | .num n, _ => condensesTo_numberText n
  | .str s, _ => condensesTo_stringText s
  | .arr xs, style => by
    rw [text_arr, text_arr]
    exact condensesTo_itemsText (by decide) (by decide) style (condensesTo_elements xs style.nested)
  | .obj ms, style => by
    rw [text_obj, text_obj]
    exact condensesTo_itemsText (by decide) (by decide) style (condensesTo_members ms style.nested)

theorem condensesTo_elements : ∀ (xs : List Json) (style : Style),
    List.Forall₂ CondensesTo (xs.map (text · style)) (xs.map (text · .compact))
  | [], _ => .nil
  | x :: xs, style => .cons (condensesTo_text x style) (condensesTo_elements xs style)

theorem condensesTo_members : ∀ (ms : List (String × Json)) (style : Style),
    List.Forall₂ CondensesTo (ms.map (memberText style)) (ms.map (memberText .compact))
  | [], _ => .nil
  | (_, v) :: ms, style =>
    .cons (condensesTo_memberText style (condensesTo_text v style)) (condensesTo_members ms style)

end

theorem withoutLayout_text (v : Json) (style : Style) : withoutLayout (String.ofList (v.text style)) = v.compact := by
  have hcondensed := condensesTo_text v style []
  rw [List.append_nil] at hcondensed
  rw [withoutLayout, String.toList_ofList, hcondensed]
  exact congrArg String.ofList (List.append_nil _)

/-- Spaces and line feeds in strings are kept, also behind quotes and backslashes, and so are empty lists as they
are. -/
example : withoutLayout "\x7b\n  \"a \\\" :\": [ ],\n  \"\\\\\": \x7b\x7d\n\x7d" =
    "\x7b\"a \\\" :\":[],\"\\\\\":\x7b\x7d\x7d" := by decide

end QueryDsl.Json
