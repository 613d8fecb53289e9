import QueryDsl.Json.Printer
import QueryDsl.Proofs.Json.Frames

/-!
# Texts of strings

A string is printed between quotes, each character as itself or as an escape (`StringLiteral.escapedChar_cases`). The
reader takes one character back after the other and stops at the closing quote and at no other place
(`StringLiteral.read_escaped`). A string without characters that need an escape is its own text
(`StringLiteral.read_plain`).
-/

namespace QueryDsl.Json

namespace StringLiteral

/-! ## Escapes -/

theorem controlEscape_ofNat : ∀ n < 0x20, controlEscape (Char.ofNat n) =
    ['\\', 'u', '0', '0', Nat.digitChar (n / 16), Nat.digitChar (n % 16)] := by decide

theorem hexNumber?_control : ∀ n < 0x20,
    hexNumber? '0' '0' (Nat.digitChar (n / 16)) (Nat.digitChar (n % 16)) = some n := by decide

/-- The escape of a control character is read as the character. -/
theorem readEscape_control {c : Char} (h : c.toNat < 0x20) : ∃ body, controlEscape c = '\\' :: body ∧
    ∀ rest, readEscape (body ++ rest) = .ok (c, rest) := by
  have hescape := controlEscape_ofNat c.toNat h
  rw [Char.ofNat_toNat] at hescape
  refine ⟨_, hescape, fun rest => ?_⟩
  have hlow : isLowSurrogate c.toNat = false := by
    simp only [isLowSurrogate, Bool.and_eq_false_iff, decide_eq_false_iff_not]
    omega
  have hhigh : isHighSurrogate c.toNat = false := by
    simp only [isHighSurrogate, Bool.and_eq_false_iff, decide_eq_false_iff_not]
    omega
  show readCodePoint _ = _
  simp [readCodePoint, readHex, hexNumber?_control _ h, bind, Except.bind, hlow, hhigh]

/-- A character is printed as itself, and then it neither closes the string nor begins an escape, or as an escape that
is read as the character. -/
theorem escapedChar_cases (c : Char) : escapedChar c = [c] ∧ c ≠ '"' ∧ c ≠ '\\' ∧ ¬ c.toNat < 0x20 ∨
    ∃ body, escapedChar c = '\\' :: body ∧ ∀ rest, readEscape (body ++ rest) = .ok (c, rest) := by
  unfold escapedChar
  split
  case h_8 hquote hbackslash _ _ _ _ _ =>
    split
    · next hcontrol => exact Or.inr (readEscape_control hcontrol)
    · next hcontrol => exact Or.inl ⟨rfl, hquote, hbackslash, hcontrol⟩
  all_goals exact Or.inr ⟨_, rfl, fun rest => rfl⟩

theorem length_le_length_escaped (cs : List Char) : cs.length ≤ (cs.flatMap escapedChar).length := by
  induction cs with
  | nil => exact Nat.zero_le _
  | cons c cs ih =>
    rw [List.flatMap_cons, List.length_append, List.length_cons]
    rcases escapedChar_cases c with ⟨hc, -⟩ | ⟨body, hc, -⟩ <;> simp only [hc, List.length_cons] <;> omega

/-! ## Strings -/

/-- A run over the printed characters: each of them is taken back, up to the closing quote. -/
theorem readChars_escaped (rest : List Char) : ∀ (cs done : List Char) {n : Nat}, cs.length < n →
    readChars n done (cs.flatMap escapedChar ++ '"' :: rest) = .ok (String.ofList (done.reverse ++ cs), rest)
  | _, _, 0, hn => absurd hn (Nat.not_lt_zero _)
  | [], done, n + 1, _ => by simp [readChars]
  | c :: cs, done, n + 1, hn => by
    have ih := readChars_escaped rest cs (c :: done) (Nat.lt_of_succ_lt_succ hn)
    rw [List.reverse_cons, List.append_assoc, List.singleton_append] at ih
    rw [List.flatMap_cons, List.append_assoc]
    rcases escapedChar_cases c with ⟨hc, hquote, hbackslash, hcontrol⟩ | ⟨body, hc, hread⟩
    · rw [hc, List.singleton_append, readChars, if_neg hquote, if_neg hbackslash, if_neg hcontrol, ih]
    · rw [hc, List.cons_append, readChars, if_neg (by decide), if_pos rfl, hread]
      exact ih

/-- **A printed string is read as the string.** Whatever characters it holds, it ends at its closing quote. -/
theorem read_escaped (s : String) (rest : List Char) :
    read (s.toList.flatMap escapedChar ++ ['"'] ++ rest) = .ok (s, rest) := by
  rw [read, List.append_assoc, List.singleton_append, readChars_escaped]
  · simp
  · have hlen := length_le_length_escaped s.toList
    rw [List.length_append, List.length_cons]
    omega

end StringLiteral

/-- Whether the character may stand in a string literal as it is. -/
def isPlain (c : Char) : Bool := c != '"' && c != '\\' && 0x20 ≤ c.toNat

namespace StringLiteral

theorem escapedChar_of_isPlain {c : Char} (h : isPlain c = true) : escapedChar c = [c] := by
  simp only [isPlain, Bool.and_eq_true, bne_iff_ne, decide_eq_true_eq] at h
  obtain ⟨⟨hquote, hbackslash⟩, hcontrol⟩ := h
  unfold escapedChar
  split
  case h_8 => exact if_neg (Nat.not_lt.2 hcontrol)
  case h_1 => exact absurd rfl hquote
  case h_2 => exact absurd rfl hbackslash
  all_goals exact absurd hcontrol (by decide)

/-- Plain characters are read as they are. -/
theorem read_plain {s : String} (h : ∀ c ∈ s.toList, isPlain c = true) (rest : List Char) :
    read (s.toList ++ ['"'] ++ rest) = .ok (s, rest) := by
  have hplain : s.toList.flatMap escapedChar = s.toList := by
    rw [List.flatMap_congr fun c hc => escapedChar_of_isPlain (h c hc), List.flatMap_singleton']
  have hread := read_escaped s rest
  rwa [hplain] at hread

end StringLiteral

/-- A plain key between quotes. -/
def KeyText.plain (key : String) (h : ∀ c ∈ key.toList, isPlain c = true) : KeyText key where
  lead := ⟨[], by simp⟩
  name := key.toList ++ ['"']
  read_name := StringLiteral.read_plain h
  trail := ⟨[], by simp⟩

/-- A plain string between quotes. -/
theorem reads_plain {s : String} (h : ∀ c ∈ s.toList, isPlain c = true) (depth : Nat) :
    Reads (readValue depth) ('"' :: s.toList ++ ['"']) (.str s) := by
  intro c rest hc
  refine ⟨c :: rest, ?_, skipBlank_cons hc.isBlank_eq_false⟩
  rw [readValue_skipBlank, List.cons_append, List.cons_append, readValue.eq_def, skipBlank_cons (by decide)]
  simp only [StringLiteral.read_plain h]
  rfl

end QueryDsl.Json
