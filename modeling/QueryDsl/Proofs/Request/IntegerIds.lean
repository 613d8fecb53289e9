import QueryDsl.Document.Compile
import QueryDsl.Proofs.Json.IntegerLiteral
import QueryDsl.Proofs.Json.StringText
import QueryDsl.Proofs.Request.IdsFrame

/-!
# Identifiers that are integers

Integers in the place for the identifiers of a request text (`IdsFrame`) are read one by one as what they denote
(`IdsFrame.IsRequest.parse_integers`).

- `query_integerIds`: integers that fit a word come out as they are written, in their order; other integers come out
  as doubles, or the request is refused.
-/

namespace QueryDsl

open Json

/-! ## Documents with the same identifiers -/

theorem Query.same_toJson_ids {vs ws : List Json} :
    (Query.ids vs).toJson.same (Query.ids ws).toJson = sameElements vs ws := by
  simp [toJson, constantScore, single, Json.same, sameMembers]

/-! ## Integers -/

theorem isIdentifier_num {xs : List Number} {id : Json} (h : id ∈ xs.map Json.num) : isIdentifier id = true := by
  obtain ⟨x, -, rfl⟩ := List.mem_map.1 h
  rfl

namespace IdsFrame

variable {f : IdsFrame}

/-- Numbers in the place of the identifiers decide the query. -/
theorem IsRequest.parse_numbers (hf : f.IsRequest) {value : List Char} (xs : List Number) (hne : xs ≠ [])
    (h : Reads (readValue innerDepth) value (.arr (xs.map Json.num))) :
    ∃ r, Request.parse (f.fill value) = .ok r ∧ r.query = .ids (xs.map Json.num) := by
  obtain ⟨r, hr, hids⟩ := hf.parse_fill h fun _ => isIdentifier_num
  exact ⟨r, hr, by rw [Request.query_of_ids (by simpa [hids] using hne), hids]⟩

/-- A request with integers in the place of its identifiers is a query for what they denote, or it is refused. -/
theorem IsRequest.parse_integers (hf : f.IsRequest) (l : IntegerList) :
    (∃ r xs, Request.parse (f.fill l.text) = .ok r ∧ List.Forall₂ IntegerLiteral.Denotes l.literals xs ∧
      r.query = .ids (xs.map Json.num)) ∨
    (∃ a ∈ l.literals, ¬ a.Fits) ∧ ∃ line column, Request.parse (f.fill l.text) =
      .error (.invalidRequest (SyntaxError.message ⟨.numberOutOfRange, line, column⟩)) := by
  rcases l.reads_text (innerDepth - 1) with ⟨xs, hxs, hread⟩ | ⟨hfits, hout⟩
  · have hne : xs ≠ [] := by
      rintro rfl
      exact l.nonempty (List.map_eq_nil_iff.1 (List.forall₂_nil_right_iff.1 hxs))
    obtain ⟨r, hr, hquery⟩ := hf.parse_numbers xs hne hread
    exact Or.inl ⟨r, xs, hr, hxs, hquery⟩
  · obtain ⟨line, column, hparse⟩ := parse_fill_outOfRange (f := f) hout
    refine Or.inr ⟨hfits, line, column, ?_⟩
    rw [Request.parse, hparse]

end IdsFrame

/-- **Integers as identifiers.** If the integers of a request text all fit a word, they are the identifiers of its
query, each as it is written and in its place. In any other request every integer that fits is still itself, and the
others are doubles; only a number that is out of range refuses the text. Documents are equal only if the integers at
each place are the same, or neither of them fits. -/
theorem query_integerIds (f : IdsFrame) (l : IntegerList) (hf : f.IsRequest) :
    ((∀ a ∈ l.literals, a.Fits) → ∃ (r : Request) (ns : List Integer), Request.parse (f.fill l.text) = .ok r ∧
      r.query = .ids (ns.map fun n => .num (.int n)) ∧ ns.map Integer.value = l.literals.map IntegerLiteral.value) ∧
    (∀ r, Request.parse (f.fill l.text) = .ok r →
      ∃ xs, List.Forall₂ IntegerLiteral.Denotes l.literals xs ∧ r.query = .ids (xs.map Json.num)) ∧
    (∀ e, Request.parse (f.fill l.text) = .error e →
      ∃ line column, e = .invalidRequest (SyntaxError.message ⟨.numberOutOfRange, line, column⟩)) ∧
    ∀ (g : IdsFrame) (m : IntegerList) (r s : Request), g.IsRequest → Request.parse (f.fill l.text) = .ok r →
      Request.parse (g.fill m.text) = .ok s → r.query.toJson.same s.query.toJson = true →
      List.Forall₂ IntegerLiteral.Agrees l.literals m.literals := by
  have hread {f : IdsFrame} {l : IntegerList} {r : Request} (hf : f.IsRequest)
      (hr : Request.parse (f.fill l.text) = .ok r) :
      ∃ xs, List.Forall₂ IntegerLiteral.Denotes l.literals xs ∧ r.query = .ids (xs.map Json.num) := by
    rcases hf.parse_integers l with ⟨r', xs, hr', hxs, hquery⟩ | ⟨-, line, column, herror⟩
    · rw [hr] at hr'
      cases hr'
      exact ⟨xs, hxs, hquery⟩
    · rw [hr] at herror
      cases herror
  refine ⟨fun hfits => ?_, fun r hr => hread hf hr, fun e he => ?_, fun g m r s hg hr hs hsame => ?_⟩
  · rcases hf.parse_integers l with ⟨r, xs, hr, hxs, hquery⟩ | ⟨⟨a, ha, hnot⟩, -⟩
    · obtain ⟨ns, rfl, hns⟩ := IntegerLiteral.exists_integers hxs hfits
      exact ⟨r, ns, hr, by rw [hquery, List.map_map]; rfl, hns⟩
    · exact absurd (hfits a ha) hnot
  · rcases hf.parse_integers l with ⟨r, xs, hr, -⟩ | ⟨-, line, column, herror⟩
    · rw [he] at hr
      cases hr
    · rw [he] at herror
      exact ⟨line, column, Except.error.inj herror⟩
  · obtain ⟨xs, hxs, hqr⟩ := hread hf hr
    obtain ⟨ys, hys, hqs⟩ := hread hg hs
    rw [hqr, hqs, Query.same_toJson_ids] at hsame
    exact IntegerLiteral.forall₂_agrees hxs hys hsame

/-- The least and the greatest integer that fit, between a text and an empty list of filters. -/
theorem query_integerIds_bounds :
    let least : Integer := ⟨-9223372036854775808, by decide, by decide⟩
    let greatest : Integer := ⟨18446744073709551615, by decide, by decide⟩
    let text := "\x7b\"q\":\"abc\",\"ids\":[ -9223372036854775808,18446744073709551615],\"filters\":[]\x7d"
    ∃ r, Request.parse text = .ok r ∧ r.query = .ids [.num (.int least), .num (.int greatest)] := by
  intro least greatest text
  let none : Blanks := ⟨[], by simp⟩
  let q : Item (members innerDepth) := ⟨_, _, (KeyText.plain "q" (List.all_eq_true.1 rfl)).reads_member
    (reads_plain (s := "abc") (List.all_eq_true.1 rfl) innerDepth)⟩
  let filters : Item (members innerDepth) := ⟨_, _, (KeyText.plain "filters" (List.all_eq_true.1 rfl)).reads_member
    ((elements (innerDepth - 1)).reads_text .nil none none)⟩
  let f : IdsFrame :=
    .member ⟨⟨none, [q], [filters], none⟩, KeyText.plain "ids" (List.all_eq_true.1 rfl), by simp [filters]⟩
  let a : IntegerLiteral := ⟨true, "9223372036854775808".toList, List.all_eq_true.1 rfl,
    Or.inr ⟨_, _, rfl, by decide⟩⟩
  let b : IntegerLiteral := ⟨false, "18446744073709551615".toList, List.all_eq_true.1 rfl,
    Or.inr ⟨_, _, rfl, by decide⟩⟩
  let l : IntegerList := ⟨none, [⟨⟨[' '], by simp [isBlank]⟩, a, none⟩, ⟨none, b, none⟩], by simp, none⟩
  have hf : f.IsRequest := IdsFrame.isRequest_of_ofJson (r := ⟨"abc", [], [], .none, .none⟩) (by rfl)
  have hfits : ∀ c ∈ l.literals, c.Fits := by
    simp only [l, IntegerList.literals, List.map_cons, List.map_nil, List.forall_mem_cons, List.not_mem_nil]
    exact ⟨by decide, by decide, by simp⟩
  obtain ⟨r, ns, hr, hquery, hns⟩ := (query_integerIds f l hf).1 hfits
  obtain rfl : ns = [least, greatest] := List.map_injective_iff.2 Integer.value_injective (hns.trans rfl)
  have htext : f.fill l.text = text := by rfl
  exact ⟨r, htext ▸ hr, hquery⟩

theorem double_two_pow_64 : ∃ x, Numeral.double false 1844674407370955161 1 = some (.float x) := by
  have hscale (m : Magnitude) : Numeral.scale m 1 = (Magnitude.ofNat 10).bind m.mul := by
    rw [Numeral.scale]
    rfl
  refine ⟨⟨false, ⟨4503599627370496, 12, by decide, by decide, by decide, by decide⟩⟩, ?_⟩
  simp only [Numeral.double, hscale]
  decide +kernel

/-- Two integers beyond the greatest word that are read as one double. -/
theorem query_integerIds_beyond_words : ∃ x r s,
    Request.parse "\x7b\"ids\":[18446744073709551616]\x7d" = .ok r ∧ r.query = .ids [.num (.float x)] ∧
    Request.parse "\x7b\"ids\":[18446744073709551617]\x7d" = .ok s ∧ s.query = .ids [.num (.float x)] := by
  obtain ⟨x, hx⟩ := double_two_pow_64
  let none : Blanks := ⟨[], by simp⟩
  let f : IdsFrame := .member ⟨⟨none, [], [], none⟩, KeyText.plain "ids" (List.all_eq_true.1 rfl), by simp⟩
  have hf : f.IsRequest := IdsFrame.isRequest_of_ofJson (r := ⟨"", [], [], .none, .none⟩) (by rfl)
  have hquery (a : IntegerLiteral) (hfits : ¬ a.Fits)
      (hdouble : Numeral.double a.negative a.numeral.significand.1 a.numeral.significand.2 = some (.float x)) :
      ∃ r, Request.parse (f.fill (none.val ++ (elements 0).text [none.val ++ a.text ++ none.val] ++ none.val)) = .ok r ∧
        r.query = .ids [.num (.float x)] := by
    have hvalue (rest : List Char) : a.numeral.value rest = .ok (.float x) := by
      rw [a.value_numeral_of_not_fits hfits, hdouble, Option.elim_some]
    have hitem := a.isNumeralText.reads hvalue none none (innerDepth - 1)
    have hread := (elements (innerDepth - 1)).reads_text (.cons hitem .nil) none none
    exact hf.parse_numbers [.float x] (by simp) hread
  let a : IntegerLiteral := ⟨false, "18446744073709551616".toList, List.all_eq_true.1 rfl,
    Or.inr ⟨_, _, rfl, by decide⟩⟩
  let b : IntegerLiteral := ⟨false, "18446744073709551617".toList, List.all_eq_true.1 rfl,
    Or.inr ⟨_, _, rfl, by decide⟩⟩
  obtain ⟨r, hr, hqr⟩ := hquery a (by decide) hx
  obtain ⟨s, hs, hqs⟩ := hquery b (by decide) hx
  exact ⟨x, r, s, hr, hqr, hs, hqs⟩

end QueryDsl
