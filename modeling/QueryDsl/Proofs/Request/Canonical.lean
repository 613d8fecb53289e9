import QueryDsl.Proofs.Clause.Canonical
import QueryDsl.Proofs.Json.PrintedText
import QueryDsl.Proofs.Request.ObjectForm

/-!
# Canonical requests

A request is written as an object with all of its parts but a page that is not set (`Request.canonical`). The requests
that are read are those without nulls in their clauses and with identifiers that are strings or numbers
(`Request.Expressible`, `Request.expressible_of_ofJson`), and each of these is read from its canonical JSON
(`Request.ofJson_canonical`) and from the text of it (`Request.parse_canonical`).
-/

namespace QueryDsl.Request

open Checks Json

variable {r s : Request}

/-- The request can be read: no value that a clause must have is null, and identifiers are strings or numbers. -/
structure Expressible (r : Request) : Prop where
  filters : ∀ f ∈ r.filters, f.clause.Expressible
  ids : ∀ id ∈ r.ids, (∃ s, id = .str s) ∨ ∃ n, id = .num n

theorem isIdentifier_iff {v : Json} : isIdentifier v = true ↔ (∃ s, v = .str s) ∨ ∃ n, v = .num n := by
  cases v <;> simp [isIdentifier]

/-! ## What is read -/

/-- Every value is read as a request by way of its parts. -/
theorem exists_ofParts {v : Json} (h : ofJson v = .ok r) : ∃ p : Parts, ofParts p = .ok r := by
  unfold ofJson at h
  split at h
  · cases h
  · next d _ => exact ⟨d.parts, h⟩

/-- Whatever is read is expressible. -/
theorem expressible_of_ofJson {v : Json} (h : ofJson v = .ok r) : r.Expressible := by
  obtain ⟨p, hp⟩ := exists_ofParts h
  obtain ⟨hids, fs, hfs, rfl⟩ := ofParts_eq_ok.1 hp
  have hread : List.Forall₂ (fun f v => f.clause.Expressible ∧ Filter.ofJson v = .ok f) fs (p.filters.getD []) :=
    hfs.flip.imp fun f v hv => ⟨Filter.expressible_of_ofJson hv, hv⟩
  exact ⟨((List.forall₂_and_left ..).1 hread).1, fun id hid => isIdentifier_iff.1 (hids id hid)⟩

/-! ## The canonical object -/

/-- The parts of a request with its filters as JSON. -/
def parts (r : Request) : Parts :=
  { text := some r.text, filters := some (r.filters.map Filter.canonical), ids := some r.ids, size := r.size,
    offset := r.offset }

/-- The members of the canonical object: the text, the filters and the identifiers, and the page as far as it is set. -/
def canonicalMembers (r : Request) : Members :=
  [("q", .str r.text), ("filters", .arr (r.filters.map Filter.canonical)), ("ids", .arr r.ids)] ++
    (SearchBody.wordMember "size" r.size ++ SearchBody.wordMember "from" r.offset)

/-- The canonical JSON of a request. -/
def canonical (r : Request) : Json := .obj r.canonicalMembers

theorem nodup_canonicalMembers (r : Request) : (r.canonicalMembers.map Prod.fst).Nodup := by
  obtain ⟨text, filters, ids, size, offset⟩ := r
  cases size <;> cases offset <;> simp [canonicalMembers, SearchBody.wordMember]

theorem objectForm_canonicalMembers (r : Request) : r.parts.ObjectForm r.canonicalMembers := by
  obtain ⟨text, filters, ids, size, offset⟩ := r
  cases size <;> cases offset <;>
    exact ⟨by simp [canonicalMembers, SearchBody.wordMember, requestNames], Or.inr rfl, fun key => by cases key <;> rfl⟩

theorem printable_canonical (h : ∀ v ∈ r.values, v.Printable) : r.canonical.Printable := by
  obtain ⟨hfilters, hids⟩ := forall_mem_values.1 h
  have hcanonical : ∀ v ∈ r.filters.map Filter.canonical, v.Printable :=
    List.forall_mem_map.2 fun f hf => Filter.printable_canonical (hfilters f hf)
  refine printable_obj.2 ⟨nodup_canonicalMembers r, List.forall_mem_append.2 ⟨?_, ?_⟩⟩
  · simpa using ⟨by simpa using hcanonical, hids⟩
  · exact List.forall_mem_append.2 ⟨SearchBody.printable_wordMember _ _, SearchBody.printable_wordMember _ _⟩

/-- Canonical filters are read one by one. -/
theorem forall₂_ofJson_canonical {fs gs : List Filter} :
    List.Forall₂ (fun v g => Filter.ofJson v = .ok g) (fs.map Filter.canonical) gs ↔
      (∀ f ∈ fs, f.clause.Expressible) ∧ gs = fs := by
  simp only [List.forall₂_map_left_iff, Filter.ofJson_canonical]
  rw [List.forall₂_and_left, ← List.forall₂_eq_eq_eq (α := Filter)]
  exact and_congr_right fun _ => ⟨List.Forall₂.flip, List.Forall₂.flip⟩

/-- **Canonical requests are read back.** What is read from the canonical JSON of a request is the request, and there is
something to read exactly when the request is expressible. -/
theorem ofJson_canonical : ofJson r.canonical = .ok s ↔ r.Expressible ∧ s = r := by
  rw [canonical, ofJson_of_objectForm (nodup_canonicalMembers r) (objectForm_canonicalMembers r), ofParts_eq_ok]
  show r.parts.IdsFit ∧ (∃ gs, List.Forall₂ _ (r.filters.map Filter.canonical) gs ∧ s = { r with filters := gs }) ↔ _
  simp only [forall₂_ofJson_canonical]
  constructor
  · rintro ⟨hids, _, ⟨hfilters, rfl⟩, rfl⟩
    exact ⟨⟨hfilters, fun id hid => isIdentifier_iff.1 (hids id hid)⟩, rfl⟩
  · rintro ⟨⟨hfilters, hids⟩, rfl⟩
    exact ⟨fun id hid => isIdentifier_iff.2 (hids id hid), _, ⟨hfilters, rfl⟩, rfl⟩

/-- **Requests survive their text.** The canonical JSON of a request, printed on one line or on many, is read as the
request if this is expressible, and else it is refused. Nothing is assumed of the request but that its values are
printable and that its levels are not too many for the reader; its texts and its keys are arbitrary. And the requests
that are not expressible are read from no JSON at all. -/
theorem parse_canonical (r : Request) (hvalues : ∀ v ∈ r.values, v.Printable)
    (hdepth : r.canonical.depth ≤ greatestDepth) :
    (∀ text, text = r.canonical.compact ∨ text = r.canonical.pretty →
      (parse text = .ok r ↔ r.Expressible) ∧ ∀ s, parse text = .ok s → s = r) ∧
    ∀ v s, ofJson v = .ok s → s.Expressible := by
  refine ⟨fun text htext => ?_, fun v s => expressible_of_ofJson⟩
  have hprinted (style : Style) : Json.parse (String.ofList (r.canonical.text style)) = .ok r.canonical :=
    (parse_text_iff (printable_canonical hvalues) style).2 hdepth
  have hjson : Json.parse text = .ok r.canonical := by
    rcases htext with rfl | rfl
    · exact hprinted .compact
    · exact hprinted (.indented 0)
  have hparse : parse text = ofJson r.canonical := by rw [parse, hjson]
  rw [hparse]
  exact ⟨ofJson_canonical.trans (and_iff_left rfl), fun s hs => (ofJson_canonical.1 hs).2⟩

/-- A null below an array is read back, and a null in its place is not. -/
theorem parse_canonical_null :
    let least : Json := .num (.int ⟨-9223372036854775808, by decide, by decide⟩)
    let r (lower : Json) : Request :=
      { text := "\"\\\x00", filters := [⟨.range "\u2028\"" ⟨lower, least, true, false⟩, true⟩]
        ids := [.str "\x7d", wordJson 18446744073709551615], offset := some 0 }
    parse (r (.arr [.null])).canonical.pretty = .ok (r (.arr [.null])) ∧
      ∀ s, parse (r .null).canonical.compact ≠ .ok s := by
  intro least r
  have hread (lower : Json) (hlower : lower.Printable) (hdepth : (r lower).canonical.depth ≤ greatestDepth) :=
    parse_canonical (r lower) (by simp [r, values, Clause.values, least, wordJson, hlower]) hdepth
  constructor
  · refine ((hread (.arr [.null]) (by simp) (by decide)).1 _ (Or.inr rfl)).1.2 ⟨?_, ?_⟩
    · simp [r, Clause.Expressible, least]
    · simp [r, wordJson]
  · intro s hs
    have hread := (hread .null (by simp) (by decide)).1 _ (Or.inl rfl)
    obtain rfl := hread.2 s hs
    have hexpressible := (hread.1.1 hs).filters _ List.mem_cons_self
    exact hexpressible.1 rfl

end QueryDsl.Request
