import QueryDsl.Proofs.CommandLine.Logging
import QueryDsl.Proofs.CommandLine.Stages
import QueryDsl.Proofs.CommandLine.Texts
import QueryDsl.Text.Split

/-!
# When standard input is read

A run takes its request from one source (`Program.Takes`): what this source gives makes a difference, and what others
give makes none. An operand that spells the dash stands for standard input (`Source.isDash_iff`): the dash alone, or
with slashes behind it of which each may have a dot behind it. Every other operand is the path of a file, and the file
is called by the path as it is given (`Program.takes_standardInput`).
-/

namespace QueryDsl.CommandLine

open Checks Json

/-! ## Spellings of the dash -/

/-- The path is a dash, and behind it come slashes of which each may have a dot behind it. -/
def SpellsDash (path : String) : Prop :=
  ∃ idle : List (List Char), (∀ segment ∈ idle, segment = [] ∨ segment = ['.']) ∧
    path.toList = '-' :: idle.flatMap ('/' :: ·)

namespace Source

theorem isIdle_iff {segment : List Char} : isIdle segment = true ↔ segment = [] ∨ segment = ['.'] := by
  simp [isIdle]

/-- A path stands for standard input exactly where it spells the dash. -/
theorem isDash_iff {path : String} : isDash path = true ↔ SpellsDash path := by
  constructor
  · intro h
    unfold isDash at h
    split at h
    · cases h
    · next first others hsplit =>
      simp only [Bool.and_eq_true, beq_iff_eq, List.all_eq_true, isIdle_iff] at h
      obtain ⟨rfl, hidle⟩ := h
      exact ⟨others, hidle, (Text.splitOn_eq_cons_iff.1 hsplit).2⟩
  · rintro ⟨idle, hidle, hpath⟩
    have hparts : ∀ part ∈ ['-'] :: idle, '/' ∉ part := by
      intro part hpart
      rcases List.mem_cons.1 hpart with rfl | hpart
      · decide
      · rcases hidle part hpart with rfl | rfl <;> decide
    have hsplit : path.toList.splitOn '/' = ['-'] :: idle := Text.splitOn_eq_cons_iff.2 ⟨hparts, hpath⟩
    have hall : idle.all isIdle = true := List.all_eq_true.2 fun segment hs => isIdle_iff.2 (hidle segment hs)
    simp [isDash, hsplit, hall]

theorem ofOperand_eq_standardInput {operand : Option String} : ofOperand operand = standardInput ↔
    operand = none ∨ ∃ path, operand = some path ∧ SpellsDash path := by
  cases operand with
  | none => simp [ofOperand]
  | some path =>
    by_cases hdash : isDash path = true
    · simp [ofOperand, hdash, isDash_iff.1 hdash]
    · simp [ofOperand, hdash, mt isDash_iff.2 hdash]

theorem ofOperand_of_not_spellsDash {path : String} (h : ¬ SpellsDash path) : ofOperand (some path) = file path :=
  if_neg fun hdash => h (isDash_iff.1 hdash)

end Source

/-! ## The source of a run -/

namespace Program

/-- A run depends on what the source gives, and on nothing else that is loaded. -/
def Takes (args : List String) (source : Source) : Prop :=
  ∀ specification,
    (∀ load load' : Source → Loaded, load source = load' source →
      run args specification load = run args specification load') ∧
    ∃ load load' : Source → Loaded, (∀ other, other ≠ source → load other = load' other) ∧
      run args specification load ≠ run args specification load'

variable {args : List String} {source other : Source} {i : Invocation}

/-- There is one such source. -/
theorem Takes.unique (h : Takes args source) (h' : Takes args other) : source = other := by
  by_contra hne
  obtain ⟨load, load', hsame, hdiffer⟩ := (h none).2
  exact hdiffer ((h' none).1 load load' (hsame other (Ne.symm hne)))

/-- The code tells whether there is an answer. -/
theorem code_run (h : Invocation.ofArguments args = .ok i) (specification : Option String) (load : Source → Loaded) :
    (run args specification load).code = match (i.outcome load).result with
      | .ok _ => 0
      | .error _ => 1 := by
  rw [run_of_ofArguments h, Outcome.report]
  cases (i.outcome load).result <;> rfl

/-- A run succeeds whose source gives the empty object. -/
theorem code_run_of_object (h : Invocation.ofArguments args = .ok i) (specification : Option String)
    (load : Source → Loaded) (hload : load (Source.ofOperand i.file) = .ok "\x7b\x7d".toUTF8) :
    (run args specification load).code = 0 := by
  have hheld : heldRequest (Source.ofOperand i.file) (.ok "\x7b\x7d".toUTF8) = .ok Request.empty :=
    (heldRequest_of_parse (v := .obj []) (by rfl)).trans rfl
  rw [code_run h, Invocation.outcome, hload, Command.result_run, hheld]
  rfl

/-- A run fails whose source gives a list that breaks off. -/
theorem code_run_of_broken_off (h : Invocation.ofArguments args = .ok i) (specification : Option String)
    (load : Source → Loaded) (hload : load (Source.ofOperand i.file) = .ok "[".toUTF8) :
    (run args specification load).code = 1 := by
  obtain ⟨e, he⟩ : ∃ e, Json.parse "[" = .error e := ⟨_, by rfl⟩
  have hheld : heldRequest (Source.ofOperand i.file) (.ok "[".toUTF8) = .error (.notJson _ e) :=
    heldRequest_of_parse_error (by decide) he
  rw [code_run h, Invocation.outcome, hload, Command.result_run, hheld]
  rfl

/-- A run takes its request from the source that the operand names. -/
theorem takes_source (h : Invocation.ofArguments args = .ok i) : Takes args (Source.ofOperand i.file) := by
  intro specification
  constructor
  · intro load load' hsame
    have houtcome : i.outcome load = i.outcome load' := by rw [Invocation.outcome, Invocation.outcome, hsame]
    rw [run_of_ofArguments h, run_of_ofArguments h, houtcome]
  · -- the two differ at the source alone: every command answers the empty object and none a list that breaks off
    let object : Loaded := .ok "\x7b\x7d".toUTF8
    let load : Source → Loaded := fun _ => object
    let load' : Source → Loaded := fun other => if other = Source.ofOperand i.file then .ok "[".toUTF8 else object
    have hsucceeds := code_run_of_object h specification load rfl
    have hfails := code_run_of_broken_off h specification load' (if_pos rfl)
    refine ⟨load, load', fun other hother => (if_neg hother).symm, fun heq => ?_⟩
    rw [heq, hfails] at hsucceeds
    cases hsucceeds

/-- **When standard input is read.** A run of arguments that are accepted takes its request from standard input exactly
where there is no operand or the operand spells the dash. Every other operand is the path of the file that the run takes
its request from: the run does not depend on standard input, and its records and its failures call the file by the path
as it is given. -/
theorem takes_standardInput (h : Invocation.ofArguments args = .ok i) :
    (Takes args .standardInput ↔ i.file = none ∨ ∃ path, i.file = some path ∧ SpellsDash path) ∧
    ∀ path, i.file = some path → ¬ SpellsDash path →
      Takes args (.file path) ∧
      (∀ specification (load load' : Source → Loaded), (∀ p, load (.file p) = load' (.file p)) →
        run args specification load = run args specification load') ∧
      ∀ load : Source → Loaded,
        (∀ record ∈ (i.outcome load).log,
          record.target = commandTarget ∨ record.target = inputTarget ∧ CallsSource path record.text) ∧
        ∀ failure, (i.outcome load).result = .error failure →
          (∃ e, failure = .notRequest e) ∨ CallsSource path failure.chain.1 := by
  constructor
  · rw [← Source.ofOperand_eq_standardInput]
    constructor
    · intro htakes
      exact (takes_source h).unique htakes
    · intro hsource
      exact hsource ▸ takes_source h
  · intro path hfile hpath
    have hsource : Source.ofOperand i.file = .file path := by
      rw [hfile]
      exact Source.ofOperand_of_not_spellsDash hpath
    have htakes : Takes args (.file path) := hsource ▸ takes_source h
    refine ⟨htakes, fun specification load load' hsame => (htakes specification).1 load load' (hsame path),
      fun load => ⟨fun record hrecord => ?_, fun failure hfailure => ?_⟩⟩
    · have hcalls := Command.callsSource_of_mem_log hrecord
      rwa [hsource] at hcalls
    · have hcalls := Command.callsSource_of_result hfailure
      rwa [hsource] at hcalls

/-- Behind the mark an operand may look like a switch, and a path that leads back to a dash is none that spells it. -/
theorem takes_standardInput_dotted_dash :
    let args := ["check", "--", "./-/"]
    Invocation.ofArguments args = .ok ⟨false, false, .check, some "./-/"⟩ ∧ ¬ SpellsDash "./-/" ∧
      ¬ Takes args .standardInput ∧ Takes args (.file "./-/") := by
  intro args
  have hargs : Invocation.ofArguments args = .ok ⟨false, false, .check, some "./-/"⟩ := by decide +kernel
  have hpath : ¬ SpellsDash "./-/" := by
    rw [← Source.isDash_iff]
    decide
  obtain ⟨hinput, hfile⟩ := takes_standardInput hargs
  obtain ⟨htakes, -, -⟩ := hfile "./-/" rfl hpath
  refine ⟨hargs, hpath, fun hstandard => ?_, htakes⟩
  rcases hinput.1 hstandard with hnone | ⟨path, hsome, hdash⟩
  · cases hnone
  · cases hsome
    exact hpath hdash

/-- A dash with a slash behind it is not the dash, and yet the run depends on standard input and calls it so, where no
file can be opened. -/
theorem takes_standardInput_dash_slash :
    let args := ["check", "--", "-/"]
    let load (input : String) : Source → Loaded := (FileTree.directory []).load input.toUTF8
    Invocation.ofArguments args = .ok ⟨false, false, .check, some "-/"⟩ ∧ "-/" ≠ "-" ∧
      run args none (load "\x7b\x7d") = ⟨0, "valid request: 0 filter clause(s), shape: match_all\n", ""⟩ ∧
      run args none (load "[") = ⟨1, "", "Error: Request in stdin is not valid JSON\n\nCaused by:\n    " ++
        "EOF while parsing a list at line 1 column 1\n"⟩ := by
  intro args load
  refine ⟨by decide +kernel, by decide, by decide +kernel, by decide +kernel⟩

end Program

end QueryDsl.CommandLine
