import QueryDsl.CommandLine.Arguments

/-!
# Arguments that make an invocation

In front of the mark `--` an argument that is accepted sets a switch (`Switches.Sets`), is the command, or is the one
operand. The two readers are opened once, by what is true of a first argument where the rest makes an invocation
(`readBefore_cons_eq_ok`, `readBehind_cons_eq_ok`).

The verbose switch is on exactly where it is given in front of the mark (`verbose_of_ofArguments`), and without it the
rest of the invocation is the same (`ofArguments_withoutVerbose`).
-/

namespace QueryDsl.CommandLine

variable {current next : Switches}

/-! ## Switches -/

/-- Whether an argument is the verbose switch. -/
def isVerboseSwitch (arg : String) : Bool := arg == "-v" || arg == "--verbose"

/-- An argument sets a switch that is not set yet. -/
inductive Switches.Sets (current : Switches) : String → Switches → Prop
  | verbose {arg : String} (spelling : isVerboseSwitch arg = true) (unset : current.verbose = false) :
      Sets current arg { current with verbose := true }
  | compact (unset : current.compact = false) : Sets current "--compact" { current with compact := true }

namespace Switches

theorem set_eq_ok {s : Switch} : current.set s = .ok next ↔
    (s = .verbose ∧ current.verbose = false ∧ { current with verbose := true } = next) ∨
      (s = .compact ∧ current.compact = false ∧ { current with compact := true } = next) := by
  cases s <;> grind [set]

theorem setAll_cons_eq_ok {s : Switch} {rest : List Switch} {e : Option UsageError} :
    current.setAll (s :: rest, e) = .ok next ↔
      ∃ middle, current.set s = .ok middle ∧ middle.setAll (rest, e) = .ok next := by
  cases h : current.set s <;> simp [setAll, h]

/-- Letters are accepted only if they are the one letter of the verbose switch: twice in one argument it is refused, and
the other letters ask for help or for the version. -/
theorem setAll_letters_eq_ok {known : Switch → Bool} {cs : List Char}
    (h : current.setAll (letterSwitches known cs) = .ok next) :
    (cs = [] ∧ current = next) ∨
      (cs = ['v'] ∧ current.verbose = false ∧ { current with verbose := true } = next) := by
  induction cs generalizing current with
  | nil => exact Or.inl ⟨rfl, by simpa [letterSwitches, setAll] using h⟩
  | cons c cs ih =>
    unfold letterSwitches at h
    cases hs : (Switch.ofLetter? c).filter known with
    | none => simp [hs, setAll] at h
    | some s =>
      rw [hs] at h
      obtain ⟨middle, hset, hrest⟩ := setAll_cons_eq_ok.1 h
      rcases set_eq_ok.1 hset with ⟨rfl, hunset, rfl⟩ | ⟨rfl, -, -⟩
      · have hc : c = 'v' := by grind [Switch.ofLetter?]
        rcases ih hrest with ⟨rfl, rfl⟩ | ⟨-, hagain, -⟩
        · exact Or.inr ⟨by rw [hc], hunset, rfl⟩
        · cases hagain
      · grind [Switch.ofLetter?]

/-- A long name is accepted only if it is the one of a switch without its value. -/
theorem setAll_long_eq_ok {known : Switch → Bool} {name : String} {hasValue : Bool}
    (h : current.setAll ((ArgumentForm.long name hasValue).switches known) = .ok next) :
    hasValue = false ∧
      ((name = "verbose" ∧ current.verbose = false ∧ { current with verbose := true } = next) ∨
        (name = "compact" ∧ current.compact = false ∧ { current with compact := true } = next)) := by
  simp only [ArgumentForm.switches] at h
  cases hs : (Switch.ofName? name).filter known with
  | none => simp [hs, setAll] at h
  | some s =>
    cases hasValue with
    | true => simp [hs, setAll] at h
    | false =>
      rw [hs] at h
      obtain ⟨middle, hset, hrest⟩ := setAll_cons_eq_ok.1 h
      obtain rfl : middle = next := by simpa [setAll] using hrest
      refine ⟨rfl, ?_⟩
      have hname : Switch.ofName? name = some s := (Option.filter_eq_some_iff.1 hs).1
      rcases set_eq_ok.1 hset with ⟨rfl, hunset, rfl⟩ | ⟨rfl, hunset, rfl⟩
      · exact Or.inl ⟨by grind [Switch.ofName?], hunset, rfl⟩
      · exact Or.inr ⟨by grind [Switch.ofName?], hunset, rfl⟩

end Switches

/-! ## Forms -/

/-- The four forms of an argument, by its characters. -/
theorem ArgumentForm.ofString_cases (arg : String) :
    (ofString arg = .escape ∧ arg = "--") ∨
    (∃ rest, arg.toList = '-' :: '-' :: rest ∧
      ofString arg = .long (String.ofList (rest.takeWhile (· ≠ '='))) (rest.contains '=')) ∨
    (∃ c cs, arg.toList = '-' :: c :: cs ∧ ofString arg = .letters (c :: cs)) ∨
    ofString arg = .operand := by
  unfold ofString
  split
  · next h => exact Or.inl ⟨rfl, String.toList_inj.1 h⟩
  · next rest _ h => exact Or.inr (Or.inl ⟨rest, h, rfl⟩)
  · next c cs _ _ h => exact Or.inr (Or.inr (Or.inl ⟨c, cs, h, rfl⟩))
  · exact Or.inr (Or.inr (Or.inr rfl))

theorem ArgumentForm.ofString_eq_escape {arg : String} : ofString arg = .escape ↔ arg = "--" := by
  constructor
  · intro h
    rcases ofString_cases arg with ⟨-, harg⟩ | ⟨rest, -, hform⟩ | ⟨c, cs, -, hform⟩ | hform
    · exact harg
    all_goals simp [hform] at h
  · rintro rfl
    rfl

/-- An argument of the long form is spelt by its name, if it has no value. -/
theorem ArgumentForm.eq_of_long {arg : String} {rest : List Char} (harg : arg.toList = '-' :: '-' :: rest)
    (hvalue : rest.contains '=' = false) {name : String} (hname : String.ofList (rest.takeWhile (· ≠ '=')) = name) :
    arg = "--" ++ name := by
  have hall : rest.takeWhile (· ≠ '=') = rest := by
    have hne : ∀ c ∈ rest, decide (c ≠ '=') = true := by
      intro c hc
      have hmem : '=' ∉ rest := by simpa using hvalue
      exact decide_eq_true fun h => hmem (h ▸ hc)
    have happend : (rest ++ []).takeWhile (· ≠ '=') = rest ++ [].takeWhile (· ≠ '=') :=
      List.takeWhile_append_of_pos hne
    simpa using happend
  rw [← hname, hall, ← String.toList_inj, harg]
  simp

/-- An argument in front of the mark that is accepted and no operand is the verbose switch or the compact one, in its
full spelling. -/
theorem Switches.sets_of_setAll {known : Switch → Bool} {arg : String} (hescape : ArgumentForm.ofString arg ≠ .escape)
    (hoperand : ArgumentForm.ofString arg ≠ .operand)
    (h : current.setAll ((ArgumentForm.ofString arg).switches known) = .ok next) : current.Sets arg next := by
  rcases ArgumentForm.ofString_cases arg with ⟨hform, -⟩ | ⟨rest, harg, hform⟩ | ⟨c, cs, harg, hform⟩ | hform
  · exact absurd hform hescape
  · rw [hform] at h
    obtain ⟨hvalue, ⟨hname, hunset, rfl⟩ | ⟨hname, hunset, rfl⟩⟩ := setAll_long_eq_ok h
    · exact .verbose (by rw [ArgumentForm.eq_of_long harg hvalue hname]; rfl) hunset
    · rw [ArgumentForm.eq_of_long harg hvalue hname]
      exact .compact hunset
  · rw [hform] at h
    rcases setAll_letters_eq_ok h with ⟨hcs, -⟩ | ⟨hcs, hunset, rfl⟩
    · cases hcs
    · obtain rfl : arg = "-v" := by rw [← String.toList_inj, harg, hcs]; rfl
      exact .verbose rfl hunset
  · exact absurd hform hoperand

/-- The verbose switch and the compact one are read as such wherever they are known. -/
theorem Switches.Sets.exists_switch (known : Switch → Bool) (hverbose : known .verbose = true)
    (hcompact : known .compact = true) {arg : String} (h : current.Sets arg next) :
    ∃ s, (ArgumentForm.ofString arg).switches known = ([s], none) ∧ current.set s = .ok next := by
  cases h with
  | verbose spelling unset =>
    refine ⟨.verbose, ?_, set_eq_ok.2 (Or.inl ⟨rfl, unset, rfl⟩)⟩
    have harg : arg = "-v" ∨ arg = "--verbose" := by simpa [isVerboseSwitch] using spelling
    rcases harg with rfl | rfl
    · rw [show ArgumentForm.ofString "-v" = .letters ['v'] by rfl]
      simp [ArgumentForm.switches, letterSwitches, Switch.ofLetter?, Option.filter, hverbose]
    · rw [show ArgumentForm.ofString "--verbose" = .long "verbose" false by rfl]
      simp [ArgumentForm.switches, Switch.ofName?, Option.filter, hverbose]
  | compact unset =>
    refine ⟨.compact, ?_, set_eq_ok.2 (Or.inr ⟨rfl, unset, rfl⟩)⟩
    rw [show ArgumentForm.ofString "--compact" = .long "compact" false by rfl]
    simp [ArgumentForm.switches, Switch.ofName?, Option.filter, hcompact]

theorem Switches.Sets.setAll_eq_ok (known : Switch → Bool) (hverbose : known .verbose = true)
    (hcompact : known .compact = true) {arg : String} (h : current.Sets arg next) :
    current.setAll ((ArgumentForm.ofString arg).switches known) = .ok next := by
  obtain ⟨s, hswitches, hset⟩ := h.exists_switch known hverbose hcompact
  rw [hswitches]
  exact setAll_cons_eq_ok.2 ⟨next, hset, by simp [setAll]⟩

/-- A switch is neither the mark nor an operand. -/
theorem Switches.Sets.ofString_ne {arg : String} (h : current.Sets arg next) :
    ArgumentForm.ofString arg ≠ .escape ∧ ArgumentForm.ofString arg ≠ .operand := by
  obtain ⟨s, hswitches, -⟩ := h.exists_switch (fun _ => true) rfl rfl
  constructor <;> intro hform <;> simp [hform, ArgumentForm.switches] at hswitches

/-! ## One argument -/

variable {command : Command} {before behind : Switches} {file : Option String} {arg : String} {args : List String}
  {invocation : Invocation}

/-- An argument behind the command that is neither the mark nor an operand is accepted if it sets a switch and no empty
name of a file is in front of it. -/
theorem readBehind_switches_eq_ok (hescape : ArgumentForm.ofString arg ≠ .escape)
    (hoperand : ArgumentForm.ofString arg ≠ .operand) :
    readBehind command before behind file (arg :: args) = .ok invocation ↔
      ∃ next, behind.Sets arg next ∧ file ≠ some "" ∧ readBehind command before next file args = .ok invocation := by
  rw [readBehind.eq_def]
  dsimp only
  split
  · contradiction
  · contradiction
  constructor
  · intro h
    split at h
    · cases h
    · next hempty =>
      cases hset : behind.setAll ((ArgumentForm.ofString arg).switches knownBehind) with
      | error e => simp [hset] at h
      | ok next =>
        have hsets := Switches.sets_of_setAll hescape hoperand hset
        obtain ⟨s, hswitches, -⟩ := hsets.exists_switch knownBehind rfl rfl
        refine ⟨next, hsets, fun hfile => hempty ⟨hfile, by simp [hswitches]⟩, by simpa [hset] using h⟩
  · rintro ⟨next, hsets, hfile, h⟩
    rw [if_neg fun hempty => hfile hempty.1, hsets.setAll_eq_ok _ rfl rfl]
    exact h

/-- An argument in front of the command that is neither the mark nor an operand is accepted if it sets a switch. -/
theorem readBefore_switches_eq_ok (hcommand : Command.ofName? arg = none) (hhelp : arg ≠ helpWord)
    (hescape : ArgumentForm.ofString arg ≠ .escape) (hoperand : ArgumentForm.ofString arg ≠ .operand) :
    readBefore before (arg :: args) = .ok invocation ↔
      ∃ next, before.Sets arg next ∧ readBefore next args = .ok invocation := by
  rw [readBefore.eq_def]
  dsimp only
  rw [hcommand]
  dsimp only
  rw [if_neg hhelp]
  split
  · contradiction
  · contradiction
  constructor
  · intro h
    cases hset : before.setAll ((ArgumentForm.ofString arg).switches fun _ => true) with
    | error e => simp [hset] at h
    | ok next => exact ⟨next, Switches.sets_of_setAll hescape hoperand hset, by simpa [hset] using h⟩
  · rintro ⟨next, hsets, h⟩
    rw [hsets.setAll_eq_ok _ rfl rfl]
    exact h

/-- What a first argument behind the command is, where the arguments are accepted. -/
theorem readBehind_cons_eq_ok : readBehind command before behind file (arg :: args) = .ok invocation ↔
    (arg = "--" ∧ readOperands command before behind file args = .ok invocation) ∨
    (ArgumentForm.ofString arg = .operand ∧ file = none ∧
      readBehind command before behind (some arg) args = .ok invocation) ∨
    ∃ next, behind.Sets arg next ∧ file ≠ some "" ∧ readBehind command before next file args = .ok invocation := by
  constructor
  · intro h
    by_cases hescape : ArgumentForm.ofString arg = .escape
    · rw [readBehind.eq_def] at h
      exact Or.inl ⟨ArgumentForm.ofString_eq_escape.1 hescape, by simpa only [hescape] using h⟩
    by_cases hoperand : ArgumentForm.ofString arg = .operand
    · rw [readBehind.eq_def] at h
      cases file with
      | none => exact Or.inr (Or.inl ⟨hoperand, rfl, by simpa only [hoperand] using h⟩)
      | some path => simp [hoperand] at h
    exact Or.inr (Or.inr ((readBehind_switches_eq_ok hescape hoperand).1 h))
  · rintro (⟨rfl, h⟩ | ⟨hoperand, rfl, h⟩ | ⟨next, hsets, h⟩)
    · exact h
    · rw [readBehind.eq_def]
      simpa only [hoperand] using h
    · exact (readBehind_switches_eq_ok hsets.ofString_ne.1 hsets.ofString_ne.2).2 ⟨next, hsets, h⟩

/-- A switch is neither a command nor the word for help. -/
theorem Switches.Sets.ofName?_eq_none (h : current.Sets arg next) : Command.ofName? arg = none ∧ arg ≠ helpWord := by
  cases h with
  | verbose spelling unset =>
    have harg : arg = "-v" ∨ arg = "--verbose" := by simpa [isVerboseSwitch] using spelling
    rcases harg with rfl | rfl <;> decide
  | compact unset => decide

/-- What a first argument in front of the command is, where the arguments are accepted. -/
theorem readBefore_cons_eq_ok : readBefore before (arg :: args) = .ok invocation ↔
    (∃ command, Command.ofName? arg = some command ∧ readBehind command before {} none args = .ok invocation) ∨
    ∃ next, before.Sets arg next ∧ readBefore next args = .ok invocation := by
  constructor
  · intro h
    cases hcommand : Command.ofName? arg with
    | some command =>
      rw [readBefore.eq_def] at h
      exact Or.inl ⟨command, rfl, by simpa only [hcommand] using h⟩
    | none =>
      by_cases hhelp : arg = helpWord
      · rw [readBefore.eq_def] at h
        simp [hcommand, if_pos hhelp] at h
      by_cases hescape : ArgumentForm.ofString arg = .escape
      · rw [readBefore.eq_def] at h
        cases args <;> simp [hcommand, hhelp, hescape] at h
      by_cases hoperand : ArgumentForm.ofString arg = .operand
      · rw [readBefore.eq_def] at h
        simp [hcommand, hhelp, hoperand] at h
      exact Or.inr ((readBefore_switches_eq_ok hcommand hhelp hescape hoperand).1 h)
  · rintro (⟨command, hcommand, h⟩ | ⟨next, hsets, h⟩)
    · rw [readBefore.eq_def]
      simpa only [hcommand] using h
    · obtain ⟨hcommand, hhelp⟩ := hsets.ofName?_eq_none
      exact (readBefore_switches_eq_ok hcommand hhelp hsets.ofString_ne.1 hsets.ofString_ne.2).2 ⟨next, hsets, h⟩

/-! ## The verbose switch -/

/-- The arguments in front of the mark. -/
def options (args : List String) : List String := args.takeWhile (· != "--")

/-- Whether the verbose switch is given. -/
def hasVerbose (args : List String) : Bool := (options args).any isVerboseSwitch

/-- The arguments without the verbose switch. Behind the mark an argument is no switch. -/
def withoutVerbose (args : List String) : List String :=
  (options args).filter (!isVerboseSwitch ·) ++ args.dropWhile (· != "--")

theorem hasVerbose_mark : hasVerbose ("--" :: args) = false := by
  simp [hasVerbose, options]

theorem withoutVerbose_mark : withoutVerbose ("--" :: args) = "--" :: args := by
  simp [withoutVerbose, options]

theorem hasVerbose_cons (hmark : arg ≠ "--") : hasVerbose (arg :: args) = (isVerboseSwitch arg || hasVerbose args) := by
  simp [hasVerbose, options, hmark]

theorem withoutVerbose_cons (hmark : arg ≠ "--") : withoutVerbose (arg :: args) =
    if isVerboseSwitch arg then withoutVerbose args else arg :: withoutVerbose args := by
  cases h : isVerboseSwitch arg <;> simp [withoutVerbose, options, hmark, h]

/-- The switches without the verbose one. -/
def Switches.quiet (s : Switches) : Switches := { s with verbose := false }

/-- The invocation without the verbose switch. -/
def Invocation.quiet (i : Invocation) : Invocation := { i with verbose := false }

/-- What setting a switch does to the verbose switch and to the others. -/
theorem Switches.Sets.quiet (h : current.Sets arg next) :
    next.verbose = (current.verbose || isVerboseSwitch arg) ∧
    if isVerboseSwitch arg then next.quiet = current.quiet else current.quiet.Sets arg next.quiet := by
  cases h with
  | verbose spelling unset => simp [spelling, Switches.quiet]
  | compact unset =>
    have hother : isVerboseSwitch "--compact" = false := by decide
    simp only [hother]
    exact ⟨by simp, .compact unset⟩

/-- The end of the arguments is accepted whatever switches are set. -/
theorem finish_quiet (h : finish command before behind file = .ok invocation) :
    finish command before.quiet behind.quiet file = .ok invocation.quiet ∧
      invocation.verbose = (before.verbose || behind.verbose) := by
  unfold finish at h ⊢
  split at h
  · cases h
  · next hfile =>
    cases h
    exact ⟨by rw [if_neg hfile]; rfl, rfl⟩

theorem readOperands_quiet (h : readOperands command before behind file args = .ok invocation) :
    readOperands command before.quiet behind.quiet file args = .ok invocation.quiet ∧
      invocation.verbose = (before.verbose || behind.verbose) := by
  unfold readOperands at h ⊢
  split at h
  · exact finish_quiet h
  · exact finish_quiet h
  · cases h

/-- The verbose switch can be set where it is not set yet. -/
theorem sets_of_isVerboseSwitch (h : isVerboseSwitch arg = true) :
    Switches.Sets {} arg { verbose := true, compact := false } :=
  .verbose h rfl

/-- An operand is not the verbose switch. -/
theorem isVerboseSwitch_of_operand (h : ArgumentForm.ofString arg = .operand) : isVerboseSwitch arg = false :=
  Bool.eq_false_iff.2 fun hspelling => (sets_of_isVerboseSwitch hspelling).ofString_ne.2 h

/-- The name of a command is not the verbose switch. -/
theorem isVerboseSwitch_of_ofName? (h : Command.ofName? arg = some command) : isVerboseSwitch arg = false :=
  Bool.eq_false_iff.2 fun hspelling => by simp [(sets_of_isVerboseSwitch hspelling).ofName?_eq_none.1] at h

/-- Behind the command, what is accepted is accepted without the verbose switch, which nothing else depends on. -/
theorem readBehind_withoutVerbose (h : readBehind command before behind file args = .ok invocation) :
    readBehind command before.quiet behind.quiet file (withoutVerbose args) = .ok invocation.quiet ∧
      invocation.verbose = (before.verbose || behind.verbose || hasVerbose args) := by
  induction args generalizing behind file with
  | nil => simpa [readBehind, withoutVerbose, hasVerbose, options] using finish_quiet h
  | cons arg args ih =>
    rcases readBehind_cons_eq_ok.1 h with ⟨rfl, htail⟩ | ⟨hoperand, hfile, htail⟩ | ⟨next, hsets, hfile, htail⟩
    · obtain ⟨hquiet, hverbose⟩ := readOperands_quiet htail
      rw [withoutVerbose_mark, hasVerbose_mark, Bool.or_false]
      exact ⟨readBehind_cons_eq_ok.2 (Or.inl ⟨rfl, hquiet⟩), hverbose⟩
    · obtain ⟨hquiet, hverbose⟩ := ih htail
      have hmark : arg ≠ "--" := fun harg => by simp [ArgumentForm.ofString_eq_escape.2 harg] at hoperand
      rw [withoutVerbose_cons hmark, hasVerbose_cons hmark, isVerboseSwitch_of_operand hoperand]
      exact ⟨readBehind_cons_eq_ok.2 (Or.inr (Or.inl ⟨hoperand, hfile, hquiet⟩)), hverbose⟩
    · obtain ⟨hquiet, hverbose⟩ := ih htail
      obtain ⟨hset, hrest⟩ := hsets.quiet
      have hmark : arg ≠ "--" := fun harg => hsets.ofString_ne.1 (ArgumentForm.ofString_eq_escape.2 harg)
      rw [withoutVerbose_cons hmark, hasVerbose_cons hmark]
      refine ⟨?_, by rw [hverbose, hset]; ac_rfl⟩
      split at hrest
      · next hspelling => rwa [if_pos hspelling, ← hrest]
      · next hspelling =>
        rw [if_neg hspelling]
        exact readBehind_cons_eq_ok.2 (Or.inr (Or.inr ⟨_, hrest, hfile, hquiet⟩))

/-- In front of the command the same holds. -/
theorem readBefore_withoutVerbose (h : readBefore before args = .ok invocation) :
    readBefore before.quiet (withoutVerbose args) = .ok invocation.quiet ∧
      invocation.verbose = (before.verbose || hasVerbose args) := by
  induction args generalizing before with
  | nil => cases h
  | cons arg args ih =>
    rcases readBefore_cons_eq_ok.1 h with ⟨command, hcommand, htail⟩ | ⟨next, hsets, htail⟩
    · obtain ⟨hquiet, hverbose⟩ := readBehind_withoutVerbose htail
      have hmark : arg ≠ "--" := by
        rintro rfl
        cases hcommand
      rw [withoutVerbose_cons hmark, hasVerbose_cons hmark, isVerboseSwitch_of_ofName? hcommand]
      exact ⟨readBefore_cons_eq_ok.2 (Or.inl ⟨command, hcommand, hquiet⟩), by simpa using hverbose⟩
    · obtain ⟨hquiet, hverbose⟩ := ih htail
      obtain ⟨hset, hrest⟩ := hsets.quiet
      have hmark : arg ≠ "--" := fun harg => hsets.ofString_ne.1 (ArgumentForm.ofString_eq_escape.2 harg)
      rw [withoutVerbose_cons hmark, hasVerbose_cons hmark]
      refine ⟨?_, by rw [hverbose, hset, Bool.or_assoc]⟩
      split at hrest
      · next hspelling => rwa [if_pos hspelling, ← hrest]
      · next hspelling =>
        rw [if_neg hspelling]
        exact readBefore_cons_eq_ok.2 (Or.inr ⟨_, hrest, hquiet⟩)

/-- Arguments that make an invocation make the same one without the verbose switch, but for this switch. -/
theorem Invocation.ofArguments_withoutVerbose (h : ofArguments args = .ok invocation) :
    ofArguments (withoutVerbose args) = .ok invocation.quiet :=
  (readBefore_withoutVerbose h).1

/-- An invocation is verbose exactly where the switch is given in front of the mark. -/
theorem Invocation.verbose_of_ofArguments (h : ofArguments args = .ok invocation) :
    invocation.verbose = hasVerbose args := by
  simpa using (readBefore_withoutVerbose h).2

/-! ## One switch more -/

/-- One list of arguments is another one with the verbose switch as one option more. -/
def AddsVerbose (args longer : List String) : Prop :=
  ∃ front switch back, args = front ++ back ∧ longer = front ++ switch :: back ∧ isVerboseSwitch switch = true ∧
    "--" ∉ front

theorem withoutVerbose_append {front : List String} (hmark : "--" ∉ front) (back : List String) :
    withoutVerbose (front ++ back) = front.filter (!isVerboseSwitch ·) ++ withoutVerbose back := by
  induction front with
  | nil => rfl
  | cons arg front ih =>
    obtain ⟨harg, hfront⟩ : "--" ≠ arg ∧ "--" ∉ front := by simpa using hmark
    rw [List.cons_append, withoutVerbose_cons (Ne.symm harg), ih hfront]
    cases h : isVerboseSwitch arg <;> simp [h]

theorem hasVerbose_append {front : List String} (hmark : "--" ∉ front) (back : List String) :
    hasVerbose (front ++ back) = (front.any isVerboseSwitch || hasVerbose back) := by
  induction front with
  | nil => rfl
  | cons arg front ih =>
    obtain ⟨harg, hfront⟩ : "--" ≠ arg ∧ "--" ∉ front := by simpa using hmark
    rw [List.cons_append, hasVerbose_cons (Ne.symm harg), ih hfront, List.any_cons, Bool.or_assoc]

/-- Where both lists are accepted, one verbose switch more makes the invocation verbose and nothing else. -/
theorem AddsVerbose.eq_verbose {longer : List String} {other : Invocation} (h : AddsVerbose args longer)
    (hargs : Invocation.ofArguments args = .ok invocation) (hlonger : Invocation.ofArguments longer = .ok other) :
    other = { invocation with verbose := true } := by
  obtain ⟨front, switch, back, rfl, rfl, hspelling, hmark⟩ := h
  have hswitch : switch ≠ "--" := by
    rintro rfl
    cases hspelling
  have hverbose : other.verbose = true := by
    rw [Invocation.verbose_of_ofArguments hlonger, hasVerbose_append hmark, hasVerbose_cons hswitch, hspelling]
    simp
  have hrest : withoutVerbose (front ++ switch :: back) = withoutVerbose (front ++ back) := by
    rw [withoutVerbose_append hmark, withoutVerbose_append hmark, withoutVerbose_cons hswitch, if_pos hspelling]
  have hquiet : invocation.quiet = other.quiet := by
    have hother := Invocation.ofArguments_withoutVerbose hlonger
    rw [hrest, Invocation.ofArguments_withoutVerbose hargs] at hother
    exact Except.ok.inj hother
  obtain ⟨verbose, compact, command, file⟩ := other
  cases hverbose
  simpa [Invocation.quiet, eq_comm] using hquiet

end QueryDsl.CommandLine
