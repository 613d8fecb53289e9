import QueryDsl.Proofs.CommandLine.Acceptance

/-!
# Sentences of the command line

A sentence (`Sentence`) has switches in front of its command, and behind it switches and operands, the mark `--` with
operands behind it, or both; in all there is one operand at most. The readers take arguments from left to right and
carry the switches that are set so far. What they accept is said of whole lists here: the switches that are set admit
all the others (`Switches.Admits`), and what is set in the end is the sum (`Switches.add`).

The arguments that make an invocation are the sentences (`ofArguments_eq_ok_iff_sentence`).
-/

namespace QueryDsl.CommandLine

/-! ## Words -/

/-- Whether an argument is the compact switch. -/
def isCompactSwitch (arg : String) : Bool := arg == "--compact"

/-- Whether an argument is one of the two switches. -/
def isSwitch (arg : String) : Bool := isVerboseSwitch arg || isCompactSwitch arg

/-- Each switch is given once at most. -/
structure OnceEach (args : List String) : Prop where
  verbose : args.countP isVerboseSwitch ≤ 1
  compact : args.countP isCompactSwitch ≤ 1

/-- What is an operand in front of the mark too: the dash, and whatever does not start with one. -/
def PlainOperand (arg : String) : Prop := arg = "-" ∨ ∀ rest, arg ≠ "-" ++ rest

/-- There is one operand at most, and it is not empty. -/
structure OneOperand (operands : List String) : Prop where
  length_le : operands.length ≤ 1
  ne_empty : "" ∉ operands

/-- The word for a command. -/
def Command.word : Command → String
  | compile => "compile"
  | body => "body"
  | check => "check"

/-! ## Sentences -/

/-- The operands in front of the mark and behind it. -/
def operandsOf (opts : List String) (escaped : Option (List String)) : List String :=
  opts.filter (!isSwitch ·) ++ escaped.getD []

/-- The mark with what stands behind it, where there is one. -/
def marked : Option (List String) → List String
  | none => []
  | some operands => "--" :: operands

/-- What stands in front of the command, behind it, and behind the mark is in its place: switches on both sides, each
once at most on a side, and one operand at most, which is not empty. -/
structure WellPlaced (before behind : List String) (escaped : Option (List String)) : Prop where
  before_switches : ∀ arg ∈ before, isSwitch arg = true
  before_once : OnceEach before
  behind_form : ∀ arg ∈ behind, isSwitch arg = true ∨ PlainOperand arg
  behind_once : OnceEach behind
  one_operand : OneOperand (operandsOf behind escaped)

/-- A sentence of the command line. -/
structure Sentence where
  /-- The arguments in front of the command. -/
  before : List String
  command : Command
  /-- The arguments behind the command and in front of the mark. -/
  behind : List String
  /-- The arguments behind the mark, where there is one. -/
  escaped : Option (List String)
  wellPlaced : WellPlaced before behind escaped

namespace Sentence

/-- The list of arguments that a sentence is. -/
def arguments (s : Sentence) : List String := s.before ++ s.command.word :: (s.behind ++ marked s.escaped)

/-- What a sentence says: a switch is on where it is given on either side of the command. -/
def invocation (s : Sentence) : Invocation where
  verbose := (s.before ++ s.behind).any isVerboseSwitch
  compact := (s.before ++ s.behind).any isCompactSwitch
  command := s.command
  file := (operandsOf s.behind s.escaped).head?

end Sentence

/-! ## Words told apart -/

theorem Command.ofName?_eq_some {name : String} {command : Command} :
    ofName? name = some command ↔ name = command.word := by
  constructor
  · intro h
    grind [ofName?, word]
  · rintro rfl
    cases command <;> rfl

/-- The word for a command is no switch. -/
theorem Command.isSwitch_word (command : Command) : isSwitch command.word = false := by
  cases command <;> decide

/-- The form of an operand is told by its first characters. -/
theorem ArgumentForm.ofString_eq_operand {arg : String} : ofString arg = .operand ↔ PlainOperand arg := by
  have hdash {rest : String} : arg = "-" ++ rest ↔ arg.toList = '-' :: rest.toList := by
    rw [← String.toList_inj, String.toList_append]
    rfl
  constructor
  · intro h
    by_cases halone : arg = "-"
    · exact Or.inl halone
    refine Or.inr fun rest hrest => ?_
    cases hchars : rest.toList with
    | nil => exact halone (by rw [hrest, String.toList_eq_nil_iff.1 hchars]; rfl)
    | cons c cs =>
      rw [hdash, hchars] at hrest
      unfold ofString at h
      rw [hrest] at h
      split at h <;> simp_all
  · rintro (rfl | h)
    · rfl
    · unfold ofString
      split
      · next hchars => exact absurd (hdash.2 (by simpa using hchars)) (h "-")
      · next rest _ hchars => exact absurd (hdash.2 (by simpa using hchars)) (h (String.ofList ('-' :: rest)))
      · next c cs _ _ hchars => exact absurd (hdash.2 (by simpa using hchars)) (h (String.ofList (c :: cs)))
      · rfl

/-! ## Switches in turn -/

variable {current next : Switches} {arg : String} {args : List String}

theorem isCompactSwitch_eq_false (h : isVerboseSwitch arg = true) : isCompactSwitch arg = false := by
  have harg : arg = "-v" ∨ arg = "--verbose" := by simpa [isVerboseSwitch] using h
  rcases harg with rfl | rfl <;> decide

/-- Once at most in a list with one more in front. -/
theorem toNat_add_countP_cons (p : String → Bool) (set : Bool) (arg : String) (args : List String) :
    set.toNat + (arg :: args).countP p ≤ 1 ↔ (set && p arg) = false ∧ (set || p arg).toNat + args.countP p ≤ 1 := by
  rw [List.countP_cons]
  generalize args.countP p = n
  cases set <;> cases p arg <;> grind

namespace Switches

/-- The switches that are set when some more arguments have been read. -/
def add (current : Switches) (args : List String) : Switches :=
  ⟨current.verbose || args.any isVerboseSwitch, current.compact || args.any isCompactSwitch⟩

/-- No switch is set twice by some more arguments. -/
structure Admits (current : Switches) (args : List String) : Prop where
  verbose : current.verbose.toNat + args.countP isVerboseSwitch ≤ 1
  compact : current.compact.toNat + args.countP isCompactSwitch ≤ 1

/-- An argument does not set what is set already. -/
structure AdmitsOne (current : Switches) (arg : String) : Prop where
  verbose : (current.verbose && isVerboseSwitch arg) = false
  compact : (current.compact && isCompactSwitch arg) = false

theorem admits_empty : Admits {} args ↔ OnceEach args :=
  ⟨fun h => ⟨by simpa using h.verbose, by simpa using h.compact⟩,
    fun h => ⟨by simpa using h.verbose, by simpa using h.compact⟩⟩

theorem admits_nil (current : Switches) : current.Admits [] :=
  ⟨by simpa using Bool.toNat_le _, by simpa using Bool.toNat_le _⟩

theorem admits_cons : current.Admits (arg :: args) ↔ current.AdmitsOne arg ∧ (current.add [arg]).Admits args := by
  constructor
  · rintro ⟨hv, hc⟩
    rw [toNat_add_countP_cons] at hv hc
    exact ⟨⟨hv.1, hc.1⟩, by simpa [add] using hv.2, by simpa [add] using hc.2⟩
  · rintro ⟨⟨hv, hc⟩, ⟨hv', hc'⟩⟩
    constructor <;> rw [toNat_add_countP_cons]
    · exact ⟨hv, by simpa [add] using hv'⟩
    · exact ⟨hc, by simpa [add] using hc'⟩

theorem add_nil (current : Switches) : current.add [] = current := by
  simp [add]

theorem add_cons (current : Switches) (arg : String) (args : List String) :
    current.add (arg :: args) = (current.add [arg]).add args := by
  simp [add, Bool.or_assoc]

/-- What sets a switch is one of the two, and it is not set yet. -/
theorem sets_iff : current.Sets arg next ↔ isSwitch arg = true ∧ current.AdmitsOne arg ∧ current.add [arg] = next := by
  constructor
  · rintro (⟨hspelling, hunset⟩ | hunset)
    · have hcompact := isCompactSwitch_eq_false hspelling
      exact ⟨by simp [isSwitch, hspelling], ⟨by simp [hunset], by simp [hcompact]⟩, by simp [add, hspelling, hcompact]⟩
    · have hverbose : isVerboseSwitch "--compact" = false := by decide
      have hcompact : isCompactSwitch "--compact" = true := by decide
      exact ⟨by decide, ⟨by simp [hverbose], by simp [hunset]⟩, by simp [add, hverbose, hcompact]⟩
  · rintro ⟨hswitch, ⟨hv, hc⟩, rfl⟩
    cases hspelling : isVerboseSwitch arg with
    | true =>
      have hcompact := isCompactSwitch_eq_false hspelling
      have hunset : current.verbose = false := by simpa [hspelling] using hv
      simpa [add, hspelling, hcompact] using Sets.verbose hspelling hunset
    | false =>
      have hcompact : isCompactSwitch arg = true := by simpa [isSwitch, hspelling] using hswitch
      obtain rfl : arg = "--compact" := by simpa [isCompactSwitch] using hcompact
      have hunset : current.compact = false := by simpa [hcompact] using hc
      simpa [add, hspelling, hcompact] using Sets.compact hunset

end Switches

/-- A switch is not the mark. -/
theorem ne_mark (h : isSwitch arg = true) : "--" ≠ arg := by
  rintro rfl
  exact absurd h (by decide)

/-- A switch is no operand. -/
theorem not_plainOperand (h : isSwitch arg = true) : ¬ PlainOperand arg := by
  intro hplain
  have hform := ArgumentForm.ofString_eq_operand.2 hplain
  have hunset : Switches.AdmitsOne {} arg := ⟨rfl, rfl⟩
  exact (Switches.sets_iff.2 ⟨h, hunset, rfl⟩).ofString_ne.2 hform

/-- The mark is no operand in front of itself. -/
theorem not_plainOperand_mark : ¬ PlainOperand "--" := by
  rintro (h | h)
  · exact absurd h (by decide)
  · exact h "-" rfl

/-- What is no switch sets none. -/
theorem Switches.admitsOne_of_not_switch (current : Switches) (h : isSwitch arg = false) :
    current.AdmitsOne arg ∧ current.add [arg] = current := by
  obtain ⟨hverbose, hcompact⟩ : isVerboseSwitch arg = false ∧ isCompactSwitch arg = false := by
    simpa [isSwitch] using h
  exact ⟨⟨by simp [hverbose], by simp [hcompact]⟩, by simp [add, hverbose, hcompact]⟩

/-! ## Behind the command -/

variable {command : Command} {before behind : Switches} {file : Option String} {i : Invocation}
  {opts : List String} {escaped : Option (List String)}

/-- The invocation by the switches of both sides and the operands. -/
def invocationOf (command : Command) (before behind : Switches) (operands : List String) : Invocation :=
  ⟨before.verbose || behind.verbose, before.compact || behind.compact, command, operands.head?⟩

theorem OneOperand.toList_head? {operands : List String} (h : OneOperand operands) :
    operands.head?.toList = operands := by
  cases operands with
  | nil => rfl
  | cons operand rest =>
    obtain rfl : rest = [] := by simpa using h.length_le
    rfl

theorem oneOperand_toList : OneOperand file.toList ↔ file ≠ some "" := by
  cases file with
  | none => exact ⟨fun _ => nofun, fun _ => ⟨by simp, by simp⟩⟩
  | some path => exact ⟨fun h heq => h.ne_empty (by simp [heq]), fun h => ⟨by simp, by simpa [eq_comm] using h⟩⟩

theorem finish_eq_ok : finish command before behind file = .ok i ↔
    OneOperand file.toList ∧ invocationOf command before behind file.toList = i := by
  rw [oneOperand_toList, finish, invocationOf]
  by_cases hfile : file = some "" <;> simp [hfile]

theorem readOperands_eq_ok : readOperands command before behind file args = .ok i ↔
    OneOperand (file.toList ++ args) ∧ invocationOf command before behind (file.toList ++ args) = i := by
  unfold readOperands
  split
  · rw [List.append_nil]
    exact finish_eq_ok
  · exact finish_eq_ok
  · next hnil hone =>
    -- two operands at least
    refine ⟨nofun, fun ⟨hoperand, _⟩ => ?_⟩
    have hlength := hoperand.length_le
    cases file with
    | some path => cases args with
      | nil => exact absurd rfl hnil
      | cons => simp at hlength
    | none => match args with
      | [] => exact absurd rfl hnil
      | [operand] => exact absurd rfl (hone operand rfl)
      | _ :: _ :: _ => simp at hlength

/-- What is accepted behind the command: switches that are not set yet, and one operand in all. -/
theorem readBehind_eq_ok (hmark : "--" ∉ opts) :
    readBehind command before behind file (opts ++ marked escaped) = .ok i ↔
      (∀ arg ∈ opts, isSwitch arg = true ∨ PlainOperand arg) ∧ behind.Admits opts ∧
        OneOperand (file.toList ++ operandsOf opts escaped) ∧
        invocationOf command before (behind.add opts) (file.toList ++ operandsOf opts escaped) = i := by
  induction opts generalizing behind file with
  | nil =>
    have hadmits := behind.admits_nil
    cases escaped with
    | none => simpa [marked, operandsOf, hadmits, behind.add_nil, readBehind] using finish_eq_ok
    | some operands =>
      have hread : readBehind command before behind file ("--" :: operands) =
          readOperands command before behind file operands := rfl
      simpa [marked, operandsOf, hadmits, behind.add_nil, hread] using readOperands_eq_ok
  | cons arg opts ih =>
    obtain ⟨harg, hopts⟩ : "--" ≠ arg ∧ "--" ∉ opts := by simpa using hmark
    rw [List.cons_append, readBehind_cons_eq_ok, Switches.admits_cons, Switches.add_cons behind arg opts]
    cases hswitch : isSwitch arg with
    | true =>
      have hplain := not_plainOperand hswitch
      have hoperands : operandsOf (arg :: opts) escaped = operandsOf opts escaped := by simp [operandsOf, hswitch]
      rw [hoperands]
      constructor
      · rintro (⟨rfl, -⟩ | ⟨hform, -⟩ | ⟨next, hsets, -, h⟩)
        · exact absurd rfl harg
        · exact absurd (ArgumentForm.ofString_eq_operand.1 hform) hplain
        · obtain ⟨-, hone, rfl⟩ := Switches.sets_iff.1 hsets
          obtain ⟨hforms, hadmits, hoperand, hinvocation⟩ := (ih hopts).1 h
          exact ⟨List.forall_mem_cons.2 ⟨Or.inl hswitch, hforms⟩, ⟨hone, hadmits⟩, hoperand, hinvocation⟩
      · rintro ⟨hforms, ⟨hone, hadmits⟩, hoperand, hinvocation⟩
        have hrest := (ih hopts).2 ⟨(List.forall_mem_cons.1 hforms).2, hadmits, hoperand, hinvocation⟩
        have hfile : file ≠ some "" := by
          rintro rfl
          exact hoperand.ne_empty (by simp)
        exact Or.inr (Or.inr ⟨_, Switches.sets_iff.2 ⟨hswitch, hone, rfl⟩, hfile, hrest⟩)
    | false =>
      obtain ⟨hone, hadd⟩ := behind.admitsOne_of_not_switch hswitch
      have hoperands : operandsOf (arg :: opts) escaped = arg :: operandsOf opts escaped := by
        simp [operandsOf, hswitch]
      rw [hoperands, hadd]
      constructor
      · rintro (⟨rfl, -⟩ | ⟨hform, rfl, h⟩ | ⟨next, hsets, -⟩)
        · exact absurd rfl harg
        · obtain ⟨hforms, hadmits, hoperand, hinvocation⟩ := (ih hopts).1 h
          have hplain := ArgumentForm.ofString_eq_operand.1 hform
          exact ⟨List.forall_mem_cons.2 ⟨Or.inr hplain, hforms⟩, ⟨hone, hadmits⟩, hoperand, hinvocation⟩
        · exact absurd (Switches.sets_iff.1 hsets).1 (by simp [hswitch])
      · rintro ⟨hforms, ⟨-, hadmits⟩, hoperand, hinvocation⟩
        obtain ⟨harg, hforms⟩ := List.forall_mem_cons.1 hforms
        have hform := ArgumentForm.ofString_eq_operand.2 (harg.resolve_left (by simp [hswitch]))
        cases file with
        | some path =>
          have hlength := hoperand.length_le
          simp at hlength
        | none => exact Or.inr (Or.inl ⟨hform, rfl, (ih hopts).2 ⟨hforms, hadmits, hoperand, hinvocation⟩⟩)

/-! ## In front of the command -/

/-- What is accepted in front of a word that is no switch: switches that are not set yet. The word is a command. -/
theorem readBefore_eq_ok {pre post : List String} {word : String} (hpre : ∀ arg ∈ pre, isSwitch arg = true)
    (hword : isSwitch word = false) : readBefore before (pre ++ word :: post) = .ok i ↔
      before.Admits pre ∧ ∃ command : Command, word = command.word ∧
        readBehind command (before.add pre) {} none post = .ok i := by
  induction pre generalizing before with
  | nil =>
    have hadmits := before.admits_nil
    simp only [List.nil_append, readBefore_cons_eq_ok, Command.ofName?_eq_some, Switches.sets_iff, hword, hadmits,
      before.add_nil]
    simp
  | cons arg pre ih =>
    obtain ⟨hswitch, hpre⟩ := List.forall_mem_cons.1 hpre
    have hcommand (command : Command) : arg ≠ command.word := by
      rintro rfl
      simp [command.isSwitch_word] at hswitch
    rw [List.cons_append, readBefore_cons_eq_ok, Switches.admits_cons, Switches.add_cons before arg pre]
    simp only [Command.ofName?_eq_some, hcommand, false_and, exists_false, false_or, Switches.sets_iff, hswitch,
      true_and, and_assoc, exists_and_left, exists_eq_left', ih hpre]

/-- Switches alone make no invocation. -/
theorem readBefore_ne_ok {pre : List String} (hpre : ∀ arg ∈ pre, isSwitch arg = true) :
    readBefore before pre ≠ .ok i := by
  induction pre generalizing before with
  | nil => exact nofun
  | cons arg pre ih =>
    obtain ⟨hswitch, hpre⟩ := List.forall_mem_cons.1 hpre
    intro h
    rcases readBefore_cons_eq_ok.1 h with ⟨command, hcommand, -⟩ | ⟨next, -, hrest⟩
    · obtain rfl := Command.ofName?_eq_some.1 hcommand
      simp [command.isSwitch_word] at hswitch
    · exact ih hpre hrest

/-! ## What is accepted -/

/-- Arguments are switches, or switches in front of a first word that is none. -/
theorem exists_word (args : List String) : (∀ arg ∈ args, isSwitch arg = true) ∨
    ∃ pre word post, args = pre ++ word :: post ∧ (∀ arg ∈ pre, isSwitch arg = true) ∧ isSwitch word = false := by
  cases h : args.find? (!isSwitch ·) with
  | none => exact Or.inl (by simpa using h)
  | some word =>
    obtain ⟨hword, pre, post, hargs, hpre⟩ := List.find?_eq_some_iff_append.1 h
    exact Or.inr ⟨pre, word, post, hargs, by simpa using hpre, by simpa using hword⟩

theorem exists_first_word (h : ∃ arg ∈ args, isSwitch arg = false) :
    ∃ pre word post, args = pre ++ word :: post ∧ (∀ arg ∈ pre, isSwitch arg = true) ∧ isSwitch word = false := by
  rcases exists_word args with hargs | hword
  · obtain ⟨arg, harg, hnone⟩ := h
    simp [hargs arg harg] at hnone
  · exact hword

/-- Arguments are cut at the mark. -/
theorem exists_marked (args : List String) : ∃ opts escaped, args = opts ++ marked escaped ∧ "--" ∉ opts := by
  by_cases h : "--" ∈ args
  · obtain ⟨opts, operands, hargs, hopts⟩ := List.eq_append_cons_of_mem h
    exact ⟨opts, some operands, hargs, hopts⟩
  · exact ⟨args, none, by simp [marked], h⟩

/-- Where the first word that is no switch and the mark are known, the arguments are accepted exactly if the word is a
command and everything is in its place. -/
theorem ofArguments_eq_ok {pre : List String} {word : String} (hpre : ∀ arg ∈ pre, isSwitch arg = true)
    (hword : isSwitch word = false) (hmark : "--" ∉ opts) :
    Invocation.ofArguments (pre ++ word :: (opts ++ marked escaped)) = .ok i ↔
      ∃ s : Sentence, word = s.command.word ∧ s.before = pre ∧ s.behind = opts ∧ s.escaped = escaped ∧
        s.invocation = i := by
  rw [Invocation.ofArguments, readBefore_eq_ok hpre hword, Switches.admits_empty]
  constructor
  · rintro ⟨honce, command, rfl, h⟩
    obtain ⟨hforms, hadmits, hoperand, rfl⟩ := (readBehind_eq_ok hmark).1 h
    have hplaced : WellPlaced pre opts escaped :=
      ⟨hpre, honce, hforms, Switches.admits_empty.1 hadmits, hoperand⟩
    refine ⟨⟨pre, command, opts, escaped, hplaced⟩, rfl, rfl, rfl, rfl, ?_⟩
    simp [Sentence.invocation, invocationOf, Switches.add]
  · rintro ⟨s, rfl, rfl, rfl, rfl, rfl⟩
    obtain ⟨-, honce, hforms, hbehind, hoperand⟩ := s.wellPlaced
    refine ⟨honce, s.command, rfl, (readBehind_eq_ok hmark).2 ⟨hforms, Switches.admits_empty.2 hbehind, hoperand, ?_⟩⟩
    simp [Sentence.invocation, invocationOf, Switches.add]

/-- The mark does not stand in front of itself. -/
theorem Sentence.mark_not_mem_behind (s : Sentence) : "--" ∉ s.behind := by
  intro h
  rcases s.wellPlaced.behind_form _ h with hswitch | hplain
  · exact ne_mark hswitch rfl
  · exact not_plainOperand_mark hplain

/-- The arguments that make an invocation are the sentences. -/
theorem ofArguments_eq_ok_iff_sentence :
    Invocation.ofArguments args = .ok i ↔ ∃ s : Sentence, s.arguments = args ∧ s.invocation = i := by
  constructor
  · intro h
    rcases exists_word args with hswitches | ⟨pre, word, post, rfl, hpre, hword⟩
    · exact absurd h (readBefore_ne_ok hswitches)
    · obtain ⟨opts, escaped, rfl, hmark⟩ := exists_marked post
      obtain ⟨s, rfl, rfl, rfl, rfl, hs⟩ := (ofArguments_eq_ok hpre hword hmark).1 h
      exact ⟨s, rfl, hs⟩
  · rintro ⟨s, rfl, hs⟩
    have hpre := s.wellPlaced.before_switches
    exact (ofArguments_eq_ok hpre s.command.isSwitch_word s.mark_not_mem_behind).2 ⟨s, rfl, rfl, rfl, rfl, hs⟩

end QueryDsl.CommandLine
