import Mathlib.Data.List.Perm.Basic
import QueryDsl.Proofs.CommandLine.Sentences

/-!
# The grammar of the command line

The arguments that make an invocation are the sentences, and an invocation says what its sentence says. It is read from
the switches in front of the mark and from the other words in their order (`reading_of_ofArguments`), and so a switch
may be moved in front of the mark (`ofArguments_grammar`). Each side of the command takes a switch once: one that is
given on both sides cannot be moved to the other.
-/

namespace QueryDsl.CommandLine

variable {args : List String} {i : Invocation} {opts : List String} {escaped : Option (List String)}

/-! ## What an invocation is read from -/

/-- The arguments that are no switches, without the mark. -/
def plainWords (args : List String) : List String :=
  (options args).filter (!isSwitch ·) ++ (args.dropWhile (· != "--")).tail

theorem bne_mark {front : List String} (hmark : "--" ∉ front) : ∀ arg ∈ front, (arg != "--") = true := by
  intro arg harg
  have hne : arg ≠ "--" := fun h => hmark (h ▸ harg)
  simpa using hne

theorem options_append {front : List String} (hmark : "--" ∉ front) (back : List String) :
    options (front ++ back) = front ++ options back :=
  List.takeWhile_append_of_pos (bne_mark hmark)

theorem dropWhile_append {front : List String} (hmark : "--" ∉ front) (back : List String) :
    (front ++ back).dropWhile (· != "--") = back.dropWhile (· != "--") :=
  List.dropWhile_append_of_pos (bne_mark hmark)

theorem plainWords_append {front : List String} (hmark : "--" ∉ front) (back : List String) :
    plainWords (front ++ back) = front.filter (!isSwitch ·) ++ plainWords back := by
  rw [plainWords, options_append hmark, dropWhile_append hmark, List.filter_append, List.append_assoc, plainWords]

theorem options_marked (escaped : Option (List String)) : options (marked escaped) = [] := by
  cases escaped <;> simp [options, marked]

theorem plainWords_marked (escaped : Option (List String)) : plainWords (marked escaped) = escaped.getD [] := by
  cases escaped <;> simp [plainWords, options, marked]

/-- The mark is in front of what a sentence has behind it. -/
theorem Sentence.mark_not_mem (s : Sentence) : "--" ∉ s.before ++ s.command.word :: s.behind := by
  have hbefore : "--" ∉ s.before := fun h => ne_mark (s.wellPlaced.before_switches _ h) rfl
  have hword : "--" ≠ s.command.word := by cases s.command <;> decide
  simp [hbefore, hword, s.mark_not_mem_behind]

/-- An invocation is read from the switches in front of the mark and from the other words, wherever they stand. -/
theorem reading_of_ofArguments (h : Invocation.ofArguments args = .ok i) :
    i.verbose = (options args).any isVerboseSwitch ∧ i.compact = (options args).any isCompactSwitch ∧
      i.command.word :: i.file.toList = plainWords args := by
  obtain ⟨s, rfl, rfl⟩ := ofArguments_eq_ok_iff_sentence.1 h
  have harguments : s.arguments = (s.before ++ s.command.word :: s.behind) ++ marked s.escaped := by
    simp [Sentence.arguments]
  obtain ⟨hverbose, hcompact⟩ :
      isVerboseSwitch s.command.word = false ∧ isCompactSwitch s.command.word = false := by
    simpa [isSwitch] using s.command.isSwitch_word
  rw [harguments, options_append s.mark_not_mem, plainWords_append s.mark_not_mem, options_marked, plainWords_marked]
  refine ⟨by simp [Sentence.invocation, hverbose], by simp [Sentence.invocation, hcompact], ?_⟩
  have hbefore : s.before.filter (!isSwitch ·) = [] := by simpa using s.wellPlaced.before_switches
  show s.command.word :: (operandsOf s.behind s.escaped).head?.toList = _
  rw [s.wellPlaced.one_operand.toList_head?]
  simp [hbefore, s.command.isSwitch_word, operandsOf]

theorem Command.word_inj {command other : Command} (h : command.word = other.word) : command = other := by
  have hname := Command.ofName?_eq_some.2 h
  rw [Command.ofName?_eq_some.2 rfl] at hname
  exact Option.some.inj hname

/-- Moving a switch in front of the mark does not change what is read. -/
theorem eq_of_moved {front middle back : List String} {switch : String} {j : Invocation}
    (hswitch : isSwitch switch = true) (hmark : "--" ∉ front ++ middle)
    (hi : Invocation.ofArguments (front ++ switch :: (middle ++ back)) = .ok i)
    (hj : Invocation.ofArguments (front ++ middle ++ switch :: back) = .ok j) : i = j := by
  obtain ⟨hfront, hmiddle⟩ : "--" ∉ front ∧ "--" ∉ middle := by simpa using hmark
  have hne : "--" ∉ [switch] := by simpa using ne_mark hswitch
  rw [show front ++ switch :: (middle ++ back) = front ++ ([switch] ++ (middle ++ back)) by rfl] at hi
  rw [show front ++ middle ++ switch :: back = front ++ (middle ++ ([switch] ++ back)) by simp] at hj
  obtain ⟨hiverbose, hicompact, hiwords⟩ := reading_of_ofArguments hi
  obtain ⟨hjverbose, hjcompact, hjwords⟩ := reading_of_ofArguments hj
  simp only [options_append hfront, options_append hmiddle, options_append hne, List.any_append]
    at hiverbose hicompact hjverbose hjcompact
  have hverbose : i.verbose = j.verbose := by
    rw [hiverbose, hjverbose]
    ac_rfl
  have hcompact : i.compact = j.compact := by
    rw [hicompact, hjcompact]
    ac_rfl
  have hwords : i.command.word :: i.file.toList = j.command.word :: j.file.toList := by
    have hnone : [switch].filter (!isSwitch ·) = [] := by simp [hswitch]
    rw [hiwords, hjwords]
    simp only [plainWords_append hfront, plainWords_append hmiddle, plainWords_append hne, hnone, List.nil_append]
  obtain ⟨hword, hfiles⟩ := List.cons.inj hwords
  have hfile : i.file = j.file := by simpa using congrArg List.head? hfiles
  cases i
  cases j
  simp only [Invocation.mk.injEq]
  exact ⟨hverbose, hcompact, Command.word_inj hword, hfile⟩

/-! ## Moved switches -/

/-- Two arguments set the same switch. -/
def SameSwitch (arg other : String) : Prop :=
  (isVerboseSwitch arg = true ∧ isVerboseSwitch other = true) ∨
    (isCompactSwitch arg = true ∧ isCompactSwitch other = true)

instance (arg other : String) : Decidable (SameSwitch arg other) := inferInstanceAs (Decidable (_ ∨ _))

/-- No argument in front of the mark sets the same switch. -/
def Alone (switch : String) (args : List String) : Prop := ∀ arg ∈ options args, ¬ SameSwitch switch arg

instance (switch : String) (args : List String) : Decidable (Alone switch args) :=
  inferInstanceAs (Decidable (∀ arg ∈ options args, ¬ SameSwitch switch arg))

/-- The command does not stand among the arguments in the middle: it is in front of them, or they are switches. -/
def OnOneSide (front middle : List String) : Prop :=
  (∃ arg ∈ front, isSwitch arg = false) ∨ ∀ arg ∈ middle, isSwitch arg = true

theorem OnceEach.perm {xs ys : List String} (hperm : xs.Perm ys) (h : OnceEach xs) : OnceEach ys :=
  ⟨hperm.countP_eq isVerboseSwitch ▸ h.verbose, hperm.countP_eq isCompactSwitch ▸ h.compact⟩

theorem countP_cons_le_one {p : String → Bool} {switch : String} {xs : List String}
    (h : p switch = true → ∀ arg ∈ xs, p arg = false) : (switch :: xs).countP p ≤ 1 ↔ xs.countP p ≤ 1 := by
  cases hp : p switch with
  | false => simp [hp]
  | true =>
    have hnone : xs.countP p = 0 := List.countP_eq_zero.2 fun arg harg => by simp [h hp arg harg]
    simp [hp, hnone]

/-- A switch that is not given elsewhere can be left out or be added. -/
theorem onceEach_cons {switch : String} {xs : List String} (h : ∀ arg ∈ xs, ¬ SameSwitch switch arg) :
    OnceEach (switch :: xs) ↔ OnceEach xs := by
  have hverbose : (switch :: xs).countP isVerboseSwitch ≤ 1 ↔ xs.countP isVerboseSwitch ≤ 1 :=
    countP_cons_le_one fun hp arg harg => Bool.eq_false_iff.2 fun hq => h arg harg (Or.inl ⟨hp, hq⟩)
  have hcompact : (switch :: xs).countP isCompactSwitch ≤ 1 ↔ xs.countP isCompactSwitch ≤ 1 :=
    countP_cons_le_one fun hp arg harg => Bool.eq_false_iff.2 fun hq => h arg harg (Or.inr ⟨hp, hq⟩)
  exact ⟨fun ⟨hv, hc⟩ => ⟨hverbose.1 hv, hcompact.1 hc⟩, fun ⟨hv, hc⟩ => ⟨hverbose.2 hv, hcompact.2 hc⟩⟩

variable {pre pre' opts' : List String} {switch : String}

/-- On one side the order of the switches is free, and so is where they stand among the operands. -/
theorem WellPlaced.perm (hpre : pre.Perm pre') (hopts : opts.Perm opts')
    (hoperands : operandsOf opts escaped = operandsOf opts' escaped) (h : WellPlaced pre opts escaped) :
    WellPlaced pre' opts' escaped where
  before_switches arg harg := h.before_switches arg (hpre.mem_iff.2 harg)
  before_once := h.before_once.perm hpre
  behind_form arg harg := h.behind_form arg (hopts.mem_iff.2 harg)
  behind_once := h.behind_once.perm hopts
  one_operand := hoperands ▸ h.one_operand

theorem wellPlaced_perm (hpre : pre.Perm pre') (hopts : opts.Perm opts')
    (hoperands : operandsOf opts escaped = operandsOf opts' escaped) :
    WellPlaced pre opts escaped ↔ WellPlaced pre' opts' escaped :=
  ⟨.perm hpre hopts hoperands, .perm hpre.symm hopts.symm hoperands.symm⟩

theorem operandsOf_cons (hswitch : isSwitch switch = true) :
    operandsOf (switch :: opts) escaped = operandsOf opts escaped := by
  simp [operandsOf, hswitch]

/-- A switch that is given nowhere else may stand on either side. -/
theorem wellPlaced_across (hswitch : isSwitch switch = true) (hpre : ∀ arg ∈ pre, ¬ SameSwitch switch arg)
    (hopts : ∀ arg ∈ opts, ¬ SameSwitch switch arg) :
    WellPlaced (switch :: pre) opts escaped ↔ WellPlaced pre (switch :: opts) escaped := by
  constructor
  · rintro ⟨hswitches, honce, hform, hbehind, hoperand⟩
    exact ⟨(List.forall_mem_cons.1 hswitches).2, (onceEach_cons hpre).1 honce,
      List.forall_mem_cons.2 ⟨Or.inl hswitch, hform⟩, (onceEach_cons hopts).2 hbehind,
      (operandsOf_cons hswitch).symm ▸ hoperand⟩
  · rintro ⟨hswitches, honce, hform, hbehind, hoperand⟩
    exact ⟨List.forall_mem_cons.2 ⟨hswitch, hswitches⟩, (onceEach_cons hpre).2 honce,
      (List.forall_mem_cons.1 hform).2, (onceEach_cons hopts).1 hbehind, operandsOf_cons hswitch ▸ hoperand⟩

/-- Arguments that make an invocation. -/
def Accepted (args : List String) : Prop := ∃ i, Invocation.ofArguments args = .ok i

/-- Arguments that are cut at the command and at the mark are accepted if everything is in its place. -/
theorem accepted_iff {word : String} (hpre : ∀ arg ∈ pre, isSwitch arg = true) (hword : isSwitch word = false)
    (hmark : "--" ∉ opts) : Accepted (pre ++ word :: (opts ++ marked escaped)) ↔
      (∃ command : Command, word = command.word) ∧ WellPlaced pre opts escaped := by
  simp only [Accepted, ofArguments_eq_ok hpre hword hmark]
  constructor
  · rintro ⟨_, s, hcommand, rfl, rfl, rfl, -⟩
    exact ⟨⟨s.command, hcommand⟩, s.wellPlaced⟩
  · rintro ⟨⟨command, rfl⟩, hplaced⟩
    exact ⟨_, ⟨pre, command, opts, escaped, hplaced⟩, rfl, rfl, rfl, rfl, rfl⟩

variable {front middle : List String}

theorem perm_moved (switch : String) (front middle back : List String) :
    (front ++ switch :: (middle ++ back)).Perm (front ++ middle ++ switch :: back) := by
  rw [List.append_assoc]
  exact List.perm_middle.symm.append_left front

/-- Behind the command a switch may stand anywhere in front of the mark. -/
theorem accepted_moved_behind (hswitch : isSwitch switch = true) (hmark : "--" ∉ front ++ middle)
    (hcommand : ∃ arg ∈ front, isSwitch arg = false) (back : List String) :
    Accepted (front ++ switch :: (middle ++ back)) ↔ Accepted (front ++ middle ++ switch :: back) := by
  obtain ⟨pre, word, post, rfl, hpre, hword⟩ := exists_first_word hcommand
  obtain ⟨opts, escaped, rfl, hopts⟩ := exists_marked back
  have hperm := perm_moved switch post middle opts
  have hmoved : "--" ∉ post ++ switch :: (middle ++ opts) := by
    have hne := ne_mark hswitch
    simp_all
  have hoperands : operandsOf (post ++ switch :: (middle ++ opts)) escaped =
      operandsOf (post ++ middle ++ switch :: opts) escaped := by
    simp [operandsOf, hswitch]
  calc Accepted (pre ++ word :: post ++ switch :: (middle ++ (opts ++ marked escaped)))
    _ ↔ Accepted (pre ++ word :: (post ++ switch :: (middle ++ opts) ++ marked escaped)) := by simp
    _ ↔ Accepted (pre ++ word :: (post ++ middle ++ switch :: opts ++ marked escaped)) := by
      rw [accepted_iff hpre hword hmoved, accepted_iff hpre hword (mt hperm.mem_iff.2 hmoved),
        wellPlaced_perm (.refl pre) hperm hoperands]
    _ ↔ Accepted (pre ++ word :: post ++ middle ++ switch :: (opts ++ marked escaped)) := by simp

/-- In front of the command a switch may stand anywhere. -/
theorem accepted_moved_before (hswitch : isSwitch switch = true) (hfront : ∀ arg ∈ front, isSwitch arg = true)
    (hmiddle : ∀ arg ∈ middle, isSwitch arg = true) (back : List String) :
    Accepted (front ++ switch :: (middle ++ back)) ↔ Accepted (front ++ middle ++ switch :: back) := by
  have hswitches {args : List String} (hargs : ∀ arg ∈ args, isSwitch arg = true) :
      (∀ arg ∈ front ++ switch :: (middle ++ args), isSwitch arg = true) ∧
        ∀ arg ∈ front ++ middle ++ switch :: args, isSwitch arg = true := by
    simp only [List.forall_mem_append, List.forall_mem_cons]
    exact ⟨⟨hfront, hswitch, hmiddle, hargs⟩, ⟨hfront, hmiddle⟩, hswitch, hargs⟩
  rcases exists_word back with hback | ⟨pre, word, post, rfl, hpre, hword⟩
  · -- switches alone are refused in any order
    obtain ⟨hargs, hmoved⟩ := hswitches hback
    exact ⟨fun ⟨_, h⟩ => absurd h (readBefore_ne_ok hargs), fun ⟨_, h⟩ => absurd h (readBefore_ne_ok hmoved)⟩
  · obtain ⟨opts, escaped, rfl, hopts⟩ := exists_marked post
    obtain ⟨hargs, hmoved⟩ := hswitches hpre
    calc Accepted (front ++ switch :: (middle ++ (pre ++ word :: (opts ++ marked escaped))))
      _ ↔ Accepted (front ++ switch :: (middle ++ pre) ++ word :: (opts ++ marked escaped)) := by simp
      _ ↔ Accepted (front ++ middle ++ switch :: pre ++ word :: (opts ++ marked escaped)) := by
        rw [accepted_iff hargs hword hopts, accepted_iff hmoved hword hopts,
          wellPlaced_perm (perm_moved switch front middle pre) (.refl opts) rfl]
      _ ↔ Accepted (front ++ middle ++ switch :: (pre ++ word :: (opts ++ marked escaped))) := by simp

/-- A switch that is given nowhere else may be moved over the command. -/
theorem accepted_moved_across (hswitch : isSwitch switch = true) (hmark : "--" ∉ front ++ middle)
    (hfront : ∀ arg ∈ front, isSwitch arg = true) (hcommand : ∃ arg ∈ middle, isSwitch arg = false)
    (back : List String) (halone : Alone switch (front ++ middle ++ back)) :
    Accepted (front ++ switch :: (middle ++ back)) ↔ Accepted (front ++ middle ++ switch :: back) := by
  obtain ⟨pre, word, post, rfl, hpre, hword⟩ := exists_first_word hcommand
  obtain ⟨opts, escaped, rfl, hopts⟩ := exists_marked back
  have hbehind : "--" ∉ post ++ opts := by simp_all
  have hmoved : "--" ∉ post ++ switch :: opts := by
    have hne := ne_mark hswitch
    simp_all
  have hbefore : ∀ arg ∈ front ++ pre, isSwitch arg = true := List.forall_mem_append.2 ⟨hfront, hpre⟩
  have hargs : ∀ arg ∈ front ++ switch :: pre, isSwitch arg = true := by
    simp only [List.forall_mem_append, List.forall_mem_cons]
    exact ⟨hfront, hswitch, hpre⟩
  have hoptions : options (front ++ (pre ++ word :: post) ++ (opts ++ marked escaped)) =
      front ++ pre ++ word :: (post ++ opts) := by
    rw [options_append hmark, options_append hopts, options_marked]
    simp
  rw [Alone, hoptions, List.forall_mem_append, List.forall_mem_cons] at halone
  obtain ⟨halonebefore, -, halonebehind⟩ := halone
  have hplaced : WellPlaced (front ++ switch :: pre) (post ++ opts) escaped ↔
      WellPlaced (front ++ pre) (post ++ switch :: opts) escaped := by
    have hoperands : operandsOf (switch :: (post ++ opts)) escaped = operandsOf (post ++ switch :: opts) escaped := by
      simp [operandsOf, hswitch]
    rw [wellPlaced_perm List.perm_middle (.refl _) rfl, wellPlaced_across hswitch halonebefore halonebehind,
      wellPlaced_perm (.refl _) List.perm_middle.symm hoperands]
  calc Accepted (front ++ switch :: (pre ++ word :: post ++ (opts ++ marked escaped)))
    _ ↔ Accepted (front ++ switch :: pre ++ word :: (post ++ opts ++ marked escaped)) := by simp
    _ ↔ Accepted (front ++ pre ++ word :: (post ++ switch :: opts ++ marked escaped)) := by
      rw [accepted_iff hargs hword hbehind, accepted_iff hbefore hword hmoved, hplaced]
    _ ↔ Accepted (front ++ (pre ++ word :: post) ++ switch :: (opts ++ marked escaped)) := by simp

/-- A switch may be moved on its side of the command, and over the command if it is given nowhere else. -/
theorem accepted_moved (hswitch : isSwitch switch = true) (hmark : "--" ∉ front ++ middle) (back : List String)
    (hplace : OnOneSide front middle ∨ Alone switch (front ++ middle ++ back)) :
    Accepted (front ++ switch :: (middle ++ back)) ↔ Accepted (front ++ middle ++ switch :: back) := by
  by_cases hbehind : ∃ arg ∈ front, isSwitch arg = false
  · exact accepted_moved_behind hswitch hmark hbehind back
  · have hfront : ∀ arg ∈ front, isSwitch arg = true := by simpa using hbehind
    by_cases hbefore : ∀ arg ∈ middle, isSwitch arg = true
    · exact accepted_moved_before hswitch hfront hbefore back
    · have hcommand : ∃ arg ∈ middle, isSwitch arg = false := by simpa using hbefore
      rcases hplace with (h | h) | halone
      · exact absurd h hbehind
      · exact absurd h hbefore
      · exact accepted_moved_across hswitch hmark hfront hcommand back halone

/-! ## The grammar -/

/-- The arguments that make an invocation are the sentences, and the invocation is what the sentence says. Where a
switch is moved in front of the mark, over the command or over the file, the invocation stays the same, and there still
is one if the switch stays on its side of the command or is given nowhere else. -/
theorem ofArguments_grammar :
    (∀ args i, Invocation.ofArguments args = .ok i ↔ ∃ s : Sentence, s.arguments = args ∧ s.invocation = i) ∧
      ∀ front middle back switch, isSwitch switch = true → "--" ∉ front ++ middle →
        (∀ i j, Invocation.ofArguments (front ++ switch :: (middle ++ back)) = .ok i →
          Invocation.ofArguments (front ++ middle ++ switch :: back) = .ok j → i = j) ∧
        (OnOneSide front middle ∨ Alone switch (front ++ middle ++ back) →
          ∀ i, Invocation.ofArguments (front ++ switch :: (middle ++ back)) = .ok i ↔
            Invocation.ofArguments (front ++ middle ++ switch :: back) = .ok i) := by
  refine ⟨fun _ _ => ofArguments_eq_ok_iff_sentence, fun front middle back switch hswitch hmark => ⟨?_, ?_⟩⟩
  · intro i j
    exact eq_of_moved hswitch hmark
  · intro hplace i
    have haccepted := accepted_moved hswitch hmark back hplace
    constructor
    · intro hi
      obtain ⟨j, hj⟩ := haccepted.1 ⟨i, hi⟩
      exact eq_of_moved hswitch hmark hi hj ▸ hj
    · intro hj
      obtain ⟨j, hi⟩ := haccepted.2 ⟨i, hj⟩
      exact eq_of_moved hswitch hmark hi hj ▸ hi

/-- The verbose switch is moved over the command and the compact switch, up to the file. -/
theorem ofArguments_grammar_verbose_over_command :
    let args := ["-v", "compile", "--compact", "f.json"]
    let moved := ["compile", "--compact", "-v", "f.json"]
    let i : Invocation := ⟨true, true, .compile, some "f.json"⟩
    (∃ s : Sentence, s.arguments = args ∧ s.invocation = i) ∧
      (∃ s : Sentence, s.arguments = moved ∧ s.invocation = i) ∧
      (∀ j, Invocation.ofArguments moved = .ok j → i = j) ∧ Invocation.ofArguments moved = .ok i := by
  intro args moved i
  have hargs : Invocation.ofArguments args = .ok i := by decide +kernel
  have halone : Alone "-v" ["compile", "--compact", "f.json"] := by decide
  obtain ⟨hsentence, hmoved⟩ := ofArguments_grammar
  obtain ⟨hsame, hstill⟩ := hmoved [] ["compile", "--compact"] ["f.json"] "-v" (by decide) (by decide)
  have hok : Invocation.ofArguments moved = .ok i := (hstill (Or.inr halone) i).1 hargs
  exact ⟨(hsentence args i).1 hargs, (hsentence moved i).1 hok, fun j hj => hsame i j hargs hj, hok⟩

/-- A switch on both sides of the command is not given twice, and on one side it is. -/
example : Invocation.ofArguments ["-v", "compile", "-v"] = .ok ⟨true, false, .compile, none⟩ ∧
    Invocation.ofArguments ["compile", "-v", "-v"] = .error .argumentConflict := by
  decide +kernel

end QueryDsl.CommandLine
