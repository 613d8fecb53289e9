import QueryDsl.CommandLine.Program
import QueryDsl.Proofs.CommandLine.Acceptance

/-!
# The log does not touch the result

A run first has an outcome, which knows nothing of the log specification (`Invocation.outcome`), and then a report is
made of it that differs by what is logged only at the front of what goes to standard error (`Outcome.report_log`). So
the code and the answer are the same whatever is logged, also where the run fails between two records
(`Program.run_log_apart`).
-/

namespace QueryDsl.CommandLine

/-! ## Outcomes and reports -/

/-- What a run of an invocation leaves. -/
def Invocation.outcome (i : Invocation) (load : Source → Loaded) : Outcome :=
  i.command.run i.compact (Source.ofOperand i.file) (load (Source.ofOperand i.file))

/-- What is logged of some records under a specification, behind the warnings about it. -/
def LogFilter.written (specification : String) (records : List LogRecord) : String :=
  (ofSpecification specification).2 ++ Log.render 0 (records.filter (ofSpecification specification).1.shows)

/-- The report of an outcome, given what is logged. -/
def Outcome.report (outcome : Outcome) (log : String) : Report :=
  match outcome.result with
  | .ok text => ⟨0, text ++ "\n", log⟩
  | .error failure => ⟨1, "", log ++ failure.report⟩

theorem Program.runInvocation_eq (i : Invocation) (specification : Option String) (load : Source → Loaded) :
    runInvocation i specification load = (i.outcome load).report
      (LogFilter.written (specification.getD (defaultSpecification i.verbose)) (i.outcome load).log) := rfl

/-- What is logged stands in front of what else goes to standard error, and changes nothing else. -/
theorem Outcome.report_log (outcome : Outcome) (log : String) :
    outcome.report log = { outcome.report "" with stderr := log ++ (outcome.report "").stderr } := by
  obtain ⟨records, text | failure⟩ := outcome <;> simp [report]

/-- The verbose switch and the place of the switches play no part in the outcome. -/
theorem Invocation.outcome_verbose (i : Invocation) (verbose : Bool) (load : Source → Loaded) :
    { i with verbose := verbose }.outcome load = i.outcome load := rfl

/-! ## Records -/

/-- Whether a record is one of the program's own. -/
def LogRecord.IsOwn (r : LogRecord) : Prop := r.target = inputTarget ∨ r.target = commandTarget

/-- A command logs records of its own only, however far it comes. -/
theorem Command.isOwn_of_mem_log {command : Command} {compact : Bool} {source : Source} {loaded : Loaded}
    {r : LogRecord} (h : r ∈ (command.run compact source loaded).log) : r.IsOwn := by
  have hanswer (q : Request) (hr : r ∈ command.answerLog q) : r.IsOwn := by
    cases command <;> simp_all [answerLog, compiledRecord, LogRecord.IsOwn]
  unfold run at h
  split at h
  · cases h
  · dsimp only at h
    split at h
    · obtain rfl := List.mem_singleton.1 h
      exact Or.inl rfl
    · split at h
      · obtain rfl := List.mem_singleton.1 h
        exact Or.inl rfl
      · next q _ =>
        rcases List.mem_cons.1 h with rfl | h
        · exact Or.inl rfl
        · rcases List.mem_cons.1 h with rfl | h
          · exact Or.inr rfl
          · exact hanswer q h

theorem Invocation.isOwn_of_mem_log (i : Invocation) (load : Source → Loaded) : ∀ r ∈ (i.outcome load).log, r.IsOwn :=
  fun _ => Command.isOwn_of_mem_log

/-- Where the environment has no specification, nothing is wrong with the one that takes its place. -/
theorem LogFilter.ofSpecification_default (verbose : Bool) :
    ofSpecification (Program.defaultSpecification verbose) =
      let level := if verbose then LogLevel.debug else LogLevel.info
      (⟨[⟨some "esq".toList, level⟩, ⟨some "es_query_cli".toList, level⟩], none⟩, "") := by
  cases verbose <;> rfl

theorem LogFilter.shows_default (verbose : Bool) {r : LogRecord} (h : r.IsOwn) :
    (ofSpecification (Program.defaultSpecification verbose)).1.shows r = verbose := by
  have hfits (level : LogLevel) :
      ([⟨some "esq".toList, level⟩, ⟨some "es_query_cli".toList, level⟩] : List Directive).filter
        (fun d => d.start.isPrefixOf r.target.toList) = [⟨some "es_query_cli".toList, level⟩] := by
    rcases h with h | h <;> rw [h] <;> cases level <;> decide
  rw [ofSpecification_default]
  simp only [shows, hfits]
  cases verbose <;> rfl

/-- Without a specification the records of the program are logged if it is verbose, and else none of them. -/
theorem LogFilter.written_default (verbose : Bool) {records : List LogRecord} (h : ∀ r ∈ records, r.IsOwn) :
    written (Program.defaultSpecification verbose) records = if verbose then Log.render 0 records else "" := by
  have hshown : records.filter (ofSpecification (Program.defaultSpecification verbose)).1.shows =
      if verbose then records else [] := by
    cases verbose with
    | true => exact List.filter_eq_self.2 fun r hr => shows_default true (h r hr)
    | false => exact List.filter_eq_nil_iff.2 fun r hr => by simp [shows_default false (h r hr)]
  rw [written, hshown, ofSpecification_default]
  cases verbose <;> simp [Log.render]

/-! ## Runs -/

namespace Program

variable {args : List String} {i : Invocation}

/-- The run of arguments that are accepted reports the outcome of their invocation, behind what is logged. -/
theorem run_of_ofArguments (h : Invocation.ofArguments args = .ok i) (specification : Option String)
    (load : Source → Loaded) :
    run args specification load = { (i.outcome load).report "" with
      stderr := LogFilter.written (specification.getD (defaultSpecification i.verbose)) (i.outcome load).log ++
        ((i.outcome load).report "").stderr } := by
  rw [run, h, ← Outcome.report_log]
  exact runInvocation_eq i specification load

/-- Where the environment has no specification, the log is there if the invocation is verbose. -/
theorem run_none (h : Invocation.ofArguments args = .ok i) (load : Source → Loaded) :
    run args none load = { (i.outcome load).report "" with
      stderr := (if i.verbose then Log.render 0 (i.outcome load).log else "") ++
        ((i.outcome load).report "").stderr } := by
  rw [run_of_ofArguments h, Option.getD_none, LogFilter.written_default i.verbose (i.isOwn_of_mem_log load)]

/-- The code and the answer do not depend on the specification. -/
theorem run_specification (args : List String) (load : Source → Loaded) (specification other : Option String) :
    (run args specification load).code = (run args other load).code ∧
      (run args specification load).stdout = (run args other load).stdout := by
  cases h : Invocation.ofArguments args with
  | error e =>
    rw [run, run, h]
    exact ⟨rfl, rfl⟩
  | ok i =>
    rw [run_of_ofArguments h, run_of_ofArguments h]
    exact ⟨rfl, rfl⟩

/-- One verbose switch more does not change the code and the answer, and the log only where the environment has no
specification. -/
theorem run_addsVerbose {longer : List String} {j : Invocation} (h : AddsVerbose args longer)
    (hargs : Invocation.ofArguments args = .ok i) (hlonger : Invocation.ofArguments longer = .ok j)
    (load : Source → Loaded) :
    (∀ specification other, (run longer specification load).code = (run args other load).code ∧
      (run longer specification load).stdout = (run args other load).stdout) ∧
    (∀ specification, run longer (some specification) load = run args (some specification) load) ∧
    ∃ records, (∀ r ∈ records, r ∈ (i.outcome load).log ∧ r.IsOwn) ∧
      (run longer none load).stderr = Log.render 0 records ++ (run args none load).stderr := by
  obtain rfl := h.eq_verbose hargs hlonger
  have houtcome := i.outcome_verbose true load
  refine ⟨fun specification other => ?_, fun specification => ?_, ?_⟩
  · rw [run_of_ofArguments hlonger, run_of_ofArguments hargs, houtcome]
    exact ⟨rfl, rfl⟩
  · rw [run_of_ofArguments hlonger, run_of_ofArguments hargs, houtcome, Option.getD_some, Option.getD_some]
  · have hown (r : LogRecord) (hr : r ∈ (i.outcome load).log) := i.isOwn_of_mem_log load r hr
    rw [run_none hlonger, run_none hargs, houtcome]
    cases i.verbose with
    | true => exact ⟨[], by simp, by simp [Log.render]⟩
    | false => exact ⟨(i.outcome load).log, fun r hr => ⟨hr, hown r hr⟩, by simp⟩

/-- What the report of an invocation tells of its outcome: all of the answer and one line feed, or nothing and the code
of a failure. -/
theorem run_outcome (h : Invocation.ofArguments args = .ok i) (load : Source → Loaded) :
    (∃ text, (i.outcome load).result = .ok text ∧
      (∀ specification, (run args specification load).code = 0 ∧
        (run args specification load).stdout = text ++ "\n") ∧
      (hasVerbose args = false → (run args none load).stderr = "")) ∨
    ∃ failure, (i.outcome load).result = .error failure ∧
      (∀ specification, (run args specification load).code = 1 ∧ (run args specification load).stdout = "") ∧
      (hasVerbose args = false → (run args none load).stderr = failure.report) := by
  have hreport (specification : Option String) := run_of_ofArguments h specification load
  have hquiet := run_none h load
  rw [Invocation.verbose_of_ofArguments h] at hquiet
  cases hresult : (i.outcome load).result with
  | ok text =>
    have htext : (i.outcome load).report "" = ⟨0, text ++ "\n", ""⟩ := by rw [Outcome.report, hresult]
    rw [htext] at hreport hquiet
    refine Or.inl ⟨text, rfl, fun specification => ?_, fun hnone => by simp [hquiet, hnone]⟩
    rw [hreport]
    exact ⟨rfl, rfl⟩
  | error failure =>
    have hfailure : (i.outcome load).report "" = ⟨1, "", failure.report⟩ := by simp [Outcome.report, hresult]
    rw [hfailure] at hreport hquiet
    refine Or.inr ⟨failure, rfl, fun specification => ?_, fun hnone => by simp [hquiet, hnone]⟩
    rw [hreport]
    exact ⟨rfl, rfl⟩

/-- **The log is apart from the result.** For all arguments and whatever loading gives, the code and the answer are the
same under every log specification and under none. So they are with one verbose switch more, where both lists of
arguments are accepted; then a specification leaves the rest alone too, and without one only records of the program
itself are put in front. Without the verbose switch and without a specification nothing is logged: standard error is
empty, or it is the report of the failure alone. A run that answers prints the whole answer and one line feed, and a run
that fails prints nothing. -/
theorem run_log_apart (args : List String) (load : Source → Loaded) :
    (∀ specification other, (run args specification load).code = (run args other load).code ∧
      (run args specification load).stdout = (run args other load).stdout) ∧
    (∀ longer i j, AddsVerbose args longer → Invocation.ofArguments args = .ok i →
      Invocation.ofArguments longer = .ok j →
      (∀ specification other, (run longer specification load).code = (run args other load).code ∧
        (run longer specification load).stdout = (run args other load).stdout) ∧
      (∀ specification,
        (run longer (some specification) load).stderr = (run args (some specification) load).stderr) ∧
      ∃ records, (∀ r ∈ records, r ∈ (i.outcome load).log ∧ r.IsOwn) ∧
        (run longer none load).stderr = Log.render 0 records ++ (run args none load).stderr) ∧
    ∀ i, Invocation.ofArguments args = .ok i →
      (∃ text, (i.outcome load).result = .ok text ∧
        (∀ specification, (run args specification load).code = 0 ∧
          (run args specification load).stdout = text ++ "\n") ∧
        (hasVerbose args = false → (run args none load).stderr = "")) ∨
      ∃ failure, (i.outcome load).result = .error failure ∧
        (∀ specification, (run args specification load).code = 1 ∧ (run args specification load).stdout = "") ∧
        (hasVerbose args = false → (run args none load).stderr = failure.report) := by
  refine ⟨run_specification args load, fun longer i j hadds hargs hlonger => ?_, fun i hargs => run_outcome hargs load⟩
  obtain ⟨hresult, hspecified, hnone⟩ := run_addsVerbose hadds hargs hlonger load
  exact ⟨hresult, fun specification => by rw [hspecified], hnone⟩

/-- A text that breaks off is a failure behind the first record, with the verbose switch in front of the command or
without it. -/
theorem run_log_apart_broken_off :
    let args := ["compile", "--compact", "request.json"]
    let longer := ["-v", "compile", "--compact", "request.json"]
    let load : Source → Loaded := fun _ => .ok "[".toUTF8
    AddsVerbose args longer ∧ (run longer none load).code = (run args (some "=") load).code ∧
      (run longer (some "") load).stderr = (run args (some "") load).stderr ∧
      ∃ (records : List LogRecord) (failure : Failure), (∀ r ∈ records, r.IsOwn) ∧
        (run args none load).stderr = failure.report ∧
        (run longer none load).stderr = Log.render 0 records ++ failure.report := by
  intro args longer load
  have hadds : AddsVerbose args longer := ⟨[], "-v", args, rfl, rfl, by decide, by decide⟩
  have hfile (before behind : Switches) : readBehind .compile before behind none ["request.json"] =
      finish .compile before behind (some "request.json") :=
    readBehind_cons_eq_ok.2 (Or.inr (Or.inl ⟨by decide, rfl, rfl⟩))
  have hbehind (before : Switches) : readBehind .compile before {} none ["--compact", "request.json"] =
      .ok ⟨before.verbose || false, before.compact || true, .compile, some "request.json"⟩ :=
    readBehind_cons_eq_ok.2 (Or.inr (Or.inr ⟨_, .compact rfl, by decide, hfile before _⟩))
  have hargs : Invocation.ofArguments args = .ok ⟨false, true, .compile, some "request.json"⟩ :=
    readBefore_cons_eq_ok.2 (Or.inl ⟨.compile, rfl, hbehind {}⟩)
  have hlonger : Invocation.ofArguments longer = .ok ⟨true, true, .compile, some "request.json"⟩ :=
    readBefore_cons_eq_ok.2 (Or.inr ⟨_, .verbose rfl rfl, readBefore_cons_eq_ok.2 (Or.inl ⟨.compile, rfl, hbehind _⟩)⟩)
  obtain ⟨-, hmore, houtcome⟩ := run_log_apart args load
  obtain ⟨hresult, hspecified, records, hown, hlog⟩ := hmore longer _ _ hadds hargs hlonger
  have hcode : (run args none load).code = 1 := by decide +kernel
  rcases houtcome _ hargs with ⟨text, -, hanswer, -⟩ | ⟨failure, -, -, hquiet⟩
  · rw [(hanswer none).1] at hcode
    cases hcode
  · have hstderr := hquiet (by decide)
    refine ⟨hadds, (hresult none (some "=")).1, hspecified "", records, failure, fun r hr => (hown r hr).2, hstderr, ?_⟩
    rw [hlog, hstderr]

end Program

end QueryDsl.CommandLine
