import TypedDecl.CommandLine.Response
import TypedDecl.Proofs.Source.Log

/-!
The command line against the library.  It puts its steps together by itself, in order to print
between them; what comes of it is what the library answers for the same source.
-/

namespace TypedDecl.CommandLine

namespace Options

/-- What the command line answers to a request for a run. -/
def response (options : Options) (given : Option Threshold) (contents : Option ByteArray) :
    Response := (Request.run options).response given contents

/-- How the library is asked for the same thing. -/
def mode (options : Options) : Mode := if options.recover then .recovering else .strict

/-- The program that is there to be shown, without declarations where a strict parse fails. -/
def shown (options : Options) (ts : TokenSequence) : Program :=
  if options.recover then (parseRecovering ts).program
  else (TypedDecl.parse ts).toOption.getD ⟨[]⟩

/-- What is printed of a source. -/
def printed (options : Options) (source : String) : String :=
  match tokenize source with
  | .error _ => ""
  | .ok ts => options.tokenOutput ts ++ options.programOutput (options.shown ts)

theorem printed_of_fault (options : Options) {source : String} {error : LexError}
    (found : tokenize source = .error error) : options.printed source = "" := by
  rw [printed, found]

theorem printed_of_tokens (options : Options) {source : String} {ts : TokenSequence}
    (found : tokenize source = .ok ts) : options.printed source =
      options.tokenOutput ts ++ options.programOutput (options.shown ts) := by
  rw [printed, found]

end Options

/-- The level in force: the one that is given, and without one what the verbosity asks for. -/
inductive InForce : Option Threshold → Nat → Threshold → Prop where
  | given {threshold verbosity} : InForce (some threshold) verbosity threshold
  | plain : InForce none 0 (.upTo .warn)
  | verbose : InForce none 1 (.upTo .debug)
  | veryVerbose {more} : InForce none (more + 2) (.upTo .trace)

/-- A run that goes well logs nothing: the level that is given shows warnings at most, or none is
given and no verbosity asked for. -/
def Silent : Option Threshold → Nat → Prop
  | some threshold, _ => threshold ∈ [.off, .upTo .error, .upTo .warn]
  | none, verbosity => verbosity = 0

/-- What a run with this result reports. -/
def problem? : Except Failure Program → Option Problem
  | .error failure => some (.refused failure)
  | .ok _ => none

/-- What a run with this result logs at its end. -/
def summary : Except Failure Program → List Event
  | .error _ => []
  | .ok program => [.parsed program.declarations.length]

section Transcripts

variable (options : Options)

theorem programOutput_nil : options.programOutput ⟨[]⟩ = "" := by
  simp [Options.programOutput, Program.isEmpty]

theorem transcriptOfTokens_eq (ts : TokenSequence) (earlier : List Event) :
    options.transcriptOfTokens ts earlier =
      ⟨options.tokenOutput ts ++ options.programOutput (options.shown ts),
        earlier ++ (options.mode.parse ts).events ++ summary (options.mode.parse ts).value,
        problem? (options.mode.parse ts).value⟩ := by
  cases recover : options.recover with
  | true =>
    simp only [Options.transcriptOfTokens, Options.parse, Options.shown, Options.mode, recover,
      if_true, Mode.parse, parseRecovering, Reply.value_map, Reply.events_map]
    cases (Grammar.programRecovering ts).value.toResult <;> simp [summary, problem?]
  | false =>
    simp only [Options.transcriptOfTokens, Options.parse, Options.shown, Options.mode, recover,
      if_false, Bool.false_eq_true, Mode.parse, TypedDecl.parse, Reply.value_map, Reply.events_map]
    cases (Grammar.program ts).value with
    | error error =>
      simp [summary, problem?, Except.map, Except.mapError, Except.toOption, programOutput_nil]
    | ok program =>
      simp [summary, problem?, Except.map, Except.mapError, Except.toOption, Recovered.toResult]

/-- What the library makes of a source is what the command line reports and logs of it. -/
theorem transcriptOfSource_eq (source : String) :
    options.transcriptOfSource source = ⟨options.printed source,
      .readSource options.file source.utf8ByteSize :: (options.mode.run source).events ++
        summary (options.mode.run source).result,
      problem? (options.mode.run source).result⟩ := by
  rw [Options.transcriptOfSource]
  cases found : tokenize source with
  | error error =>
    rw [run_of_fault _ found, options.printed_of_fault found]
    rw [tokenize] at found
    simp [found, summary, problem?]
  | ok ts =>
    rw [run_of_tokens _ found, options.printed_of_tokens found]
    rw [tokenize] at found
    rw [found]
    exact transcriptOfTokens_eq options ts _

variable {contents : Option ByteArray} {source : String}

theorem transcript_of_source (read : contents.bind String.fromUTF8? = some source) :
    options.transcript contents = ⟨options.printed source,
      .readSource options.file source.utf8ByteSize :: (options.mode.run source).events ++
        summary (options.mode.run source).result,
      problem? (options.mode.run source).result⟩ := by
  rw [Options.transcript, read]
  exact transcriptOfSource_eq options source

theorem transcript_of_unreadable (unreadable : contents.bind String.fromUTF8? = none) :
    options.transcript contents = ⟨"", [], some (.unreadable options.file)⟩ := by
  rw [Options.transcript, unreadable]

theorem response_eq (given : Option Threshold) (contents : Option ByteArray) :
    options.response given contents =
      (options.transcript contents).response (options.threshold given) := rfl

end Transcripts

section Streams

variable {threshold : Threshold} {transcript : Transcript}

theorem exitCode_eq_zero_iff : transcript.exitCode = 0 ↔ transcript.problem = none := by
  cases found : transcript.problem <;> simp [Transcript.exitCode, found]

theorem problem?_eq_none_iff {result : Except Failure Program} :
    problem? result = none ↔ ∃ program, result = .ok program := by
  cases result <;> simp [problem?]

/-- No event is a warning or an error, so what shows any event shows what was read. -/
theorem shows_info {event : Event} (shown : threshold.shows event.level = true) :
    threshold.shows .info = true := by
  cases threshold with
  | off => cases shown
  | upTo most =>
    simp only [Threshold.shows, decide_eq_true_eq] at shown ⊢
    have least : Level.info.detail ≤ event.level.detail := by
      cases event <;> simp [Event.level, Level.detail]
    exact Nat.le_trans least shown

theorem log_eq_nil_iff {file : String} {bytes : Nat}
    (read : .readSource file bytes ∈ transcript.events) :
    transcript.log threshold = [] ↔ threshold.shows .info = false := by
  rw [Transcript.log, List.filter_eq_nil_iff, ← Bool.not_eq_true]
  constructor
  · intro hidden
    exact hidden _ read
  · intro hidden event _ shown
    exact hidden (shows_info shown)

theorem shows_info_eq_false_iff :
    threshold.shows .info = false ↔ threshold ∈ [.off, .upTo .error, .upTo .warn] := by
  cases threshold with
  | off => decide
  | upTo most => cases most <;> decide

/-- A run writes the events that are shown, and then its report if it goes wrong. -/
theorem exists_report (threshold : Threshold) (transcript : Transcript) :
    ∃ report, (transcript.response threshold).diagnostics =
        (transcript.log threshold).map Event.line ++ report ∧
      (report = [] ↔ transcript.exitCode = 0) := by
  refine ⟨_, rfl, ?_⟩
  rw [exitCode_eq_zero_iff, List.map_eq_nil_iff, Option.toList_eq_nil_iff]

theorem diagnostics_eq_nil_iff {file : String} {bytes : Nat}
    (read : .readSource file bytes ∈ transcript.events) :
    (transcript.response threshold).diagnostics = [] ↔ transcript.exitCode = 0 ∧
      threshold ∈ [.off, .upTo .error, .upTo .warn] := by
  obtain ⟨report, written, empty⟩ := exists_report threshold transcript
  rw [written, List.append_eq_nil_iff, List.map_eq_nil_iff, empty, log_eq_nil_iff read,
    shows_info_eq_false_iff, and_comm]

theorem inForce_threshold (options : Options) (given : Option Threshold) :
    InForce given options.verbosity (options.threshold given) := by
  cases given with
  | some threshold => exact .given
  | none =>
    rw [Options.threshold, Option.getD_none]
    rcases options.verbosity with _ | _ | more
    · exact .plain
    · exact .verbose
    · exact .veryVerbose

theorem InForce.silent_iff {given : Option Threshold} {verbosity : Nat}
    (inForce : InForce given verbosity threshold) :
    threshold ∈ [.off, .upTo .error, .upTo .warn] ↔ Silent given verbosity := by
  cases inForce with
  | given => rfl
  | plain => simp [Silent]
  | verbose => simp [Silent]
  | veryVerbose => simp [Silent]

end Streams

/-- Recovery accepts no source that the strict parser refuses. -/
theorem exists_ok_iff (mode : Mode) (source : String) :
    (∃ program, (mode.run source).result = .ok program) ↔
      ∃ program, parseSource source = .ok program := by
  cases mode with
  | strict => rfl
  | recovering =>
    change (∃ program, parseSourceRecovering source = .ok program) ↔ _
    cases found : tokenize source with
    | error error =>
      rw [parseSource_of_fault found, parseSourceRecovering_of_fault found]
    | ok ts => simp only [(agreement_of_tokens found).ok_iff]

/-- Every flag leaves the exit code as it is. -/
theorem exitCode_of_source (options : Options) (given : Option Threshold)
    {contents : Option ByteArray} {source : String}
    (read : contents.bind String.fromUTF8? = some source) :
    (options.response given contents).exitCode = 0 ↔
      ∃ program, parseSource source = .ok program := by
  rw [response_eq, transcript_of_source options read, ← exists_ok_iff options.mode,
    ← problem?_eq_none_iff]
  exact exitCode_eq_zero_iff

/-- A run over this source does what the library does. -/
structure Refines (options : Options) (given : Option Threshold) (source : String)
    (transcript : Transcript) (response : Response) : Prop where
  exitCode : response.exitCode = 0 ↔ ∃ program, parseSource source = .ok program
  problem : transcript.problem = problem? (options.mode.run source).result
  events : transcript.events = .readSource options.file source.utf8ByteSize ::
    (options.mode.run source).events ++ summary (options.mode.run source).result
  said : ∀ event ∈ transcript.events, event.Says event.level event.message event.fields
  log : ∃ threshold report, InForce given options.verbosity threshold ∧
    response.diagnostics = (transcript.log threshold).map Event.line ++ report ∧
    (report = [] ↔ response.exitCode = 0)
  diagnostics : response.diagnostics = [] ↔
    response.exitCode = 0 ∧ Silent given options.verbosity

/-- Whatever the options, the command line refines the library. -/
theorem response_refines (options : Options) (given : Option Threshold)
    (contents : Option ByteArray) :
    match contents.bind String.fromUTF8? with
    | some source => Refines options given source (options.transcript contents)
      (options.response given contents)
    | none => (options.response given contents).exitCode = 1 ∧
      (options.response given contents).output = "" := by
  cases read : contents.bind String.fromUTF8? with
  | none =>
    rw [response_eq, transcript_of_unreadable options read]
    exact ⟨rfl, rfl⟩
  | some source =>
    have inForce := inForce_threshold options given
    refine ⟨exitCode_of_source options given read, ?_, ?_, fun event _ => event.says, ?_, ?_⟩
    · rw [transcript_of_source options read]
    · rw [transcript_of_source options read]
    · obtain ⟨report, written, empty⟩ :=
        exists_report (options.threshold given) (options.transcript contents)
      exact ⟨_, report, inForce, written, empty⟩
    · rw [← inForce.silent_iff, response_eq, transcript_of_source options read]
      exact diagnostics_eq_nil_iff List.mem_cons_self

end TypedDecl.CommandLine
