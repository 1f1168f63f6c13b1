import TypedDecl.Proofs.Grammar.Outcomes
import TypedDecl.Source

/-!
The two modes on one source.  They go through the same statements until the first error; there
the strict run ends, and the recovering run never takes that error back.
-/

namespace TypedDecl

def Event.declaration? : Event → Option Declaration
  | .declared declaration => some declaration
  | _ => none

/-- The declarations that a run has put on record, in the order they were completed. -/
def Run.completed (run : Run) : List Declaration := run.events.filterMap Event.declaration?

/-- The first tokens are declarations, and the statement behind them fails. -/
def StopsAt (ts : TokenSequence) (completed : List Declaration) (error : ParseError) : Prop :=
  ∃ groups rest, ts.StartsWith groups.flatten rest ∧ List.Forall₂ Group groups completed ∧
    rest.atEnd = false ∧ (Grammar.statement rest).value = .error error

/-- How the runs over a source compare once its tokens are read. -/
structure Agreement (source : String) (ts : TokenSequence) : Prop where
  ok_iff : ∀ program, parseSource source = .ok program ↔ parseSourceRecovering source = .ok program
  error_iff : ∀ error, parseSource source = .error (.parse error) ↔
    (parseRecovering ts).errors.head? = some error
  completed : ∀ error, parseSource source = .error (.parse error) →
    StopsAt ts (Mode.strict.run source).completed error ∧
      (Mode.strict.run source).completed <+: (parseRecovering ts).program.declarations
  single : ∀ error, (parseRecovering ts).errors = [error] →
    parseSourceRecovering source = .error (.parse error)
  several : ∀ first second errors, (parseRecovering ts).errors = first :: second :: errors →
    parseSourceRecovering source = .error (.recovered (first :: second :: errors))

section Log

theorem filterMap_declaration?_looks (tokens : List Token) :
    (looks tokens).filterMap Event.declaration? = [] := by
  unfold looks
  split <;> rfl

theorem filterMap_declaration?_scan (scan : Scan) (bytes : Nat) :
    (scan.events bytes).filterMap Event.declaration? = [] := by
  rw [Scan.events, List.filterMap_append, List.filterMap_map, List.append_eq_nil_iff]
  constructor
  · apply List.filterMap_eq_nil_iff.mpr
    intro token mem
    rfl
  · split <;> rfl

/-- A statement is on record if it is a declaration. -/
theorem filterMap_declaration?_statement (ts : TokenSequence) :
    (Grammar.statement ts).events.filterMap Event.declaration? =
      (Outcome.declaration? (Grammar.statement ts).value).toList := by
  have reply := Grammar.statement_reply ts
  generalize Grammar.statement ts = found at reply
  cases reply with
  | declared =>
    rw [List.filterMap_append, filterMap_declaration?_looks]
    rfl
  | unexpected begun starts refused => exact filterMap_declaration?_looks _
  | mismatch => rfl

/-- A strict run that fails has put on record what it completed until then. -/
theorem program_events_of_failed {ts : TokenSequence} {completed : List Declaration}
    {error : ParseError} {later : List Outcome}
    (found : outcomes ts = completed.map .ok ++ .error error :: later) :
    (Grammar.program ts).events.filterMap Event.declaration? = completed := by
  induction completed generalizing ts with
  | nil =>
    obtain ⟨more, failed, -⟩ := outcomes_eq_cons_iff.mp found
    rw [Grammar.program_of_error more failed, filterMap_declaration?_statement, failed]
    rfl
  | cons declaration completed ih =>
    obtain ⟨-, read, found⟩ := outcomes_eq_cons_iff.mp found
    rw [Grammar.program_of_ok read, Reply.events_after, Reply.events_map, List.filterMap_append,
      filterMap_declaration?_statement, read, ih found]
    rfl

end Log

section Results

variable {source : String} {ts : TokenSequence}

theorem run_of_tokens (mode : Mode) (found : tokenize source = .ok ts) :
    mode.run source = ⟨(mode.parse ts).value,
      (scan source).events source.utf8ByteSize ++ (mode.parse ts).events⟩ := by
  rw [tokenize] at found
  rw [Mode.run, found]

theorem run_of_fault (mode : Mode) {error : LexError} (found : tokenize source = .error error) :
    mode.run source = ⟨.error (.lex error), (scan source).events source.utf8ByteSize⟩ := by
  rw [tokenize] at found
  rw [Mode.run, found]

theorem parseSource_of_fault {error : LexError} (found : tokenize source = .error error) :
    parseSource source = .error (.lex error) := by
  rw [parseSource, run_of_fault _ found]

theorem parseSourceRecovering_of_fault {error : LexError}
    (found : tokenize source = .error error) :
    parseSourceRecovering source = .error (.lex error) := by
  rw [parseSourceRecovering, run_of_fault _ found]

theorem parseSource_eq_parse (found : tokenize source = .ok ts) :
    parseSource source = (parse ts).mapError .parse := by
  rw [parseSource, run_of_tokens _ found]
  rfl

theorem parseSource_of_tokens (found : tokenize source = .ok ts) :
    parseSource source = match (parseRecovering ts).errors with
      | [] => .ok (parseRecovering ts).program
      | error :: _ => .error (.parse error) := by
  rw [parseSource_eq_parse found, parse_eq_first_error]
  cases (parseRecovering ts).errors <;> rfl

theorem parseSourceRecovering_of_tokens (found : tokenize source = .ok ts) :
    parseSourceRecovering source = (parseRecovering ts).toResult := by
  rw [parseSourceRecovering, run_of_tokens _ found]
  rfl

theorem completed_of_tokens (found : tokenize source = .ok ts) :
    (Mode.strict.run source).completed =
      (Grammar.program ts).events.filterMap Event.declaration? := by
  rw [run_of_tokens _ found, Run.completed, List.filterMap_append, filterMap_declaration?_scan]
  rfl

end Results

theorem stopsAt_of_outcomes {ts : TokenSequence} {completed : List Declaration}
    {error : ParseError} {later : List Outcome}
    (found : outcomes ts = completed.map .ok ++ .error error :: later) :
    StopsAt ts completed error := by
  obtain ⟨groups, rest, starts, each, found⟩ := outcomes_eq_append_iff.mp found
  obtain ⟨more, failed, -⟩ := outcomes_eq_cons_iff.mp found
  exact ⟨groups, rest, starts, each, more, failed⟩

theorem completed_of_failed {source : String} {ts : TokenSequence} {error : ParseError}
    {errors : List ParseError} (found : tokenize source = .ok ts)
    (failed : (parseRecovering ts).errors = error :: errors) :
    StopsAt ts (Mode.strict.run source).completed error ∧
      (Mode.strict.run source).completed <+: (parseRecovering ts).program.declarations := by
  rw [parseRecovering_eq] at failed ⊢
  obtain ⟨completed, later, run⟩ := exists_first_error failed
  rw [completed_of_tokens found, program_events_of_failed run]
  constructor
  · exact stopsAt_of_outcomes run
  · rw [run, List.filterMap_append, Outcome.filterMap_declaration?_map_ok]
    apply List.prefix_append

theorem agreement_of_tokens {source : String} {ts : TokenSequence}
    (found : tokenize source = .ok ts) : Agreement source ts := by
  have strict := parseSource_of_tokens found
  have recovering := parseSourceRecovering_of_tokens found
  have completed : ∀ error, parseSource source = .error (.parse error) →
      StopsAt ts (Mode.strict.run source).completed error ∧
        (Mode.strict.run source).completed <+: (parseRecovering ts).program.declarations := by
    intro error stopped
    rw [strict] at stopped
    cases failed : (parseRecovering ts).errors with
    | nil => simp [failed] at stopped
    | cons first errors =>
      obtain rfl : first = error := by simpa [failed] using stopped
      exact completed_of_failed found failed
  unfold Recovered.toResult at recovering
  rcases failed : (parseRecovering ts).errors with _ | ⟨first, _ | ⟨second, errors⟩⟩ <;>
    rw [failed] at strict recovering <;>
    refine ⟨?_, ?_, completed, ?_, ?_⟩ <;>
    simp [strict, recovering, failed]

theorem length_of_toResult {recovered : Recovered} {errors : List ParseError}
    (gathered : recovered.toResult = .error (.recovered errors)) : 2 ≤ errors.length := by
  unfold Recovered.toResult at gathered
  split at gathered
  · cases gathered
  · cases gathered
  · next empty single =>
    cases gathered
    rcases failed : recovered.errors with _ | ⟨first, _ | ⟨second, errors⟩⟩
    · exact absurd failed empty
    · exact absurd failed (single first)
    · simp

/-- The runs agree on every source, and errors are gathered only where there are two. -/
theorem parseSource_agrees (source : String) :
    (match tokenize source with
      | .error error => parseSource source = .error (.lex error) ∧
        parseSourceRecovering source = .error (.lex error)
      | .ok ts => Agreement source ts) ∧
    ∀ errors, parseSource source ≠ .error (.recovered errors) ∧
      (parseSourceRecovering source = .error (.recovered errors) → 2 ≤ errors.length) := by
  cases found : tokenize source with
  | error error =>
    have strict := parseSource_of_fault found
    have recovering := parseSourceRecovering_of_fault found
    refine ⟨⟨strict, recovering⟩, ?_⟩
    intro errors
    simp [strict, recovering]
  | ok ts =>
    refine ⟨agreement_of_tokens found, ?_⟩
    intro errors
    constructor
    · rw [parseSource_of_tokens found]
      split <;> simp
    · rw [parseSourceRecovering_of_tokens found]
      exact length_of_toResult

end TypedDecl
