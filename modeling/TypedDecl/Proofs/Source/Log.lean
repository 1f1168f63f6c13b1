import TypedDecl.Proofs.Grammar.Log
import TypedDecl.Proofs.Source.Concatenation

/-!
The log of a run.  It has every token that the lexer read, then how the reading ended, and then, if
there was something to parse, what the parser has put on record; what each of these events says is
told by its kind.  A strict run and a recovering one put the same on record up to the first error,
and the recovering one goes on with that error.
-/

namespace TypedDecl

/-- A lexer that is asked once more than it has tokens for gives these tokens and what stopped it. -/
theorem Lexer.reads_scan (lexer : Lexer) :
    lexer.reads (lexer.scan.body.length + 1) = lexer.scan.body.map .ok ++ [lexer.scan.stop] := by
  fun_induction Lexer.scan lexer with
  | case1 lexer error read => simp [reads, Scan.ofFault, read]
  | case2 lexer token read isEnd => simp [reads, Scan.ofEnd, read]
  | case3 lexer token read notEnd _ ih => simp [reads, Scan.cons, read, ih]

namespace Scan

variable {scan : Scan}

theorem stop_of_fault {error : LexError} (found : scan.sequence = .error error) :
    scan.stop = .error error := by
  obtain ⟨body, stop, _, _⟩ := scan
  cases stop <;> cases found
  rfl

theorem body_stop_of_sequence {ts : TokenSequence} (found : scan.sequence = .ok ts) :
    scan.body = ts.body ∧ scan.stop = .ok ts.last := by
  obtain ⟨body, stop, _, _⟩ := scan
  cases stop <;> cases found
  exact ⟨rfl, rfl⟩

end Scan

theorem reads_source (source : String) :
    (Lexer.ofSource source).reads ((scan source).body.length + 1) =
      (scan source).body.map .ok ++ [(scan source).stop] :=
  (Lexer.ofSource source).reads_scan

/-- What the lexer reads of a source is read call by call, up to the first end of input. -/
theorem reads_of_tokenize {source : String} {ts : TokenSequence}
    (found : tokenize source = .ok ts) :
    (Lexer.ofSource source).reads ts.toList.length = ts.toList.map .ok := by
  have readings := reads_source source
  obtain ⟨body, stop⟩ := Scan.body_stop_of_sequence found
  rw [body, stop] at readings
  simpa [TokenSequence.toList] using readings

/-- Up to a fault it is read call by call as well. -/
theorem reads_of_fault {source : String} {error : LexError}
    (found : tokenize source = .error error) :
    (Lexer.ofSource source).reads ((scan source).body.length + 1) =
      (scan source).body.map .ok ++ [.error error] := by
  rw [reads_source, Scan.stop_of_fault found]

/-- What an event says, kind by kind: its level, its message and its fields. -/
inductive Event.Says : Event → Level → String → List (String × String) → Prop where
  | token {t : Token} : Says (.token t) .trace "token"
      [("kind", t.kind.name), ("lexeme", t.lexeme), ("offset", t.offset.repr)]
  | tokenizeFailed {error : LexError} : Says (.tokenizeFailed error) .debug "tokenize failed"
      [("error", error.message), ("offset", error.offset.repr)]
  | tokenized {count bytes : Nat} : Says (.tokenized count bytes) .debug "tokenized source"
      [("count", count.repr), ("bytes", bytes.repr)]
  | statement {t : Token} : Says (.statement t) .trace "parse_statement"
      [("kind", t.kind.name), ("offset", t.offset.repr)]
  | expression {t : Token} : Says (.expression t) .trace "parse_expression"
      [("kind", t.kind.name), ("offset", t.offset.repr)]
  | declared {d : Declaration} : Says (.declared d) .debug "parsed variable declaration"
      [("declared_type", d.type.keyword), ("name", d.name), ("initializer", d.initializer.text)]
  | recovering {error : ParseError} : Says (.recovering error) .debug "recovering from parse error"
      [("error", error.message), ("offset", error.offset.repr)]
  | readSource {file : String} {bytes : Nat} : Says (.readSource file bytes) .info "read source"
      [("file", file), ("bytes", bytes.repr)]
  | parsed {declarations : Nat} : Says (.parsed declarations) .info "parsed"
      [("declarations", declarations.repr)]

theorem Event.says (event : Event) : event.Says event.level event.message event.fields := by
  cases event <;> constructor

/-- What a run comes to once its tokens are read: the declarations it completed and the errors it
met. -/
inductive Ends (source : String) (ts : TokenSequence) :
    Mode → List Declaration → List ParseError → Prop where
  | accepted {program} : parseSource source = .ok program →
      Ends source ts .strict program.declarations []
  | refused {completed error} : parseSource source = .error (.parse error) →
      StopsAt ts completed error → Ends source ts .strict completed [error]
  | recovered : parseSourceRecovering source = (parseRecovering ts).toResult →
      Ends source ts .recovering (parseRecovering ts).program.declarations
        (parseRecovering ts).errors

section Runs

variable {source : String} {ts : TokenSequence}

theorem exists_ends (mode : Mode) (found : tokenize source = .ok ts) :
    ∃ declarations errors, Ends source ts mode declarations errors ∧
      (mode.reached (outcomes ts)).filterMap Outcome.declaration? = declarations ∧
      (mode.reached (outcomes ts)).filterMap Outcome.error? = errors := by
  cases mode with
  | recovering =>
    refine ⟨_, _, .recovered (parseSourceRecovering_of_tokens found), ?_, ?_⟩
    · rw [Mode.reached_recovering, parseRecovering_eq]
    · rw [Mode.reached_recovering, parseRecovering_eq]
  | strict =>
    cases parsed : parse ts with
    | ok program =>
      have run := parse_eq_ok_iff_outcomes.mp parsed
      refine ⟨_, _, .accepted (parseSource_eq_ok_iff.mpr ⟨ts, found, parsed⟩), ?_, ?_⟩
      · rw [run, Mode.reached_strict_ok, Outcome.filterMap_declaration?_map_ok]
      · rw [run, Mode.reached_strict_ok, Outcome.filterMap_error?_map_ok]
    | error error =>
      obtain ⟨completed, later, run⟩ := parse_eq_error_iff_outcomes.mp parsed
      have failed : parseSource source = .error (.parse error) := by
        rw [parseSource_eq_parse found, parsed]
        rfl
      refine ⟨_, _, .refused failed (stopsAt_of_outcomes run), ?_, ?_⟩
      · rw [run, Mode.reached_strict_error, List.filterMap_append,
          Outcome.filterMap_declaration?_map_ok]
        exact List.append_nil completed
      · rw [run, Mode.reached_strict_error, List.filterMap_append,
          Outcome.filterMap_error?_map_ok]
        rfl

end Runs

/-- The log of a run is an account of it: every token that the lexer read, how the reading ended,
and what the parser made of each statement that the run came to. -/
theorem run_events (mode : Mode) (source : String) :
    (∀ event ∈ (mode.run source).events,
      event.Says event.level event.message event.fields) ∧
    match tokenize source with
    | .error error => ∃ tokens : List Token,
      (Lexer.ofSource source).reads (tokens.length + 1) = tokens.map .ok ++ [.error error] ∧
      (mode.run source).events = tokens.map .token ++ [.tokenizeFailed error]
    | .ok ts =>
      (Lexer.ofSource source).reads ts.toList.length = ts.toList.map .ok ∧
      ∃ declarations errors log, Ends source ts mode declarations errors ∧
        (mode.run source).events = ts.toList.map .token ++
          .tokenized ts.toList.length source.utf8ByteSize :: log ∧
        ParserLog mode ts.last (ts.statements.take (declarations.length + errors.length))
          declarations errors log := by
  refine ⟨fun event _ => event.says, ?_⟩
  cases found : tokenize source with
  | error error =>
    refine ⟨(scan source).body, reads_of_fault found, ?_⟩
    rw [run_of_fault mode found, Scan.events, Scan.tokens, Scan.stop_of_fault found,
      List.append_nil]
  | ok ts =>
    obtain ⟨body, stop⟩ := Scan.body_stop_of_sequence found
    obtain ⟨declarations, errors, ends, rfl, rfl⟩ := exists_ends mode found
    refine ⟨reads_of_tokenize found, _, _, (mode.parse ts).events, ends, ?_, ?_⟩
    · rw [run_of_tokens mode found, Scan.events, Scan.tokens_of_sequence found, stop,
        List.append_assoc]
      rfl
    · rw [Outcome.length_declarations_add_errors]
      exact parserLog_parse mode ts

/-- An initializer is looked for at the end of input as well. -/
example : (Mode.recovering.run "int x =").events.map Event.line =
    ["TRACE token kind=Int lexeme=int offset=0", "TRACE token kind=Identifier lexeme=x offset=4",
      "TRACE token kind=EqualSign lexeme== offset=6", "TRACE token kind=Eof lexeme= offset=7",
      "DEBUG tokenized source count=4 bytes=7", "TRACE parse_statement kind=Int offset=0",
      "TRACE parse_expression kind=Eof offset=7", "DEBUG recovering from parse error " ++
        "error=invalid expression: end of input is not a literal offset=7"] := by
  decide +kernel

section Modes

variable {ts : TokenSequence}

theorem parse_of_ok {declaration : Declaration}
    (read : (Grammar.statement ts).value = .ok declaration) :
    parse ts = (parse ts.afterStatement).map (.cons declaration) := by
  rw [parse, Grammar.program_of_ok read]
  rfl

/-- Both loops take the same statements until one fails, and only then do they part. -/
theorem recovering_events (ts : TokenSequence) :
    ∃ later, (Mode.recovering.parse ts).events = (Mode.strict.parse ts).events ++ later ∧
      match parse ts with
      | .ok _ => later = []
      | .error error => later.head? = some (.recovering error) := by
  fun_induction outcomes ts with
  | case1 ts isEnd =>
    refine ⟨[], ?_, ?_⟩
    · rw [Mode.parse_events_of_atEnd _ isEnd, Mode.parse_events_of_atEnd _ isEnd]
      rfl
    · rw [parse, Grammar.program_of_atEnd isEnd]
  | case2 ts more _ ih =>
    rw [Bool.not_eq_true] at more
    cases read : (Grammar.statement ts).value with
    | ok declaration =>
      obtain ⟨later, same, stop⟩ := ih
      refine ⟨later, ?_, ?_⟩
      · rw [Mode.parse_events_of_ok _ read, Mode.parse_events_of_ok _ read, same, List.append_assoc]
      · rw [parse_of_ok read]
        cases found : parse ts.afterStatement <;> rw [found] at stop <;> exact stop
    | error error =>
      refine ⟨.recovering error :: (Mode.recovering.parse ts.afterStatement).events, ?_, ?_⟩
      · rw [Mode.parse_events_of_error _ more read, Mode.parse_events_of_error _ more read]
        simp [Mode.verdict]
      · rw [parse, Grammar.program_of_error more read]
        rfl

end Modes

/-- What a strict run puts on record a recovering run puts on record first.  If the strict run ends
with an error of grammar, the recovering run goes on with that error, and otherwise it ends there. -/
theorem strict_events_prefix (source : String) :
    (Mode.strict.run source).events <+: (Mode.recovering.run source).events ∧
    match tokenize source with
    | .error _ => (Mode.recovering.run source).events = (Mode.strict.run source).events
    | .ok ts => match parse ts with
      | .ok program => parseSource source = .ok program ∧
        (Mode.recovering.run source).events = (Mode.strict.run source).events
      | .error error => parseSource source = .error (.parse error) ∧ ∃ event later,
        (Mode.recovering.run source).events = (Mode.strict.run source).events ++ event :: later ∧
        event = .recovering error ∧ event.message = "recovering from parse error" ∧
        event.fields = [("error", error.message), ("offset", error.offset.repr)] := by
  cases found : tokenize source with
  | error error =>
    rw [run_of_fault _ found, run_of_fault _ found]
    exact ⟨List.prefix_rfl, rfl⟩
  | ok ts =>
    obtain ⟨later, same, stop⟩ := recovering_events ts
    have whole : (Mode.recovering.run source).events =
        (Mode.strict.run source).events ++ later := by
      rw [run_of_tokens _ found, run_of_tokens _ found, same, List.append_assoc]
    have strict := parseSource_eq_parse found
    refine ⟨⟨later, whole.symm⟩, ?_⟩
    dsimp only
    cases parsed : parse ts with
    | ok program =>
      rw [parsed] at stop strict
      rw [stop, List.append_nil] at whole
      exact ⟨strict, whole⟩
    | error error =>
      rw [parsed] at stop strict
      obtain ⟨rest, rfl⟩ := List.head?_eq_some_iff.mp stop
      exact ⟨strict, _, rest, whole, rfl, rfl, rfl⟩

end TypedDecl
