import TypedDecl.Proofs.Grammar.Statements
import TypedDecl.Source

/-!
The log of the parser.  Each statement that a run comes to leaves its first token, then the token it
finds in place of an initializer, then what it comes to; the log is nothing but these, one statement
after another.
-/

namespace TypedDecl

/-- The token behind a type, a name and an equals sign. -/
def initializer? : List Token → Option Token
  | opener :: name :: equals :: literal :: _ =>
    if opener.kind.type?.isSome ∧ name.kind = .identifier ∧ equals.kind = .symbol .equals then
      some literal
    else none
  | _ => none

/-- What a statement leaves of the tokens in its view. -/
def sightings (view : List Token) : List Event :=
  (view.head?.map Event.statement).toList ++ ((initializer? view).map Event.expression).toList

namespace Mode

/-- What a statement leaves of its outcome.  A strict run returns an error without a word. -/
def verdict (mode : Mode) : Outcome → List Event
  | .ok declaration => [.declared declaration]
  | .error error => if mode = .recovering then [.recovering error] else []

/-- The outcomes that a run comes to: a strict one no further than the first error. -/
def reached (mode : Mode) : List Outcome → List Outcome
  | [] => []
  | .ok declaration :: later => .ok declaration :: mode.reached later
  | .error error :: later =>
    .error error :: if mode = .recovering then mode.reached later else []

/-- The statements that a run comes to, each with its outcome. -/
def steps (mode : Mode) (ts : TokenSequence) : List (List Token × Outcome) :=
  ts.statements.zip (mode.reached (outcomes ts))

/-- All that one statement leaves. -/
def entries (mode : Mode) (last : Token) (step : List Token × Outcome) : List Event :=
  sightings (inView last step.1) ++ mode.verdict step.2

theorem reached_recovering (outcomes : List Outcome) :
    Mode.recovering.reached outcomes = outcomes := by
  induction outcomes with
  | nil => rfl
  | cons outcome outcomes ih => cases outcome <;> simp [reached, ih]

theorem reached_strict_ok (declarations : List Declaration) :
    Mode.strict.reached (declarations.map .ok) = declarations.map .ok := by
  induction declarations with
  | nil => rfl
  | cons declaration declarations ih => simp [reached, ih]

theorem reached_strict_error (completed : List Declaration) (error : ParseError)
    (later : List Outcome) :
    Mode.strict.reached (completed.map .ok ++ .error error :: later) =
      completed.map .ok ++ [.error error] := by
  induction completed with
  | nil => rfl
  | cons declaration completed ih => simp [reached, ih]

theorem reached_prefix (mode : Mode) (outcomes : List Outcome) :
    mode.reached outcomes <+: outcomes := by
  induction outcomes with
  | nil => exact List.prefix_refl _
  | cons outcome outcomes ih =>
    cases outcome with
    | ok declaration => exact (List.prefix_cons_inj _).mpr ih
    | error error =>
      apply (List.prefix_cons_inj _).mpr
      split
      · exact ih
      · exact List.nil_prefix

theorem length_reached_le (mode : Mode) (ts : TokenSequence) :
    (mode.reached (outcomes ts)).length ≤ ts.statements.length := by
  rw [ts.forall₂_account.length_eq]
  exact (mode.reached_prefix _).length_le

theorem map_snd_steps (mode : Mode) (ts : TokenSequence) :
    (mode.steps ts).map Prod.snd = mode.reached (outcomes ts) :=
  List.map_snd_zip (mode.length_reached_le ts)

theorem map_fst_steps (mode : Mode) (ts : TokenSequence) :
    (mode.steps ts).map Prod.fst = ts.statements.take (mode.reached (outcomes ts)).length := by
  rw [steps, List.zip_eq_zip_take_min, Nat.min_eq_right (mode.length_reached_le ts),
    List.take_length, List.map_fst_zip]
  exact List.length_take_le _ _

end Mode

theorem TokenSequence.last_afterStatement (ts : TokenSequence) :
    ts.afterStatement.last = ts.last := rfl

section Statement

variable {ts : TokenSequence} {statement : List Token}

theorem sightings_of_group {group : List Token} {declaration : Declaration}
    (isGroup : Group group declaration) : sightings group = looks group := by
  obtain ⟨opener, name, equals, fits, semicolon⟩ := isGroup
  simp [sightings, initializer?, looks, opener, name, equals, TokenKind.type?]

theorem sightings_of_opening {begun : List Token} {wanted : Expectation} {token : Token}
    (opening : Opening begun wanted) (refused : wanted.admits token.kind = false)
    (later : List Token) :
    sightings (begun ++ token :: later) = looks (begun ++ [token]) := by
  -- where one of the first three tokens does not fit, a fourth one is not looked at
  cases opening with
  | declaration =>
    rcases later with _ | ⟨second, _ | ⟨third, _ | ⟨fourth, later⟩⟩⟩ <;>
      simp_all [sightings, initializer?, looks, Expectation.admits]
  | identifier opener =>
    rcases later with _ | ⟨third, _ | ⟨fourth, later⟩⟩ <;>
      simp_all [sightings, initializer?, looks, Expectation.admits]
  | equals opener name =>
    cases later <;> simp_all [sightings, initializer?, looks, Expectation.admits]
  | literal opener name equals =>
    simp [sightings, initializer?, looks, opener, name, equals, TokenKind.type?]
  | semicolon opener name equals fits =>
    simp [sightings, initializer?, looks, opener, name, equals, TokenKind.type?]

/-- A statement puts on record what it looked at, and itself if it is a declaration. -/
theorem TokenSequence.OpensWith.events (opens : ts.OpensWith statement) :
    (Grammar.statement ts).events = sightings (inView ts.last statement) ++
      ((Outcome.declaration? (Grammar.statement ts).value).map Event.declared).toList := by
  have reply := Grammar.statement_reply ts
  generalize Grammar.statement ts = found at reply
  cases reply with
  | declared isGroup starts =>
    obtain rfl := opens.eq_of_segment starts isGroup.segment
    rw [inView_of_segment _ isGroup.segment, sightings_of_group isGroup]
    rfl
  | unexpected opening starts refused =>
    obtain ⟨later, seen⟩ := opens.exists_inView starts opening.semicolonFree
    rw [seen, sightings_of_opening opening refused]
    simp
  | mismatch opener name equals read refused starts =>
    have free := semicolonFree_mismatch opener name equals read
    obtain ⟨later, seen⟩ := opens.exists_inView starts free
    simp [seen, sightings, initializer?, looks, opener, name, equals, TokenKind.type?]

end Statement

section Loops

variable {ts : TokenSequence}

namespace Mode

theorem parse_events_of_atEnd (mode : Mode) (isEnd : ts.atEnd = true) :
    (mode.parse ts).events = [] := by
  cases mode with
  | strict => rw [parse, Grammar.program_of_atEnd isEnd]; rfl
  | recovering => rw [parse, Grammar.programRecovering_of_atEnd isEnd]; rfl

theorem parse_events_of_ok (mode : Mode) {declaration : Declaration}
    (read : (Grammar.statement ts).value = .ok declaration) :
    (mode.parse ts).events =
      (Grammar.statement ts).events ++ (mode.parse ts.afterStatement).events := by
  cases mode with
  | strict => rw [parse, Grammar.program_of_ok read]; rfl
  | recovering => rw [parse, Grammar.programRecovering_of_ok read]; rfl

theorem parse_events_of_error (mode : Mode) (more : ts.atEnd = false) {error : ParseError}
    (failed : (Grammar.statement ts).value = .error error) :
    (mode.parse ts).events = (Grammar.statement ts).events ++
      (mode.verdict (.error error) ++
        if mode = .recovering then (mode.parse ts.afterStatement).events else []) := by
  cases mode with
  | strict => simp [parse, Grammar.program_of_error more failed, verdict]
  | recovering => simp [parse, Grammar.programRecovering_of_error more failed, verdict]

/-- Both loops put on record what their statements leave, as far as they come. -/
theorem parse_events (mode : Mode) (ts : TokenSequence) :
    (mode.parse ts).events = (mode.steps ts).flatMap (mode.entries ts.last) := by
  induction ts using TokenSequence.statements_induction with
  | atEnd ts none =>
    rw [mode.parse_events_of_atEnd (TokenSequence.atEnd_iff.mpr none), steps,
      TokenSequence.statements_of_body_nil none]
    rfl
  | more ts statement more opens split ih =>
    have here := opens.events
    rw [steps, TokenSequence.last_afterStatement] at ih
    rw [steps, split, outcomes_of_more more]
    cases read : (Grammar.statement ts).value with
    | ok declaration =>
      rw [mode.parse_events_of_ok read, here, read, ih]
      simp [reached, entries, verdict]
    | error error =>
      rw [mode.parse_events_of_error more read, here, read]
      -- behind the error a strict run has no steps left, and a recovering one all the others
      cases mode with
      | strict => simp [reached, entries, verdict]
      | recovering => simp [reached, entries, ih]

end Mode

end Loops

/-- The events with this message, in their order. -/
def withMessage (message : String) (events : List Event) : List Event :=
  events.filter (·.message = message)

def parserMessages : List String :=
  ["parse_statement", "parse_expression", "parsed variable declaration",
    "recovering from parse error"]

/-- What the parser has put on record of these statements, which came to the declarations and the
errors. -/
structure ParserLog (mode : Mode) (last : Token) (statements : List (List Token))
    (declarations : List Declaration) (errors : List ParseError) (log : List Event) : Prop where
  parser : ∀ event ∈ log, event.message ∈ parserMessages
  declared : withMessage "parsed variable declaration" log = declarations.map .declared
  recovering : withMessage "recovering from parse error" log =
    if mode = .recovering then errors.map .recovering else []
  begun : List.Forall₂ (fun statement event => ∃ first ∈ statement.head?, event = .statement first)
    statements (withMessage "parse_statement" log)
  number : statements.length = declarations.length + errors.length
  initialized : withMessage "parse_expression" log =
    (statements.filterMap fun statement => initializer? (inView last statement)).map .expression

section Messages

variable {message : String}

@[simp] theorem message_statement (first : Token) :
    (Event.statement first).message = "parse_statement" := rfl

@[simp] theorem message_expression (first : Token) :
    (Event.expression first).message = "parse_expression" := rfl

@[simp] theorem message_declared (declaration : Declaration) :
    (Event.declared declaration).message = "parsed variable declaration" := rfl

@[simp] theorem message_recovering (error : ParseError) :
    (Event.recovering error).message = "recovering from parse error" := rfl

@[simp] theorem withMessage_nil : withMessage message [] = [] := rfl

@[simp] theorem withMessage_append (first second : List Event) :
    withMessage message (first ++ second) =
      withMessage message first ++ withMessage message second := List.filter_append ..

@[simp] theorem withMessage_cons (event : Event) (events : List Event) :
    withMessage message (event :: events) =
      if event.message = message then event :: withMessage message events
      else withMessage message events := by
  simp [withMessage, List.filter_cons]

@[simp] theorem withMessage_expression (found : Option Token) :
    withMessage message (found.map Event.expression).toList =
      if message = "parse_expression" then (found.map Event.expression).toList else [] := by
  cases found <;> simp [eq_comm]

variable {mode : Mode} {outcome : Outcome}

@[simp] theorem withMessage_declared_verdict :
    withMessage "parsed variable declaration" (mode.verdict outcome) =
      (Outcome.declaration? outcome).toList.map .declared := by
  cases outcome <;> cases mode <;> simp [Mode.verdict]

@[simp] theorem withMessage_recovering_verdict :
    withMessage "recovering from parse error" (mode.verdict outcome) =
      if mode = .recovering then (Outcome.error? outcome).toList.map .recovering else [] := by
  cases outcome <;> cases mode <;> simp [Mode.verdict]

theorem withMessage_verdict_of_ne (notDeclared : "parsed variable declaration" ≠ message)
    (notRecovering : "recovering from parse error" ≠ message) :
    withMessage message (mode.verdict outcome) = [] := by
  cases outcome <;> cases mode <;> simp [Mode.verdict, notDeclared, notRecovering]

end Messages

section Records

variable {mode : Mode} {last : Token} {statement : List Token} {outcome : Outcome}

theorem head?_inView (nonempty : statement ≠ []) :
    (inView last statement).head? = statement.head? := by
  unfold inView
  split
  · rfl
  · rw [List.head?_append_of_ne_nil _ nonempty]

theorem entries_cons (mode : Mode) (last first : Token) (others : List Token) (outcome : Outcome) :
    mode.entries last (first :: others, outcome) = .statement first ::
      (((initializer? (inView last (first :: others))).map .expression).toList ++
        mode.verdict outcome) := by
  simp [Mode.entries, sightings, head?_inView (List.cons_ne_nil first others)]

theorem parserLog_nil (mode : Mode) (last : Token) : ParserLog mode last [] [] [] [] := by
  constructor <;> simp

theorem message_mem_of_mem_entries {event : Event} {step : List Token × Outcome}
    (mem : event ∈ mode.entries last step) : event.message ∈ parserMessages := by
  obtain ⟨statement, outcome⟩ := step
  simp only [Mode.entries, sightings, List.mem_append, Option.mem_toList,
    Option.map_eq_some_iff] at mem
  rcases mem with (⟨first, -, rfl⟩ | ⟨first, -, rfl⟩) | told
  · simp [parserMessages]
  · simp [parserMessages]
  · cases outcome with
    | ok declaration => simp_all [Mode.verdict, parserMessages]
    | error error => cases mode <;> simp_all [Mode.verdict, parserMessages]

variable {statements : List (List Token)} {declarations : List Declaration}
  {errors : List ParseError} {log : List Event}

/-- One more statement leaves one more entry of each kind that it has. -/
theorem ParserLog.cons (nonempty : statement ≠ []) (outcome : Outcome)
    (logged : ParserLog mode last statements declarations errors log) :
    ParserLog mode last (statement :: statements)
      ((Outcome.declaration? outcome).toList ++ declarations)
      ((Outcome.error? outcome).toList ++ errors)
      (mode.entries last (statement, outcome) ++ log) := by
  obtain ⟨first, others, rfl⟩ := List.exists_cons_of_ne_nil nonempty
  have number := logged.number
  refine ⟨List.forall_mem_append.mpr ⟨?_, logged.parser⟩, ?_, ?_, ?_, ?_, ?_⟩
  · intro event
    exact message_mem_of_mem_entries
  · simp [entries_cons, logged.declared]
  · rw [withMessage_append, logged.recovering]
    cases mode <;> simp [entries_cons]
  · simpa [entries_cons, withMessage_verdict_of_ne] using logged.begun
  · have one : (Outcome.declaration? outcome).toList.length +
        (Outcome.error? outcome).toList.length = 1 := by
      cases outcome <;> rfl
    simp only [List.length_cons, List.length_append]
    omega
  · rw [List.filterMap_cons]
    cases found : initializer? (inView last (first :: others)) <;>
      simp [entries_cons, withMessage_verdict_of_ne, found, logged.initialized]

theorem parserLog_entries {steps : List (List Token × Outcome)}
    (nonempty : ∀ step ∈ steps, step.1 ≠ []) :
    ParserLog mode last (steps.map Prod.fst) ((steps.map Prod.snd).filterMap Outcome.declaration?)
      ((steps.map Prod.snd).filterMap Outcome.error?) (steps.flatMap (mode.entries last)) := by
  induction steps with
  | nil => exact parserLog_nil mode last
  | cons step steps ih =>
    obtain ⟨statement, outcome⟩ := step
    obtain ⟨here, others⟩ := List.forall_mem_cons.mp nonempty
    have logged := (ih others).cons here outcome
    cases outcome <;> exact logged

/-- The log tells of as many statements as the run came to. -/
theorem parserLog_parse (mode : Mode) (ts : TokenSequence) :
    ParserLog mode ts.last (ts.statements.take (mode.reached (outcomes ts)).length)
      ((mode.reached (outcomes ts)).filterMap Outcome.declaration?)
      ((mode.reached (outcomes ts)).filterMap Outcome.error?) (mode.parse ts).events := by
  have nonempty : ∀ step ∈ mode.steps ts, step.1 ≠ [] := fun step mem =>
    TokenSequence.ne_nil_of_mem_statements (List.of_mem_zip mem).1
  rw [mode.parse_events, ← mode.map_fst_steps, ← mode.map_snd_steps]
  exact parserLog_entries nonempty

end Records

end TypedDecl
