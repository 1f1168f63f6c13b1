import TypedDecl.Proofs.Grammar.Moves

/-!
The grammar over a vector of tokens and an index into it.  A probe looks where its index points, and
nothing but the vector keeps it from looking where there is no token, or from looking for an end
without finding one.  Over the tokens of a sequence a probe does what the rule does, in every state
that calls can lead to, so it is never out of range and always comes to an end.
-/

namespace TypedDecl

/-- Why a probe comes to no value. -/
inductive Setback where
  | refused (error : ParseError)
  | outOfRange
  /-- The loops have gone round as often as they were allowed to. -/
  | unfinished
  deriving DecidableEq

/-- Reads a vector from an index on, and moves the index. -/
def Probe (α : Type) : Type := List Token → Nat → Except Setback α × Nat

namespace Probe

variable {α β : Type}

def andThen (probe : Probe α) (next : α → Probe β) : Probe β := fun tokens position =>
  match probe tokens position with
  | (.ok a, position) => next a tokens position
  | (.error setback, position) => (.error setback, position)

instance : Monad Probe where
  pure a := fun _ position => (.ok a, position)
  bind := andThen

def stop (setback : Setback) : Probe α := fun _ position => (.error setback, position)

/-- The token at an index that is worked out from that of the last token.  An empty vector has none,
and an index may be too large. -/
def look (index : Nat → Nat) : Probe Token := fun tokens position =>
  match tokens.length with
  | 0 => (.error .outOfRange, position)
  | last + 1 =>
    match tokens[index last]? with
    | some token => (.ok token, position)
    | none => (.error .outOfRange, position)

/-- An index behind the last token is taken back to it. -/
def peek : Probe Token := fun tokens position => look (min position) tokens position

def last : Probe Token := look id

def pass (token : Token) : Probe Token := fun _ position => (.ok token, position + 1)

def advance : Probe Token := do
  let token ← peek
  if token.isEnd then return token else pass token

def atEnd : Probe Bool := do
  let token ← peek
  return token.isEnd

def take (wanted : Expectation) (read : Token → Option α) : Probe α := do
  let token ← peek
  match read token with
  | some a => do
    let _ ← advance
    return a
  | none => stop (.refused (.unexpected wanted token.kind token.offset))

/-- An error of grammar is a value here; other setbacks are none. -/
def attempt (probe : Probe α) : Probe (Except ParseError α) := fun tokens position =>
  match probe tokens position with
  | (.ok a, position) => (.ok (.ok a), position)
  | (.error (.refused error), position) => (.ok (.error error), position)
  | (.error setback, position) => (.error setback, position)

def type : Probe Ty := take .declaration (·.kind.type?)

def identifier : Probe String :=
  take .identifier fun token => if token.kind = .identifier then some token.lexeme else none

def symbol (wanted : Expectation) (symbol : Symbol) : Probe Unit :=
  take wanted fun token => if token.kind = .symbol symbol then some () else none

def expression : Probe Literal := take .literal Literal.ofToken?

def initializer (type : Ty) : Probe Literal := do
  let first ← peek
  let literal ← expression
  if type.accepts literal.kind then return literal
  else stop (.refused (.typeMismatch type literal.kind first.offset))

def declaration : Probe Declaration := do
  let type ← type
  let name ← identifier
  symbol .equals .equals
  let initializer ← initializer type
  symbol .semicolon .semicolon
  return ⟨type, name, initializer⟩

def statement : Probe Declaration := do
  let first ← peek
  if first.kind.type?.isSome then declaration
  else stop (.refused (.unexpected .declaration first.kind first.offset))

def program : Nat → Probe Program
  | 0 => stop .unfinished
  | rounds + 1 => do
    if ← atEnd then return ⟨[]⟩
    else
      let declaration ← statement
      let program ← program rounds
      return program.cons declaration

/-- To behind the next semicolon, or to the end. -/
def synchronize : Nat → Probe Unit
  | 0 => stop .unfinished
  | rounds + 1 => do
    if ← atEnd then return ()
    else
      let token ← advance
      if token.kind = .symbol .semicolon then return () else synchronize rounds

def programRecovering : Nat → Probe Recovered
  | 0 => stop .unfinished
  | rounds + 1 => do
    if ← atEnd then return ⟨⟨[]⟩, []⟩
    else
      match ← attempt statement with
      | .ok declaration => do
        let recovered ← programRecovering rounds
        return recovered.declared declaration
      | .error error => do
        synchronize (rounds + 1)
        let recovered ← programRecovering rounds
        return recovered.failed error

def call (rounds : Nat) : Call → Probe Answer
  | .program => do return .program (← attempt (program rounds))
  | .programRecovering => do return .programRecovering (← programRecovering rounds)
  | .declaration => do return .declaration (← attempt declaration)
  | .expression => do return .expression (← attempt expression)

/-- Each call starts at the index that the call before it left. -/
def answers (rounds : Nat) (tokens : List Token) :
    Nat → List Call → List (Except Setback Answer × Nat)
  | _, [] => []
  | position, call :: calls =>
    let answered := Probe.call rounds call tokens position
    answered :: answers rounds tokens answered.2 calls

end Probe

namespace Cursor

/-- The index where a rest of the cursor's tokens begins. -/
def place (cursor : Cursor) (rest : TokenSequence) : Nat :=
  cursor.tokens.body.length - rest.body.length

def onward (cursor : Cursor) {rest : TokenSequence} (isRest : rest.IsRestOf cursor.rest) : Cursor :=
  ⟨cursor.tokens, rest, cursor.isRestOf.trans isRest⟩

theorem place_advance (cursor : Cursor) :
    cursor.place cursor.rest.advance =
      if cursor.rest.first.isEnd then cursor.position else cursor.position + 1 := by
  have here := cursor.position_add_length
  have shorter : cursor.rest.advance.body.length = cursor.rest.body.length - 1 := by simp
  cases isEnd : cursor.rest.first.isEnd with
  | true =>
    have none : cursor.rest.body.length = 0 := by
      rw [TokenSequence.atEnd_iff.mp isEnd, List.length_nil]
    simp only [place, ↓reduceIte]
    omega
  | false =>
    have more := TokenSequence.length_advance_lt isEnd
    simp only [place, Bool.false_eq_true, ↓reduceIte]
    omega

end Cursor

namespace Probe

variable {α β : Type} {tokens : List Token} {position after : Nat}

theorem bind_of_ok {probe : Probe α} {a : α} (next : α → Probe β)
    (done : probe tokens position = (.ok a, after)) :
    (probe >>= next) tokens position = next a tokens after := by
  simp [bind, andThen, done]

theorem bind_of_error {probe : Probe α} {setback : Setback} (next : α → Probe β)
    (done : probe tokens position = (.error setback, after)) :
    (probe >>= next) tokens position = (.error setback, after) := by
  simp [bind, andThen, done]

theorem pure_apply (a : α) : (pure a : Probe α) tokens position = (.ok a, position) := rfl

theorem attempt_of_mapError {probe : Probe α} {result : Except ParseError α}
    (done : probe tokens position = (result.mapError .refused, after)) :
    attempt probe tokens position = (.ok result, after) := by
  cases result <;> simp [attempt, done, Except.mapError]

theorem bind_pure_apply {probe : Probe α} {result : Except ParseError α} (f : α → β)
    (done : probe tokens position = (result.mapError .refused, after)) :
    (probe >>= fun a => pure (f a)) tokens position =
      ((result.map f).mapError .refused, after) := by
  cases result with
  | error error => exact bind_of_error _ done
  | ok a => exact bind_of_ok _ done

/-- Wherever a cursor stands, the probe says what the rule says and goes as far. -/
def Mirrors (probe : Probe α) (rule : Rule α) : Prop :=
  ∀ cursor : Cursor, probe cursor.tokens.toList cursor.position =
    ((rule cursor.rest).value.mapError .refused, cursor.place (rule cursor.rest).rest)

section Looking

variable (cursor : Cursor)

theorem look_apply {index : Nat → Nat} {token : Token} (position : Nat)
    (there : cursor.tokens.toList[index cursor.tokens.body.length]? = some token) :
    look index cursor.tokens.toList position = (.ok token, position) := by
  have length : cursor.tokens.toList.length = cursor.tokens.body.length + 1 := by
    simp [TokenSequence.toList]
  simp only [look, length, there]

theorem peek_apply :
    peek cursor.tokens.toList cursor.position = (.ok cursor.rest.first, cursor.position) := by
  apply look_apply cursor
  rw [Nat.min_eq_left cursor.position_le]
  exact cursor.getElem?_position

theorem last_apply (position : Nat) :
    last cursor.tokens.toList position = (.ok cursor.tokens.last, position) := by
  apply look_apply cursor
  simp [TokenSequence.toList]

theorem atEnd_apply :
    atEnd cursor.tokens.toList cursor.position = (.ok cursor.rest.atEnd, cursor.position) :=
  bind_of_ok _ (peek_apply cursor)

theorem advance_apply : advance cursor.tokens.toList cursor.position =
    (.ok cursor.rest.first, cursor.place cursor.rest.advance) := by
  rw [advance, bind_of_ok _ (peek_apply cursor), cursor.place_advance]
  split <;> rfl

end Looking

theorem mirrors_pure (a : α) : Mirrors (pure a) (pure a) := fun _ => rfl

theorem mirrors_peek : Mirrors peek Rule.look := peek_apply

theorem mirrors_stop (error : ParseError) :
    Mirrors (stop (.refused error) : Probe α) (Rule.fail error) := fun _ => rfl

theorem mirrors_take (wanted : Expectation) (read : Token → Option α) :
    Mirrors (take wanted read) (Rule.take wanted read) := by
  intro cursor
  rw [take, bind_of_ok _ (peek_apply cursor)]
  cases found : read cursor.rest.first with
  | none =>
    rw [Rule.take_of_none found]
    rfl
  | some a =>
    rw [Rule.take_of_some found]
    exact bind_of_ok _ (advance_apply cursor)

theorem Mirrors.log {probe : Probe α} {rule : Rule α} (same : Mirrors probe rule) (event : Event) :
    Mirrors probe (Rule.log event >>= fun _ => rule) := by
  intro cursor
  rw [same cursor, Rule.bind_of_ok _ (Rule.log_apply cursor.rest event)]
  rfl

theorem Mirrors.bind {probe : Probe α} {rule : Rule α} {next : α → Probe β} {next' : α → Rule β}
    (first : Mirrors probe rule) (forward : rule.GoesForward)
    (later : ∀ a, Mirrors (next a) (next' a)) : Mirrors (probe >>= next) (rule >>= next') := by
  intro cursor
  have done := first cursor
  cases read : (rule cursor.rest).value with
  | error error =>
    rw [read] at done
    rw [bind_of_error next done, Rule.bind_apply_error next' read]
    rfl
  | ok a =>
    rw [read] at done
    rw [bind_of_ok next done, Rule.bind_apply_ok next' read]
    exact later a (cursor.onward (forward cursor.rest))

theorem mirrors_expression : Mirrors expression Grammar.expression := by
  intro cursor
  rw [expression, mirrors_take, Grammar.expression, Rule.bind_of_ok _ (Rule.look_apply cursor.rest)]
  rfl

theorem mirrors_initializer (type : Ty) :
    Mirrors (initializer type) (Grammar.initializer type) := by
  refine mirrors_peek.bind Rule.goesForward_look fun first => ?_
  refine mirrors_expression.bind Grammar.goesForward_expression fun literal => ?_
  split
  · exact mirrors_pure literal
  · exact mirrors_stop _

theorem mirrors_declaration : Mirrors declaration Grammar.declaration := by
  refine (mirrors_take _ _).bind (Rule.goesForward_take _ _) fun type => ?_
  refine (mirrors_take _ _).bind (Rule.goesForward_take _ _) fun name => ?_
  refine (mirrors_take _ _).bind (Rule.goesForward_take _ _) fun _ => ?_
  refine (mirrors_initializer type).bind (Grammar.goesForward_initializer type) fun literal => ?_
  refine (mirrors_take _ _).bind (Rule.goesForward_take _ _) fun _ => ?_
  exact (mirrors_pure _).log _

theorem mirrors_statement : Mirrors statement Grammar.statement := by
  intro cursor
  rw [statement, bind_of_ok _ (peek_apply cursor)]
  cases opener : cursor.rest.first.kind.type? with
  | none =>
    rw [Grammar.statement_of_no_type opener]
    rfl
  | some type =>
    rw [Grammar.statement_eq_after]
    exact mirrors_declaration cursor

section Loops

variable (cursor : Cursor) {rounds : Nat}

theorem synchronize_apply (enough : cursor.rest.body.length < rounds) :
    synchronize rounds cursor.tokens.toList cursor.position =
      (.ok (), cursor.place cursor.rest.afterStatement) := by
  induction rounds generalizing cursor with
  | zero => exact absurd enough (Nat.not_lt_zero _)
  | succ rounds ih =>
    rw [synchronize, bind_of_ok _ (atEnd_apply cursor)]
    cases isEnd : cursor.rest.atEnd with
    | true =>
      have none := TokenSequence.atEnd_iff.mp isEnd
      have stays : cursor.rest.afterStatement.body.length = cursor.rest.body.length := by
        simp [TokenSequence.afterStatement, none]
      simp [pure_apply, Cursor.place, Cursor.position, stays]
    | false =>
      have shorter := TokenSequence.length_advance_lt isEnd
      simp only [Bool.false_eq_true, ↓reduceIte]
      rw [bind_of_ok _ (advance_apply cursor)]
      by_cases semicolon : cursor.rest.first.kind = .symbol .semicolon
      · rw [if_pos semicolon, TokenSequence.afterStatement_of_semicolon semicolon]
        rfl
      · rw [if_neg semicolon, TokenSequence.afterStatement_of_ne semicolon]
        exact ih (cursor.onward cursor.rest.advance_isRestOf) (Nat.lt_of_lt_of_le shorter
          (Nat.le_of_lt_succ enough))

theorem statement_of_ok {found : Declaration}
    (read : (Grammar.statement cursor.rest).value = .ok found) :
    statement cursor.tokens.toList cursor.position =
      (.ok found, cursor.place cursor.rest.afterStatement) := by
  rw [mirrors_statement, read, (Grammar.rest_of_ok read).2]
  rfl

theorem statement_of_error {error : ParseError}
    (failed : (Grammar.statement cursor.rest).value = .error error) :
    statement cursor.tokens.toList cursor.position =
      (.error (.refused error), cursor.place (Grammar.statement cursor.rest).rest) := by
  rw [mirrors_statement, failed]
  rfl

/-- A failed statement is left behind as a whole. -/
theorem synchronize_of_failed {error : ParseError}
    (failed : (Grammar.statement cursor.rest).value = .error error)
    (enough : cursor.rest.body.length < rounds) :
    synchronize rounds cursor.tokens.toList (cursor.place (Grammar.statement cursor.rest).rest) =
      (.ok (), cursor.place cursor.rest.afterStatement) := by
  have forward := Grammar.goesForward_statement cursor.rest
  rw [← Grammar.afterStatement_of_failed failed]
  exact synchronize_apply (cursor.onward forward) (Nat.lt_of_le_of_lt forward.length_le enough)

theorem program_apply (enough : cursor.rest.body.length < rounds) :
    program rounds cursor.tokens.toList cursor.position =
      ((Grammar.program cursor.rest).value.mapError .refused,
        cursor.place (Grammar.program cursor.rest).rest) := by
  induction rounds generalizing cursor with
  | zero => exact absurd enough (Nat.not_lt_zero _)
  | succ rounds ih =>
    rw [program, bind_of_ok _ (atEnd_apply cursor)]
    cases isEnd : cursor.rest.atEnd with
    | true =>
      rw [Grammar.program_of_atEnd isEnd]
      rfl
    | false =>
      have shorter := TokenSequence.length_afterStatement_lt isEnd
      have later := ih (cursor.onward cursor.rest.afterStatement_isRestOf)
        (Nat.lt_of_lt_of_le shorter (Nat.le_of_lt_succ enough))
      simp only [Bool.false_eq_true, ↓reduceIte]
      cases read : (Grammar.statement cursor.rest).value with
      | error error =>
        rw [bind_of_error _ (statement_of_error cursor read),
          Grammar.program_of_error isEnd read]
        rfl
      | ok declaration =>
        rw [bind_of_ok _ (statement_of_ok cursor read), Grammar.program_of_ok read]
        exact bind_pure_apply (Program.cons declaration) later

theorem programRecovering_apply (enough : cursor.rest.body.length < rounds) :
    programRecovering rounds cursor.tokens.toList cursor.position =
      (.ok (Grammar.programRecovering cursor.rest).value,
        cursor.place (Grammar.programRecovering cursor.rest).rest) := by
  induction rounds generalizing cursor with
  | zero => exact absurd enough (Nat.not_lt_zero _)
  | succ rounds ih =>
    rw [programRecovering, bind_of_ok _ (atEnd_apply cursor)]
    cases isEnd : cursor.rest.atEnd with
    | true =>
      rw [Grammar.programRecovering_of_atEnd isEnd]
      rfl
    | false =>
      have shorter := TokenSequence.length_afterStatement_lt isEnd
      have within := Nat.lt_of_lt_of_le shorter (Nat.le_of_lt_succ enough)
      have later := ih (cursor.onward cursor.rest.afterStatement_isRestOf) within
      simp only [Bool.false_eq_true, ↓reduceIte]
      rw [bind_of_ok _ (attempt_of_mapError (mirrors_statement cursor))]
      cases read : (Grammar.statement cursor.rest).value with
      | error error =>
        rw [Grammar.programRecovering_of_error isEnd read]
        exact (bind_of_ok _ (synchronize_of_failed cursor read enough)).trans (bind_of_ok _ later)
      | ok declaration =>
        rw [Grammar.programRecovering_of_ok read, (Grammar.rest_of_ok read).2]
        exact bind_of_ok _ later

theorem call_apply (call : Call) (enough : cursor.rest.body.length < rounds) :
    Probe.call rounds call cursor.tokens.toList cursor.position =
      (.ok (cursor.answer call), (cursor.after call).position) := by
  cases call with
  | program => exact bind_of_ok _ (attempt_of_mapError (program_apply cursor enough))
  | programRecovering => exact bind_of_ok _ (programRecovering_apply cursor enough)
  | declaration => exact bind_of_ok _ (attempt_of_mapError (mirrors_declaration cursor))
  | expression => exact bind_of_ok _ (attempt_of_mapError (mirrors_expression cursor))

/-- Probes that are called one after another never meet a setback, and leave the index where the
cursor is left. -/
theorem answers_apply (calls : List Call) (enough : cursor.tokens.body.length < rounds) :
    answers rounds cursor.tokens.toList cursor.position calls =
      (cursor.answers calls).map fun step => (.ok step.1, step.2.position) := by
  induction calls generalizing cursor with
  | nil => rfl
  | cons call calls ih =>
    have within := Nat.lt_of_le_of_lt cursor.isRestOf.length_le enough
    simp only [answers, call_apply cursor call within, Cursor.answers, List.map_cons]
    rw [← ih (cursor.after call) enough]
    rfl

end Loops

end Probe

end TypedDecl
