import TypedDecl.Proofs.Grammar.Moves
import TypedDecl.Proofs.Grammar.Recovery
import TypedDecl.Proofs.Grammar.Relabeled

/-!
Calls on relabeled tokens.  No call looks at a place or a lexeme but to copy it, so one call after
another gives the same answers, relabeled with the tokens, and leaves the cursor at the same
positions.
-/

namespace TypedDecl

namespace Relabeling

variable (f : Relabeling)

def program (program : Program) : Program := ⟨program.declarations.map f.declaration⟩

def recovered (recovered : Recovered) : Recovered :=
  ⟨f.program recovered.program, recovered.errors.map f.parseError⟩

/-- What a rule comes to: a value of some type, or an error. -/
def result {α : Type} (map : α → α) (result : Except ParseError α) : Except ParseError α :=
  (result.map map).mapError f.parseError

def answer : Answer → Answer
  | .program result => .program (f.result f.program result)
  | .programRecovering recovered => .programRecovering (f.recovered recovered)
  | .declaration result => .declaration (f.result f.declaration result)
  | .expression result => .expression (f.result f.literal result)

theorem isRestOf_sequence {rest ts : TokenSequence} (isRest : rest.IsRestOf ts) :
    (f.sequence rest).IsRestOf (f.sequence ts) :=
  ⟨isRest.1.map f.token, congrArg f.token isRest.2⟩

def cursor (cursor : Cursor) : Cursor :=
  ⟨f.sequence cursor.tokens, f.sequence cursor.rest, f.isRestOf_sequence cursor.isRestOf⟩

theorem cursor_start (ts : TokenSequence) : f.cursor (.start ts) = .start (f.sequence ts) := rfl

theorem position_cursor (cursor : Cursor) : (f.cursor cursor).position = cursor.position := by
  simp [Cursor.position, Relabeling.cursor]

/-- The tokens stay a sequence, as their kinds do not change. -/
theorem ofTokens_map_token (ts : TokenSequence) :
    TokenSequence.ofTokens (ts.toList.map f.token) = .ok (f.sequence ts) := by
  rw [← f.toList_sequence, TokenSequence.ofTokens_toList]

end Relabeling

namespace Grammar

variable (f : Relabeling)

theorem follows_program : Rule.Follows f f.program program program := by
  intro ts
  fun_induction outcomes ts with
  | case1 ts isEnd =>
    have isEnd' : (f.sequence ts).atEnd = true := by simpa using isEnd
    rw [program_of_atEnd isEnd, program_of_atEnd isEnd']
    exact ⟨rfl, rfl⟩
  | case2 ts more _ ih =>
    obtain ⟨value, rest⟩ := follows_statement f ts
    cases read : (statement ts).value with
    | error error =>
      have more' : (f.sequence ts).atEnd = false := by simpa using more
      have read' : (statement (f.sequence ts)).value = .error (f.parseError error) := by
        rw [value, read]
        rfl
      rw [Bool.not_eq_true] at more
      rw [program_of_error more read, program_of_error more' read']
      exact ⟨rfl, rest⟩
    | ok declaration =>
      have read' : (statement (f.sequence ts)).value = .ok (f.declaration declaration) := by
        rw [value, read]
        rfl
      obtain ⟨others, done⟩ := ih
      rw [program_of_ok read, program_of_ok read', f.afterStatement_sequence]
      refine ⟨?_, done⟩
      simp only [Reply.value_after, Reply.value_map, others]
      cases (program ts.afterStatement).value <;> rfl

theorem follows_programRecovering (ts : TokenSequence) :
    (programRecovering (f.sequence ts)).value = f.recovered (programRecovering ts).value ∧
      (programRecovering (f.sequence ts)).rest = f.sequence (programRecovering ts).rest := by
  refine ⟨parseRecovering_sequence f ts, ?_⟩
  apply TokenSequence.eq_of_body_last
  · rw [f.body_sequence, rest_of_programRecovering, rest_of_programRecovering]
    rfl
  · rw [f.last_sequence, (programRecovering_isRestOf ts).2, (programRecovering_isRestOf _).2]
    rfl

end Grammar

theorem Call.reply_sequence (f : Relabeling) (call : Call) (ts : TokenSequence) :
    (call.reply (f.sequence ts)).value = f.answer (call.reply ts).value ∧
      (call.reply (f.sequence ts)).rest = f.sequence (call.reply ts).rest := by
  cases call with
  | program =>
    obtain ⟨value, rest⟩ := Grammar.follows_program f ts
    exact ⟨congrArg Answer.program value, rest⟩
  | programRecovering =>
    obtain ⟨value, rest⟩ := Grammar.follows_programRecovering f ts
    exact ⟨congrArg Answer.programRecovering value, rest⟩
  | declaration =>
    obtain ⟨value, rest⟩ := Grammar.follows_declaration f ts
    exact ⟨congrArg Answer.declaration value, rest⟩
  | expression =>
    obtain ⟨value, rest⟩ := Grammar.follows_expression f ts
    exact ⟨congrArg Answer.expression value, rest⟩

namespace Cursor

variable (f : Relabeling) (cursor : Cursor)

theorem answer_cursor (call : Call) :
    (f.cursor cursor).answer call = f.answer (cursor.answer call) :=
  (call.reply_sequence f cursor.rest).1

theorem after_cursor (call : Call) :
    (f.cursor cursor).after call = f.cursor (cursor.after call) := by
  have rest := (call.reply_sequence f cursor.rest).2
  simp only [after, Relabeling.cursor, rest]

/-- Each step of a run is relabeled by itself. -/
theorem answers_cursor (calls : List Call) :
    (f.cursor cursor).answers calls =
      (cursor.answers calls).map fun step => (f.answer step.1, f.cursor step.2) := by
  induction calls generalizing cursor with
  | nil => rfl
  | cons call calls ih =>
    rw [answers, answers, List.map_cons, answer_cursor, after_cursor, ih]

end Cursor

/-- Parsing tokens with other places and lexemes is parsing and relabeling what comes of it, and
a run of calls goes through the same positions. -/
theorem parse_relabeled (f : Relabeling) (ts : TokenSequence) :
    TokenSequence.ofTokens (ts.toList.map f.token) = .ok (f.sequence ts) ∧
    parse (f.sequence ts) = f.result f.program (parse ts) ∧
    parseRecovering (f.sequence ts) = f.recovered (parseRecovering ts) ∧
    ∀ calls : List Call,
      ((Cursor.start (f.sequence ts)).answers calls).map (fun step => (step.1, step.2.position)) =
        ((Cursor.start ts).answers calls).map fun step => (f.answer step.1, step.2.position) := by
  refine ⟨f.ofTokens_map_token ts, (Grammar.follows_program f ts).1, parseRecovering_sequence f ts,
    ?_⟩
  intro calls
  rw [← f.cursor_start, Cursor.answers_cursor, List.map_map]
  apply List.map_congr_left
  intro step _
  exact Prod.ext rfl (f.position_cursor step.2)

end TypedDecl
