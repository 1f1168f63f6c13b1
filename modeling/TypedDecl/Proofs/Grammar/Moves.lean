import TypedDecl.Grammar.Cursor
import TypedDecl.Proofs.Grammar.Reports

/-!
How far a call moves the cursor.  The answer tells how many tokens were taken, and a cursor left by
an error still stands at the token that is reported.  On the end of input nothing moves any more.
-/

namespace TypedDecl

/-- The tokens in front of what is wanted, in a declaration. -/
def Expectation.taken : Expectation → Nat
  | .declaration => 0
  | .identifier => 1
  | .equals => 2
  | .literal => 3
  | .semicolon => 4

namespace ParseError

/-- The tokens a declaration has taken when it fails. -/
def taken : ParseError → Nat
  | .unexpected wanted _ _ => wanted.taken
  | .typeMismatch .. => 4

/-- A literal of another type has been taken before it is reported, other tokens have not. -/
def past : ParseError → Nat
  | .unexpected .. => 0
  | .typeMismatch .. => 1

end ParseError

/-- The cursor stands where the reported token is, or where it was taken. -/
def Cursor.StandsAt (cursor : Cursor) (error : ParseError) : Prop :=
  ∃ index token, cursor.position = index + error.past ∧
    cursor.tokens.toList[index]? = some token ∧ error.PointsAt token

/-- Where each answer to a call leaves the cursor. -/
inductive Moves (before : Cursor) : Call → Answer → Cursor → Prop where
  | expression {value after} : after.position = before.position + 1 →
      Moves before .expression (.expression (.ok value)) after
  | noExpression {found offset after} : after.position = before.position →
      after.StandsAt (.unexpected .literal found offset) →
      Moves before .expression (.expression (.error (.unexpected .literal found offset))) after
  | declaration {declaration after} : after.position = before.position + 5 →
      Moves before .declaration (.declaration (.ok declaration)) after
  | noDeclaration {error after} : after.position = before.position + error.taken →
      after.StandsAt error → Moves before .declaration (.declaration (.error error)) after
  | program {program after} :
      after.position = before.position + 5 * program.declarations.length →
      after.position = before.tokens.body.length →
      Moves before .program (.program (.ok program)) after
  /-- Behind whole declarations the next one fails, and the cursor is left where it fails. -/
  | noProgram {completed error} {middle : Cursor} : middle.tokens = before.tokens →
      middle.position = before.position + 5 * completed →
      middle.answer .declaration = .declaration (.error error) →
      Moves before .program (.program (.error error)) (middle.after .declaration)
  | programRecovering {recovered after} : after.position = before.tokens.body.length →
      Moves before .programRecovering (.programRecovering recovered) after

/-- What is answered on the end of input. -/
def Call.answerAtEnd (last : Token) : Call → Answer
  | .program => .program (.ok ⟨[]⟩)
  | .programRecovering => .programRecovering ⟨⟨[]⟩, []⟩
  | .declaration => .declaration (.error (.unexpected .declaration .endOfInput last.offset))
  | .expression => .expression (.error (.unexpected .literal .endOfInput last.offset))

structure LawfulStep (before : Cursor) (call : Call) (answer : Answer) (after : Cursor) : Prop where
  tokens : after.tokens = before.tokens
  forward : before.position ≤ after.position
  within : after.position ≤ before.tokens.body.length
  moves : Moves before call answer after
  atEnd : before.position = before.tokens.body.length →
    after.position = before.position ∧ answer = call.answerAtEnd before.tokens.last

/-- Every call of a run starts from the cursor that the call before it left. -/
inductive LawfulRun : Cursor → List Call → List (Answer × Cursor) → Prop where
  | nil {cursor} : LawfulRun cursor [] []
  | cons {before call answer after calls answers} : LawfulStep before call answer after →
      LawfulRun after calls answers →
      LawfulRun before (call :: calls) ((answer, after) :: answers)

namespace Cursor

variable {cursor : Cursor} {taken : List Token} {rest : TokenSequence}

/-- The cursor behind the next tokens. -/
def ahead (cursor : Cursor) (starts : cursor.rest.StartsWith taken rest) : Cursor :=
  ⟨cursor.tokens, rest, cursor.isRestOf.trans starts.isRestOf⟩

theorem position_ahead (starts : cursor.rest.StartsWith taken rest) :
    (cursor.ahead starts).position = cursor.position + taken.length := by
  have here := cursor.position_add_length
  have there := (cursor.ahead starts).position_add_length
  rw [starts.1, List.length_append] at here
  simp only [ahead] at there ⊢
  omega

theorem position_after {call : Call}
    (starts : cursor.rest.StartsWith taken (call.reply cursor.rest).rest) :
    (cursor.after call).position = cursor.position + taken.length :=
  position_ahead starts

theorem toList_drop_position (cursor : Cursor) :
    cursor.tokens.toList.drop cursor.position = cursor.rest.toList := by
  have inside : cursor.position ≤ cursor.tokens.body.length := by
    rw [← cursor.position_add_length]
    exact Nat.le_add_right _ _
  rw [TokenSequence.toList, List.drop_append_of_le_length inside, ← cursor.body_rest,
    ← cursor.isRestOf.2]
  rfl

theorem getElem?_position (cursor : Cursor) :
    cursor.tokens.toList[cursor.position]? = some cursor.rest.first := by
  obtain ⟨later, spelled⟩ := cursor.rest.toList_eq_cons
  rw [← List.head?_drop, cursor.toList_drop_position, spelled]
  rfl

theorem position_of_atEnd (isEnd : cursor.rest.atEnd = true) :
    cursor.position = cursor.tokens.body.length := by
  have here := cursor.position_add_length
  rwa [TokenSequence.atEnd_iff.mp isEnd, List.length_nil] at here

theorem atEnd_of_position (isEnd : cursor.position = cursor.tokens.body.length) :
    cursor.rest.atEnd = true := by
  have here := cursor.position_add_length
  apply TokenSequence.atEnd_iff.mpr
  apply List.length_eq_zero_iff.mp
  omega

end Cursor

theorem Group.length_eq {group : List Token} {declaration : Declaration}
    (isGroup : Group group declaration) : group.length = 5 := by
  cases isGroup
  rfl

theorem length_flatten_groups {groups : List (List Token)} {declarations : List Declaration}
    (each : List.Forall₂ Group groups declarations) :
    groups.flatten.length = 5 * declarations.length := by
  induction each with
  | nil => rfl
  | cons isGroup _ ih =>
    rw [List.flatten_cons, List.length_append, isGroup.length_eq, ih, List.length_cons]
    omega

theorem Opening.length_eq {begun : List Token} {wanted : Expectation}
    (opening : Opening begun wanted) : begun.length = wanted.taken := by
  cases opening <;> rfl

namespace Grammar

variable {ts : TokenSequence} {error : ParseError}

theorem value_statement (ts : TokenSequence) : (statement ts).value = (declaration ts).value := by
  rw [statement_eq_after]
  rfl

theorem rest_statement (ts : TokenSequence) : (statement ts).rest = (declaration ts).rest := by
  rw [statement_eq_after]
  rfl

theorem declaration_of_ok {found : Declaration} (read : (declaration ts).value = .ok found) :
    ∃ group, Group group found ∧ ts.StartsWith group (declaration ts).rest := by
  rw [← value_statement] at read
  rw [← rest_statement]
  exact group_of_statement read

/-- A declaration fails at a token it has not taken, or at the literal it took last. -/
theorem declaration_of_error (failed : (declaration ts).value = .error error) :
    ∃ begun rest last, ts.StartsWith begun rest ∧ error.PointsAt rest.first ∧
      rest.StartsWith last (declaration ts).rest ∧ last.length = error.past ∧
      begun.length + last.length = error.taken := by
  rw [← value_statement] at failed
  rw [← rest_statement]
  have reply := statement_reply ts
  generalize statement ts = found at reply failed ⊢
  cases reply with
  | declared => cases failed
  | @unexpected begun wanted rest opening starts refused =>
    cases failed
    exact ⟨begun, rest, [], starts, .unexpected, TokenSequence.startsWith_nil.mpr rfl, rfl,
      opening.length_eq⟩
  | @mismatch opener name equals literal rest type value first second third read refused starts =>
    cases failed
    have spelled : ts.StartsWith ([opener, name, equals] ++ [literal]) rest := starts
    obtain ⟨middle, begins, later⟩ := spelled.split
    have here := (TokenSequence.startsWith_cons.mp later).2.1
    refine ⟨_, middle, [literal], begins, ?_, later, rfl, rfl⟩
    rw [← here]
    apply ParseError.PointsAt.mismatch
    rw [here, ← Literal.map_kind_ofToken?, read]
    rfl

theorem rest_of_program {found : Program} (read : (program ts).value = .ok found) :
    (program ts).rest.body = [] := by
  fun_induction program ts generalizing found with
  | case1 ts isEnd => exact TokenSequence.atEnd_iff.mp isEnd
  | case2 => cases read
  | case3 ts _ declaration _ _ ih =>
    rw [Reply.value_after, Reply.value_map] at read
    cases later : (program (statement ts).rest).value with
    | error error => simp [later, Except.map] at read
    | ok program => exact ih later

theorem program_of_failed (failed : (program ts).value = .error error) :
    ∃ groups declarations rest, List.Forall₂ Group groups declarations ∧
      ts.StartsWith groups.flatten rest ∧ (declaration rest).value = .error error ∧
      (declaration rest).rest = (program ts).rest := by
  fun_induction program ts with
  | case1 => cases failed
  | case2 ts _ first read =>
    cases failed
    rw [value_statement] at read
    exact ⟨[], [], ts, .nil, by simp, read, (rest_statement ts).symm⟩
  | case3 ts _ first read _ ih =>
    rw [Reply.value_after, Reply.value_map] at failed
    obtain ⟨group, isGroup, starts⟩ := group_of_statement read
    cases later : (program (statement ts).rest).value with
    | ok program => simp [later, Except.map] at failed
    | error error =>
      obtain rfl : error = _ := by simpa [later, Except.map] using failed
      obtain ⟨groups, declarations, rest, each, onward, stopped, same⟩ := ih later
      exact ⟨group :: groups, first :: declarations, rest, .cons isGroup each,
        starts.append onward, stopped, same⟩

theorem rest_of_programRecovering (ts : TokenSequence) : (programRecovering ts).rest.body = [] := by
  fun_induction programRecovering ts with
  | case1 ts isEnd => exact TokenSequence.atEnd_iff.mp isEnd
  | case2 _ _ _ _ _ ih => exact ih
  | case3 _ _ _ _ _ ih => exact ih

end Grammar

/-- Nothing is read on the end of input. -/
theorem Call.reply_of_atEnd {ts : TokenSequence} (isEnd : ts.atEnd = true) (call : Call) :
    (call.reply ts).value = call.answerAtEnd ts.last ∧ (call.reply ts).rest = ts := by
  cases ts using TokenSequence.induction with
  | cons token notEnd ts => simp at isEnd
  | ofEnd last kind =>
    cases call with
    | program =>
      rw [Call.reply, Grammar.program_of_atEnd isEnd]
      exact ⟨rfl, rfl⟩
    | programRecovering =>
      rw [Call.reply, Grammar.programRecovering_of_atEnd isEnd]
      exact ⟨rfl, rfl⟩
    | declaration =>
      have refused : (TokenSequence.ofEnd last kind).first.kind.type? = none := by
        simp [TokenKind.type?, kind]
      have read := Grammar.statement_of_no_type refused
      rw [Call.reply, Reply.value_map, Reply.rest_map, ← Grammar.value_statement,
        ← Grammar.rest_statement, read]
      simp [Call.answerAtEnd, kind]
    | expression =>
      have refused : Literal.ofToken? (TokenSequence.ofEnd last kind).first = none := by
        simp [Literal.ofToken?, kind]
      rw [Call.reply, Grammar.expression_of_none refused]
      simp [Call.answerAtEnd, kind]

namespace Cursor

variable (cursor : Cursor)

theorem moves_expression :
    Moves cursor .expression (cursor.answer .expression) (cursor.after .expression) := by
  cases found : Literal.ofToken? cursor.rest.first with
  | none =>
    have read := Grammar.expression_of_none found
    have stays : cursor.rest.StartsWith [] (Call.expression.reply cursor.rest).rest := by
      simp [Call.reply, read]
    have same : (cursor.after .expression).rest = cursor.rest :=
      TokenSequence.startsWith_nil.mp stays
    have here := (cursor.after .expression).getElem?_position
    rw [same] at here
    simp only [answer, Call.reply, Reply.value_map, read]
    apply Moves.noExpression (position_after stays)
    exact ⟨_, _, rfl, here, .unexpected⟩
  | some value =>
    have read := Grammar.expression_of_some found
    have more : cursor.rest.first.kind ≠ .endOfInput := by
      intro isEnd
      simp [Literal.ofToken?, isEnd] at found
    have taken : cursor.rest.StartsWith [cursor.rest.first]
        (Call.expression.reply cursor.rest).rest := by
      simp only [Call.reply, Reply.rest_map, read]
      exact TokenSequence.startsWith_first rfl more
    simp only [answer, Call.reply, Reply.value_map, read]
    exact .expression (position_after taken)

theorem moves_declaration :
    Moves cursor .declaration (cursor.answer .declaration) (cursor.after .declaration) := by
  rw [answer, Call.reply, Reply.value_map]
  cases read : (Grammar.declaration cursor.rest).value with
  | ok declaration =>
    obtain ⟨group, isGroup, starts⟩ := Grammar.declaration_of_ok read
    apply Moves.declaration
    rw [← isGroup.length_eq]
    exact position_after starts
  | error error =>
    obtain ⟨begun, rest, last, begins, points, ends, past, taken⟩ :=
      Grammar.declaration_of_error read
    have here := (cursor.ahead begins).getElem?_position
    rw [position_ahead begins] at here
    have moved : (cursor.after .declaration).position =
        cursor.position + (begun ++ last).length := position_after (begins.append ends)
    rw [List.length_append] at moved
    apply Moves.noDeclaration
    · omega
    · refine ⟨cursor.position + begun.length, rest.first, ?_, here, points⟩
      omega

theorem moves_program :
    Moves cursor .program (cursor.answer .program) (cursor.after .program) := by
  rw [answer, Call.reply, Reply.value_map]
  cases read : (Grammar.program cursor.rest).value with
  | ok program =>
    have done : (cursor.after .program).rest.body = [] := Grammar.rest_of_program read
    have whole : (cursor.after .program).position = cursor.tokens.body.length :=
      (cursor.after .program).position_of_atEnd (TokenSequence.atEnd_iff.mpr done)
    have here := cursor.position_add_length
    obtain ⟨groups, body, each⟩ := groups_of_parse read
    rw [body, length_flatten_groups each] at here
    apply Moves.program
    · omega
    · exact whole
  | error error =>
    obtain ⟨groups, declarations, rest, each, starts, failed, same⟩ :=
      Grammar.program_of_failed read
    have moved := position_ahead starts
    rw [length_flatten_groups each] at moved
    have left : cursor.after .program = (cursor.ahead starts).after .declaration := by
      simp only [after, ahead, Call.reply, Reply.rest_map, same]
    have tokens : (cursor.ahead starts).tokens = cursor.tokens := rfl
    rw [left]
    apply Moves.noProgram tokens moved
    rw [answer, Call.reply, Reply.value_map]
    exact congrArg _ failed

theorem position_after_programRecovering :
    (cursor.after .programRecovering).position = cursor.tokens.body.length := by
  have done : (cursor.after .programRecovering).rest.body = [] :=
    Grammar.rest_of_programRecovering cursor.rest
  exact (cursor.after .programRecovering).position_of_atEnd (TokenSequence.atEnd_iff.mpr done)

theorem moves_programRecovering :
    Moves cursor .programRecovering (cursor.answer .programRecovering)
      (cursor.after .programRecovering) :=
  .programRecovering cursor.position_after_programRecovering

theorem moves (call : Call) : Moves cursor call (cursor.answer call) (cursor.after call) := by
  cases call with
  | program => exact cursor.moves_program
  | programRecovering => exact cursor.moves_programRecovering
  | declaration => exact cursor.moves_declaration
  | expression => exact cursor.moves_expression

theorem position_le (cursor : Cursor) : cursor.position ≤ cursor.tokens.body.length := by
  rw [← cursor.position_add_length]
  exact Nat.le_add_right _ _

theorem position_le_after (call : Call) : cursor.position ≤ (cursor.after call).position := by
  obtain ⟨⟨taken, body⟩, last⟩ := call.reply_isRestOf cursor.rest
  have starts : cursor.rest.StartsWith taken (call.reply cursor.rest).rest := ⟨body.symm, last⟩
  rw [position_after starts]
  exact Nat.le_add_right _ _

theorem lawfulStep (call : Call) :
    LawfulStep cursor call (cursor.answer call) (cursor.after call) where
  tokens := rfl
  forward := cursor.position_le_after call
  within := (cursor.after call).position_le
  moves := cursor.moves call
  atEnd := by
    intro isEnd
    obtain ⟨value, rest⟩ := call.reply_of_atEnd (cursor.atEnd_of_position isEnd)
    refine ⟨position_after (TokenSequence.startsWith_nil.mpr rest), ?_⟩
    rw [← cursor.isRestOf.2]
    exact value

theorem lawfulRun (calls : List Call) : LawfulRun cursor calls (cursor.answers calls) := by
  induction calls generalizing cursor with
  | nil => exact .nil
  | cons call calls ih => exact .cons (cursor.lawfulStep call) (ih (cursor.after call))

end Cursor

/-- Positions only grow, from the first cursor of a run to its last. -/
theorem LawfulRun.ascending {cursor : Cursor} {calls : List Call} {answers : List (Answer × Cursor)}
    (run : LawfulRun cursor calls answers) :
    (cursor.position :: answers.map (·.2.position)).Pairwise (· ≤ ·) := by
  rw [← List.isChain_iff_pairwise]
  induction run with
  | nil => exact .singleton _
  | cons step _ ih => exact .cons_cons step.forward ih

theorem LawfulRun.within {cursor : Cursor} {calls : List Call} {answers : List (Answer × Cursor)}
    (run : LawfulRun cursor calls answers) :
    ∀ step ∈ answers, step.2.position ≤ cursor.tokens.body.length := by
  induction run with
  | nil =>
    intro step mem
    cases mem
  | cons first _ ih =>
    intro step mem
    rcases List.mem_cons.mp mem with rfl | mem
    · exact first.within
    · rw [← first.tokens]
      exact ih step mem

/-- Every call keeps to the law of the cursor, whatever was called before it and whether or not
that failed. -/
theorem answers_lawful (ts : TokenSequence) (calls : List Call) :
    LawfulRun (.start ts) calls ((Cursor.start ts).answers calls) ∧
      (0 :: ((Cursor.start ts).answers calls).map (·.2.position)).Pairwise (· ≤ ·) ∧
      ∀ step ∈ (Cursor.start ts).answers calls, step.2.position ≤ ts.body.length := by
  have run := (Cursor.start ts).lawfulRun calls
  have start : (Cursor.start ts).position = 0 := Nat.sub_self _
  refine ⟨run, ?_, run.within⟩
  rw [← start]
  exact run.ascending

end TypedDecl
