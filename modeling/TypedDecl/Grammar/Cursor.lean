import TypedDecl.Grammar.Recovery

/-!
A cursor lets a caller ask for one rule after another over the same token sequence, going on
from wherever the last one ended, even after an error.
-/

namespace TypedDecl

/-- A rule to be read at the cursor. -/
inductive Call where
  | program
  | programRecovering
  | declaration
  | expression
  deriving DecidableEq

inductive Answer where
  | program (result : Except ParseError Program)
  | programRecovering (result : Recovered)
  | declaration (result : Except ParseError Declaration)
  | expression (result : Except ParseError Literal)

def Call.reply (ts : TokenSequence) : Call → Reply Answer
  | .program => (Grammar.program ts).map .program
  | .programRecovering => (Grammar.programRecovering ts).map .programRecovering
  | .declaration => (Grammar.declaration ts).map .declaration
  | .expression => (Grammar.expression ts).map .expression

theorem Call.reply_isRestOf (ts : TokenSequence) (call : Call) :
    (call.reply ts).rest.IsRestOf ts := by
  cases call with
  | program => exact Grammar.program_isRestOf ts
  | programRecovering => exact Grammar.programRecovering_isRestOf ts
  | declaration => exact Grammar.goesForward_declaration ts
  | expression => exact Grammar.goesForward_expression ts

structure Cursor where
  tokens : TokenSequence
  rest : TokenSequence
  isRestOf : rest.IsRestOf tokens

namespace Cursor

def start (ts : TokenSequence) : Cursor := ⟨ts, ts, .refl ts⟩

/-- The number of tokens behind the cursor. -/
def position (cursor : Cursor) : Nat := cursor.tokens.body.length - cursor.rest.body.length

def answer (cursor : Cursor) (call : Call) : Answer := (call.reply cursor.rest).value

def after (cursor : Cursor) (call : Call) : Cursor :=
  ⟨cursor.tokens, (call.reply cursor.rest).rest,
    cursor.isRestOf.trans (call.reply_isRestOf cursor.rest)⟩

/-- Each answer comes with the cursor that its call left. -/
def answers (cursor : Cursor) : List Call → List (Answer × Cursor)
  | [] => []
  | call :: calls =>
    (cursor.answer call, cursor.after call) :: (cursor.after call).answers calls

theorem position_add_length (cursor : Cursor) :
    cursor.position + cursor.rest.body.length = cursor.tokens.body.length :=
  Nat.sub_add_cancel cursor.isRestOf.length_le

/-- What is left at the cursor are the tokens from its position on. -/
theorem body_rest (cursor : Cursor) :
    cursor.rest.body = cursor.tokens.body.drop cursor.position :=
  List.suffix_iff_eq_drop.mp cursor.isRestOf.1

end Cursor

end TypedDecl
