import TypedDecl.Grammar.Rule

/-!
The grammar of declarations: a type, a name, an equals sign, a literal that fits the type, and a
semicolon.
-/

namespace TypedDecl

/-- A truth value is told by the kind of its token, every other literal keeps the lexeme. -/
def Literal.ofToken? (token : Token) : Option Literal :=
  match token.kind with
  | .integer => some (.integer token.lexeme)
  | .floating => some (.floating token.lexeme)
  | .truth value => some (.truth value)
  | .quoted => some (.quoted token.lexeme)
  | _ => none

namespace Grammar

def type : Rule Ty := .take .declaration (·.kind.type?)

def identifier : Rule String :=
  .take .identifier fun token => if token.kind = .identifier then some token.lexeme else none

def symbol (wanted : Expectation) (symbol : Symbol) : Rule Unit :=
  .take wanted fun token => if token.kind = .symbol symbol then some () else none

/-- Literals are the only expressions. -/
def expression : Rule Literal := do
  let first ← Rule.look
  Rule.log (.expression first)
  Rule.take .literal Literal.ofToken?

/-- A literal of another type is taken all the same, and reported at its own place. -/
def initializer (type : Ty) : Rule Literal := do
  let first ← Rule.look
  let literal ← expression
  if type.accepts literal.kind then return literal
  else Rule.fail (.typeMismatch type literal.kind first.offset)

/-- The rest of a declaration, once its type is read. -/
def declarationOf (type : Ty) : Rule Declaration := do
  let name ← identifier
  symbol .equals .equals
  let initializer ← initializer type
  symbol .semicolon .semicolon
  let declaration := ⟨type, name, initializer⟩
  Rule.log (.declared declaration)
  return declaration

def declaration : Rule Declaration := type >>= declarationOf

/-- Declarations are the only statements. -/
def statement : Rule Declaration := do
  let first ← Rule.look
  Rule.log (.statement first)
  declaration

theorem goesForward_expression : expression.GoesForward :=
  Rule.goesForward_look.bind fun _ => (Rule.goesForward_log _).bind fun _ =>
    Rule.goesForward_take _ _

theorem goesForward_initializer (type : Ty) : (initializer type).GoesForward := by
  refine Rule.goesForward_look.bind fun first => goesForward_expression.bind fun literal => ?_
  split
  · exact Rule.goesForward_pure _
  · exact Rule.goesForward_fail _

theorem goesForward_declarationOf (type : Ty) : (declarationOf type).GoesForward :=
  (Rule.goesForward_take _ _).bind fun _ => (Rule.goesForward_take _ _).bind fun _ =>
    (goesForward_initializer type).bind fun _ => (Rule.goesForward_take _ _).bind fun _ =>
      (Rule.goesForward_log _).bind fun _ => Rule.goesForward_pure _

theorem goesForward_declaration : declaration.GoesForward :=
  (Rule.goesForward_take _ _).bind goesForward_declarationOf

theorem progresses_declaration : declaration.Progresses :=
  (Rule.progresses_take fun token isEnd => by simp [TokenKind.type?, isEnd]).bind
    goesForward_declarationOf

theorem goesForward_statement : statement.GoesForward :=
  Rule.goesForward_look.bind fun _ => (Rule.goesForward_log _).bind fun _ => goesForward_declaration

theorem progresses_statement : statement.Progresses :=
  Rule.goesForward_look.bind_progresses fun _ => (Rule.goesForward_log _).bind_progresses fun _ =>
    progresses_declaration

end Grammar

end TypedDecl
