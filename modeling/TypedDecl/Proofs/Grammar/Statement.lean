import TypedDecl.Grammar.Declaration

/-!
Statements as the grammar has them.  A statement is read to its end, or up to the first token that
no declaration can have there; `StatementReply` says so without the rules, and
`statementReply_iff` says that the rules do nothing else.
-/

namespace TypedDecl

/-- A literal for a variable of some type, and its value.  A truth value is told by the kind of the
token, every other literal by its lexeme. -/
inductive Initializes : Ty → Token → Literal → Prop where
  | integer {token} : token.kind = .integer → Initializes .int token (.integer token.lexeme)
  | floating {token} : token.kind = .floating → Initializes .float token (.floating token.lexeme)
  | truth {token value} : token.kind = .truth value → Initializes .boolean token (.truth value)
  | quoted {token} : token.kind = .quoted → Initializes .string token (.quoted token.lexeme)

/-- The five tokens of a declaration. -/
inductive Group : List Token → Declaration → Prop where
  | mk {opener name equals literal semicolon type value} : opener.kind = .type type →
      name.kind = .identifier → equals.kind = .symbol .equals → Initializes type literal value →
      semicolon.kind = .symbol .semicolon →
      Group [opener, name, equals, literal, semicolon] ⟨type, name.lexeme, value⟩

/-- The tokens of a declaration that has begun, and what it needs next. -/
inductive Opening : List Token → Expectation → Prop where
  | declaration : Opening [] .declaration
  | identifier {opener type} : opener.kind = .type type → Opening [opener] .identifier
  | equals {opener name type} : opener.kind = .type type → name.kind = .identifier →
      Opening [opener, name] .equals
  | literal {opener name equals type} : opener.kind = .type type → name.kind = .identifier →
      equals.kind = .symbol .equals → Opening [opener, name, equals] .literal
  | semicolon {opener name equals literal type value} : opener.kind = .type type →
      name.kind = .identifier → equals.kind = .symbol .equals → Initializes type literal value →
      Opening [opener, name, equals, literal] .semicolon

def TokenKind.isLiteral : TokenKind → Bool
  | .integer | .floating | .truth _ | .quoted => true
  | _ => false

/-- The tokens that a declaration goes on with. -/
def Expectation.admits : Expectation → TokenKind → Bool
  | .declaration, kind => kind.type?.isSome
  | .identifier, kind => kind = .identifier
  | .equals, kind => kind = .symbol .equals
  | .literal, kind => kind.isLiteral
  | .semicolon, kind => kind = .symbol .semicolon

namespace TokenSequence

/-- The sequence consists of the tokens and, behind them, of the rest. -/
def StartsWith (ts : TokenSequence) (tokens : List Token) (rest : TokenSequence) : Prop :=
  ts.body = tokens ++ rest.body ∧ rest.last = ts.last

theorem eq_of_body_last {ts us : TokenSequence} (body : ts.body = us.body)
    (last : ts.last = us.last) : ts = us := by
  cases ts
  cases us
  simp_all

@[simp] theorem startsWith_nil {ts rest : TokenSequence} : ts.StartsWith [] rest ↔ rest = ts := by
  constructor
  · rintro ⟨body, last⟩
    exact eq_of_body_last body.symm last
  · rintro rfl
    exact ⟨rfl, rfl⟩

@[simp] theorem startsWith_cons {ts rest : TokenSequence} {token : Token} {tokens : List Token} :
    ts.StartsWith (token :: tokens) rest ↔
      ts.atEnd = false ∧ ts.first = token ∧ ts.advance.StartsWith tokens rest := by
  cases ts using TokenSequence.induction with
  | ofEnd last isEnd => simp [StartsWith]
  | cons first notEnd ts => simp [StartsWith, and_assoc]

theorem startsWith_iff_toList {ts rest : TokenSequence} {tokens : List Token} :
    ts.StartsWith tokens rest ↔ ts.toList = tokens ++ rest.toList := by
  constructor
  · rintro ⟨body, last⟩
    rw [toList, toList, body, last, List.append_assoc]
  · intro all
    rw [toList, toList, ← List.append_assoc] at all
    obtain ⟨body, last⟩ := List.append_inj' all rfl
    exact ⟨body, (List.cons.inj last).1.symm⟩

theorem StartsWith.append {ts middle rest : TokenSequence} {first second : List Token}
    (early : ts.StartsWith first middle) (late : middle.StartsWith second rest) :
    ts.StartsWith (first ++ second) rest :=
  ⟨by rw [early.1, late.1, List.append_assoc], late.2.trans early.2⟩

theorem exists_startsWith {ts : TokenSequence} {first second : List Token}
    (split : ts.body = first ++ second) : ∃ rest, ts.StartsWith first rest ∧ rest.body = second :=
  ⟨⟨second, ts.last, fun token mem => ts.body_ne_end token (by simp [split, mem]), ts.last_eq_end⟩,
    ⟨split, rfl⟩, rfl⟩

theorem StartsWith.split {ts rest : TokenSequence} {first second : List Token}
    (starts : ts.StartsWith (first ++ second) rest) :
    ∃ middle, ts.StartsWith first middle ∧ middle.StartsWith second rest := by
  obtain ⟨middle, early, late⟩ := exists_startsWith (starts.1.trans (List.append_assoc ..))
  exact ⟨middle, early, late, starts.2.trans early.2.symm⟩

theorem startsWith_first {ts : TokenSequence} {kind : TokenKind} (first : ts.first.kind = kind)
    (more : kind ≠ .endOfInput) : ts.StartsWith [ts.first] ts.advance := by
  have here : ts.atEnd = false := by simpa [atEnd, first] using more
  simp [here]

end TokenSequence

/-- What the log keeps of the tokens that were looked at: the first one and the literal. -/
def looks : List Token → List Event
  | first :: _ :: _ :: literal :: _ => [.statement first, .expression literal]
  | first :: _ => [.statement first]
  | [] => []

inductive StatementReply (ts : TokenSequence) : Reply (Except ParseError Declaration) → Prop where
  | declared {group declaration rest} : Group group declaration → ts.StartsWith group rest →
      StatementReply ts ⟨.ok declaration, rest, looks group ++ [.declared declaration]⟩
  | unexpected {begun wanted rest} : Opening begun wanted → ts.StartsWith begun rest →
      wanted.admits rest.first.kind = false →
      StatementReply ts ⟨.error (.unexpected wanted rest.first.kind rest.first.offset), rest,
        looks (begun ++ [rest.first])⟩
  | mismatch {opener name equals literal rest type value} : opener.kind = .type type →
      name.kind = .identifier → equals.kind = .symbol .equals →
      Literal.ofToken? literal = some value → type.accepts value.kind = false →
      ts.StartsWith [opener, name, equals, literal] rest →
      StatementReply ts ⟨.error (.typeMismatch type value.kind literal.offset), rest,
        looks [opener, name, equals, literal]⟩

theorem initializes_iff {type : Ty} {token : Token} {value : Literal} :
    Initializes type token value ↔
      Literal.ofToken? token = some value ∧ type.accepts value.kind = true := by
  constructor
  · intro fits
    cases fits <;> simp_all [Literal.ofToken?, Literal.kind, Ty.accepts]
  · rintro ⟨read, accepted⟩
    unfold Literal.ofToken? at read
    split at read <;> cases read <;> cases type <;>
      first
      | exact .integer ‹_›
      | exact .floating ‹_›
      | exact .truth ‹_›
      | exact .quoted ‹_›
      | cases accepted

theorem isLiteral_kind (token : Token) :
    token.kind.isLiteral = (Literal.ofToken? token).isSome := by
  unfold Literal.ofToken?
  cases token.kind <;> rfl

namespace Rule

variable {α β : Type} {wanted : Expectation} {read : Token → Option α} {ts rest : TokenSequence}
  {events : List Event}

theorem bind_apply (rule : Rule α) (next : α → Rule β) (ts : TokenSequence) :
    (rule >>= next) ts = match (rule ts).value with
      | .ok a => (next a (rule ts).rest).after (rule ts).events
      | .error error => ⟨.error error, (rule ts).rest, (rule ts).events⟩ := rfl

theorem bind_of_ok {rule : Rule α} {a : α} (next : α → Rule β)
    (done : rule ts = ⟨.ok a, rest, events⟩) :
    (rule >>= next) ts = (next a rest).after events := by
  simp [bind, andThen, done]

theorem bind_of_error {rule : Rule α} {error : ParseError} (next : α → Rule β)
    (done : rule ts = ⟨.error error, rest, events⟩) :
    (rule >>= next) ts = ⟨.error error, rest, events⟩ := by
  simp [bind, andThen, done]

theorem take_of_some {a : α} (found : read ts.first = some a) :
    take wanted read ts = ⟨.ok a, ts.advance, []⟩ := by
  simp [take, found]

theorem take_of_none (found : read ts.first = none) :
    take wanted read ts = ⟨.error (.unexpected wanted ts.first.kind ts.first.offset), ts, []⟩ := by
  simp [take, found]

end Rule

namespace Grammar

section Literals

variable {ts : TokenSequence} {value : Literal}

theorem expression_of_some (found : Literal.ofToken? ts.first = some value) :
    expression ts = ⟨.ok value, ts.advance, [.expression ts.first]⟩ := by
  rw [expression, Rule.bind_of_ok _ (Rule.look_apply ts),
    Rule.bind_of_ok _ (Rule.log_apply ts _), Rule.take_of_some found]
  rfl

theorem expression_of_none (found : Literal.ofToken? ts.first = none) :
    expression ts = ⟨.error (.unexpected .literal ts.first.kind ts.first.offset), ts,
      [.expression ts.first]⟩ := by
  rw [expression, Rule.bind_of_ok _ (Rule.look_apply ts),
    Rule.bind_of_ok _ (Rule.log_apply ts _), Rule.take_of_none found]
  rfl

theorem initializer_of_accepts {type : Ty} (found : Literal.ofToken? ts.first = some value)
    (accepted : type.accepts value.kind = true) :
    initializer type ts = ⟨.ok value, ts.advance, [.expression ts.first]⟩ := by
  rw [initializer, Rule.bind_of_ok _ (Rule.look_apply ts),
    Rule.bind_of_ok _ (expression_of_some found), if_pos accepted]
  rfl

theorem initializer_of_refuses {type : Ty} (found : Literal.ofToken? ts.first = some value)
    (refused : ¬ type.accepts value.kind = true) :
    initializer type ts = ⟨.error (.typeMismatch type value.kind ts.first.offset), ts.advance,
      [.expression ts.first]⟩ := by
  rw [initializer, Rule.bind_of_ok _ (Rule.look_apply ts),
    Rule.bind_of_ok _ (expression_of_some found), if_neg refused]
  rfl

theorem initializer_of_none {type : Ty} (found : Literal.ofToken? ts.first = none) :
    initializer type ts = ⟨.error (.unexpected .literal ts.first.kind ts.first.offset), ts,
      [.expression ts.first]⟩ := by
  rw [initializer, Rule.bind_of_ok _ (Rule.look_apply ts),
    Rule.bind_of_error _ (expression_of_none found)]
  rfl

end Literals

theorem statement_eq_after (ts : TokenSequence) :
    statement ts = (declaration ts).after [.statement ts.first] := by
  rw [statement, Rule.bind_of_ok _ (Rule.look_apply ts), Rule.bind_of_ok _ (Rule.log_apply ts _)]
  rfl

theorem statement_of_type {ts : TokenSequence} {type : Ty} (opener : ts.first.kind = .type type) :
    statement ts = (declarationOf type ts.advance).after [.statement ts.first] := by
  have read : Grammar.type ts = ⟨.ok type, ts.advance, []⟩ :=
    Rule.take_of_some (TokenKind.type?_eq_some_iff.mpr opener)
  rw [statement_eq_after, declaration, Rule.bind_of_ok _ read]
  rfl

theorem statement_of_no_type {ts : TokenSequence} (opener : ts.first.kind.type? = none) :
    statement ts = ⟨.error (.unexpected .declaration ts.first.kind ts.first.offset), ts,
      [.statement ts.first]⟩ := by
  rw [statement_eq_after, declaration, Grammar.type,
    Rule.bind_of_error _ (Rule.take_of_none opener)]
  rfl

/-- Token after token is what a declaration needs next, until one is not or none is missing. -/
theorem statement_reply (ts : TokenSequence) : StatementReply ts (statement ts) := by
  cases opener : ts.first.kind.type? with
  | none =>
    rw [statement_of_no_type opener]
    apply StatementReply.unexpected .declaration
    · simp
    · simp [Expectation.admits, opener]
  | some type =>
  rw [TokenKind.type?_eq_some_iff] at opener
  rw [statement_of_type opener]
  simp only [declarationOf, identifier, symbol]
  have begun := TokenSequence.startsWith_first opener nofun
  by_cases name : ts.advance.first.kind = .identifier
  case neg =>
    rw [Rule.bind_of_error _ (Rule.take_of_none (if_neg name))]
    apply StatementReply.unexpected (.identifier opener) begun
    simp [Expectation.admits, name]
  rw [Rule.bind_of_ok _ (Rule.take_of_some (if_pos name))]
  replace begun := begun.append (TokenSequence.startsWith_first name nofun)
  by_cases equals : ts.advance.advance.first.kind = .symbol .equals
  case neg =>
    rw [Rule.bind_of_error _ (Rule.take_of_none (if_neg equals))]
    apply StatementReply.unexpected (.equals opener name) begun
    simp [Expectation.admits, equals]
  rw [Rule.bind_of_ok _ (Rule.take_of_some (if_pos equals))]
  replace begun := begun.append (TokenSequence.startsWith_first equals nofun)
  cases literal : Literal.ofToken? ts.advance.advance.advance.first with
  | none =>
    rw [Rule.bind_of_error _ (initializer_of_none literal)]
    apply StatementReply.unexpected (.literal opener name equals) begun
    simp [Expectation.admits, isLiteral_kind, literal]
  | some value =>
  have more : ts.advance.advance.advance.first.kind ≠ .endOfInput := by
    intro isEnd
    simp [Literal.ofToken?, isEnd] at literal
  replace begun := begun.append (TokenSequence.startsWith_first rfl more)
  by_cases accepted : type.accepts value.kind = true
  case neg =>
    rw [Rule.bind_of_error _ (initializer_of_refuses literal accepted)]
    exact .mismatch opener name equals literal (by simpa using accepted) begun
  have fits := initializes_iff.mpr ⟨literal, accepted⟩
  rw [Rule.bind_of_ok _ (initializer_of_accepts literal accepted)]
  by_cases semicolon : ts.advance.advance.advance.advance.first.kind = .symbol .semicolon
  case neg =>
    rw [Rule.bind_of_error _ (Rule.take_of_none (if_neg semicolon))]
    apply StatementReply.unexpected (.semicolon opener name equals fits) begun
    simp [Expectation.admits, semicolon]
  rw [Rule.bind_of_ok _ (Rule.take_of_some (if_pos semicolon)),
    Rule.bind_of_ok _ (Rule.log_apply _ _)]
  replace begun := begun.append (TokenSequence.startsWith_first semicolon nofun)
  exact .declared (.mk opener name equals fits semicolon) begun

/-- The reply depends on nothing but the tokens that were looked at. -/
theorem statement_eq_of_reply {ts : TokenSequence} {reply : Reply (Except ParseError Declaration)}
    (found : StatementReply ts reply) : statement ts = reply := by
  cases found with
  | declared group starts =>
    obtain ⟨opener, name, equals, fits, semicolon⟩ := group
    obtain ⟨literal, accepted⟩ := initializes_iff.mp fits
    simp only [TokenSequence.startsWith_cons, TokenSequence.startsWith_nil] at starts
    obtain ⟨-, rfl, -, rfl, -, rfl, -, rfl, -, rfl, rfl⟩ := starts
    simp [statement_of_type opener, declarationOf, identifier, symbol, Rule.bind_apply, Rule.take,
      name, equals, initializer_of_accepts literal accepted, semicolon, Reply.after, looks]
  | unexpected begun starts refused =>
    cases begun <;>
      simp only [TokenSequence.startsWith_cons, TokenSequence.startsWith_nil] at starts
    case declaration =>
      subst starts
      simp only [Expectation.admits, Option.isSome_eq_false_iff,
        Option.isNone_iff_eq_none] at refused
      exact statement_of_no_type refused
    case identifier opener =>
      obtain ⟨-, rfl, rfl⟩ := starts
      simp only [Expectation.admits, decide_eq_false_iff_not] at refused
      simp [statement_of_type opener, declarationOf, identifier, Rule.bind_apply, Rule.take,
        refused, Reply.after, looks]
    case equals opener name =>
      obtain ⟨-, rfl, -, rfl, rfl⟩ := starts
      simp only [Expectation.admits, decide_eq_false_iff_not] at refused
      simp [statement_of_type opener, declarationOf, identifier, symbol, Rule.bind_apply, Rule.take,
        name, refused, Reply.after, looks]
    case literal opener name equals =>
      obtain ⟨-, rfl, -, rfl, -, rfl, rfl⟩ := starts
      simp only [Expectation.admits, isLiteral_kind, Option.isSome_eq_false_iff,
        Option.isNone_iff_eq_none] at refused
      simp [statement_of_type opener, declarationOf, identifier, symbol, Rule.bind_apply, Rule.take,
        name, equals, initializer_of_none refused, Reply.after, looks]
    case semicolon opener name equals fits =>
      obtain ⟨literal, accepted⟩ := initializes_iff.mp fits
      obtain ⟨-, rfl, -, rfl, -, rfl, -, rfl, rfl⟩ := starts
      simp only [Expectation.admits, decide_eq_false_iff_not] at refused
      simp [statement_of_type opener, declarationOf, identifier, symbol, Rule.bind_apply, Rule.take,
        name, equals, initializer_of_accepts literal accepted, refused, Reply.after, looks]
  | mismatch opener name equals literal refused starts =>
    simp only [TokenSequence.startsWith_cons, TokenSequence.startsWith_nil] at starts
    obtain ⟨-, rfl, -, rfl, -, rfl, -, rfl, rfl⟩ := starts
    rw [← Bool.not_eq_true] at refused
    simp [statement_of_type opener, declarationOf, identifier, symbol, Rule.bind_apply, Rule.take,
      name, equals, initializer_of_refuses literal refused, Reply.after, looks]

theorem statementReply_iff {ts : TokenSequence} {reply : Reply (Except ParseError Declaration)} :
    StatementReply ts reply ↔ statement ts = reply := by
  constructor
  · exact statement_eq_of_reply
  · rintro rfl
    exact statement_reply ts

end Grammar

end TypedDecl
