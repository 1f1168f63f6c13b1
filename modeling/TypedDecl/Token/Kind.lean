import TypedDecl.Ty

/-!
The kinds of token: words with a meaning of their own, names, literals, symbols and the end
of the input.  Each kind has a name for tables and logs, and a description for messages.
-/

namespace TypedDecl

/-- Words kept for statements the grammar does not have yet. -/
inductive Reserved where
  | defWord
  | returnWord
  | ifWord
  | elifWord
  | elseWord
  deriving DecidableEq

/-- The opening and the closing half of a pair are one symbol. -/
inductive Symbol where
  | parenthesis
  | brace
  | bracket
  | equals
  | colon
  | semicolon
  | comma
  | plus
  | minus
  | times
  | divide
  | modulo
  deriving DecidableEq

inductive TokenKind where
  | reserved (word : Reserved)
  | type (type : Ty)
  | truth (value : Bool)
  | identifier
  | integer
  | floating
  | quoted
  | symbol (symbol : Symbol)
  | endOfInput
  deriving DecidableEq

def Symbol.ofChar? (c : Char) : Option Symbol :=
  match c with
  | '(' | ')' => some .parenthesis
  | '\x7b' | '\x7d' => some .brace
  | '[' | ']' => some .bracket
  | '=' => some .equals
  | ':' => some .colon
  | ';' => some .semicolon
  | ',' => some .comma
  | '+' => some .plus
  | '-' => some .minus
  | '*' => some .times
  | '/' => some .divide
  | '%' => some .modulo
  | _ => none

def Reserved.name : Reserved → String
  | .defWord => "Def"
  | .returnWord => "Return"
  | .ifWord => "If"
  | .elifWord => "Elif"
  | .elseWord => "Else"

def Symbol.name : Symbol → String
  | .parenthesis => "Parenthesis"
  | .brace => "CurlyBraces"
  | .bracket => "Brackets"
  | .equals => "EqualSign"
  | .colon => "Colon"
  | .semicolon => "Semicolon"
  | .comma => "Comma"
  | .plus => "Plus"
  | .minus => "Minus"
  | .times => "Times"
  | .divide => "Divides"
  | .modulo => "Mod"

def Reserved.describe : Reserved → String
  | .defWord => "'def'"
  | .returnWord => "'return'"
  | .ifWord => "'if'"
  | .elifWord => "'elif'"
  | .elseWord => "'else'"

def Symbol.describe : Symbol → String
  | .parenthesis => "parenthesis"
  | .brace => "curly brace"
  | .bracket => "bracket"
  | .equals => "'='"
  | .colon => "':'"
  | .semicolon => "';'"
  | .comma => "','"
  | .plus => "'+'"
  | .minus => "'-'"
  | .times => "'*'"
  | .divide => "'/'"
  | .modulo => "'%'"

namespace TokenKind

/-- The words that are no identifiers. -/
def keywords : List (String × TokenKind) :=
  [("def", .reserved .defWord), ("return", .reserved .returnWord), ("if", .reserved .ifWord),
   ("elif", .reserved .elifWord), ("else", .reserved .elseWord),
   ("int", .type .int), ("float", .type .float), ("bool", .type .boolean),
   ("string", .type .string), ("true", .truth true), ("false", .truth false)]

def ofKeyword? (word : String) : Option TokenKind := keywords.lookup word

/-- A whole word is looked up, so a keyword inside a longer word means nothing. -/
def ofWord (word : String) : TokenKind := (ofKeyword? word).getD .identifier

def type? : TokenKind → Option Ty
  | .type t => some t
  | _ => none

def name : TokenKind → String
  | .reserved word => word.name
  | .type .int => "Int"
  | .type .float => "Float"
  | .type .boolean => "Boolean"
  | .type .string => "String"
  | .truth true => "True"
  | .truth false => "False"
  | .identifier => "Identifier"
  | .integer => "IntNumber"
  | .floating => "FloatNumber"
  | .quoted => "StringLiteral"
  | .symbol s => s.name
  | .endOfInput => "Eof"

def describe : TokenKind → String
  | .reserved word => word.describe
  | .type .int => "'int'"
  | .type .float => "'float'"
  | .type .boolean => "'bool'"
  | .type .string => "'string'"
  | .truth true => "'true'"
  | .truth false => "'false'"
  | .identifier => "identifier"
  | .integer => "integer literal"
  | .floating => "float literal"
  | .quoted => "string literal"
  | .symbol s => s.describe
  | .endOfInput => "end of input"

@[simp] theorem type?_eq_some_iff {kind : TokenKind} {t : Ty} :
    kind.type? = some t ↔ kind = .type t := by
  cases kind <;> simp [type?]

/-- The word that opens a declaration is the keyword of its type. -/
@[simp] theorem ofKeyword?_keyword (t : Ty) : ofKeyword? t.keyword = some (.type t) := by
  cases t <;> decide

theorem ofWord_ne_endOfInput (word : String) : ofWord word ≠ .endOfInput := by
  have table : ∀ entry ∈ keywords, entry.2 ≠ .endOfInput := by decide
  intro isEnd
  cases found : ofKeyword? word with
  | none => simp [ofWord, found] at isEnd
  | some kind =>
    obtain ⟨before, after, split, _⟩ := List.lookup_eq_some_iff.mp found
    refine table (word, kind) (by simp [split]) ?_
    simpa [ofWord, found] using isEnd

end TokenKind

end TypedDecl
