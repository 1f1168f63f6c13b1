import TypedDecl.Error.Lex
import TypedDecl.Error.Parse
import TypedDecl.Program
import TypedDecl.Token.Basic

/-!
The log of a run: what was read, in the order it was read.
-/

namespace TypedDecl

inductive Level where
  | error
  | warn
  | info
  | debug
  | trace
  deriving DecidableEq

namespace Level

def name : Level → String
  | .error => "ERROR"
  | .warn => "WARN"
  | .info => "INFO"
  | .debug => "DEBUG"
  | .trace => "TRACE"

/-- Greater for levels that tell more. -/
def detail : Level → Nat
  | .error => 1
  | .warn => 2
  | .info => 3
  | .debug => 4
  | .trace => 5

end Level

/-- The most detailed level to be shown. -/
inductive Threshold where
  | off
  | upTo (level : Level)
  deriving DecidableEq

namespace Threshold

def shows : Threshold → Level → Bool
  | .off, _ => false
  | .upTo most, level => level.detail ≤ most.detail

end Threshold

inductive Event where
  | token (token : Token)
  | tokenizeFailed (error : LexError)
  | tokenized (count : Nat) (bytes : Nat)
  /-- A statement begins at this token. -/
  | statement (first : Token)
  /-- An initializer begins at this token. -/
  | expression (first : Token)
  | declared (declaration : Declaration)
  | recovering (error : ParseError)
  | readSource (file : String) (bytes : Nat)
  | parsed (declarations : Nat)
  deriving DecidableEq

namespace Event

def level : Event → Level
  | .token _ => .trace
  | .tokenizeFailed _ => .debug
  | .tokenized .. => .debug
  | .statement _ => .trace
  | .expression _ => .trace
  | .declared _ => .debug
  | .recovering _ => .debug
  | .readSource .. => .info
  | .parsed _ => .info

def message : Event → String
  | .token _ => "token"
  | .tokenizeFailed _ => "tokenize failed"
  | .tokenized .. => "tokenized source"
  | .statement _ => "parse_statement"
  | .expression _ => "parse_expression"
  | .declared _ => "parsed variable declaration"
  | .recovering _ => "recovering from parse error"
  | .readSource .. => "read source"
  | .parsed _ => "parsed"

def fields : Event → List (String × String)
  | .token t => [("kind", t.kind.name), ("lexeme", t.lexeme), ("offset", t.offset.repr)]
  | .tokenizeFailed error => [("error", error.message), ("offset", error.offset.repr)]
  | .tokenized count bytes => [("count", count.repr), ("bytes", bytes.repr)]
  | .statement first => [("kind", first.kind.name), ("offset", first.offset.repr)]
  | .expression first => [("kind", first.kind.name), ("offset", first.offset.repr)]
  | .declared declaration =>
      [("declared_type", declaration.type.keyword), ("name", declaration.name),
       ("initializer", declaration.initializer.text)]
  | .recovering error => [("error", error.message), ("offset", error.offset.repr)]
  | .readSource file bytes => [("file", file), ("bytes", bytes.repr)]
  | .parsed declarations => [("declarations", declarations.repr)]

def line (event : Event) : String :=
  " ".intercalate
    (event.level.name :: event.message :: event.fields.map fun (name, value) => name ++ "=" ++ value)

end Event

end TypedDecl
