import TypedDecl.Ty

/-!
Programs: variable declarations in source order, each with a literal for its first value.
-/

namespace TypedDecl

/-- Numbers keep the digits they are written with, strings the characters between the quotes. -/
inductive Literal where
  | integer (digits : String)
  | floating (digits : String)
  | truth (value : Bool)
  | quoted (content : String)
  deriving DecidableEq

structure Declaration where
  type : Ty
  name : String
  initializer : Literal
  deriving DecidableEq

structure Program where
  declarations : List Declaration
  deriving DecidableEq

namespace Literal

def kind : Literal → LiteralKind
  | .integer _ => .integer
  | .floating _ => .floating
  | .truth _ => .truth
  | .quoted _ => .quoted

/-- How the literal is written in a source. -/
def text : Literal → String
  | .integer digits => digits
  | .floating digits => digits
  | .truth true => "true"
  | .truth false => "false"
  | .quoted content => "\"" ++ content ++ "\""

end Literal

/-- A line of the dump of a program.  It leaves out the type. -/
def Declaration.row (declaration : Declaration) : String :=
  "VARIABLE '" ++ declaration.name ++ "' => " ++ declaration.initializer.text ++ " ;"

namespace Program

def dump (program : Program) : String :=
  "\n".intercalate (program.declarations.map Declaration.row)

def isEmpty (program : Program) : Bool := program.declarations.isEmpty

end Program

end TypedDecl
