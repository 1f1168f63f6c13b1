/-!
The types a variable may be declared with, and the kinds of literal that may initialize it.
-/

namespace TypedDecl

inductive Ty where
  | int
  | float
  | boolean
  | string
  deriving DecidableEq

inductive LiteralKind where
  | integer
  | floating
  | truth
  | quoted
  deriving DecidableEq

/-- The word that opens a declaration of this type. -/
def Ty.keyword : Ty → String
  | .int => "int"
  | .float => "float"
  | .boolean => "bool"
  | .string => "string"

def LiteralKind.describe : LiteralKind → String
  | .integer => "an integer literal"
  | .floating => "a float literal"
  | .truth => "a boolean literal"
  | .quoted => "a string literal"

/-- Nothing is converted: an integer literal is no value for a `float`. -/
def Ty.accepts : Ty → LiteralKind → Bool
  | .int, .integer => true
  | .float, .floating => true
  | .boolean, .truth => true
  | .string, .quoted => true
  | _, _ => false

/-- A kind of literal fits one type only, so an initializer fixes the type of its variable. -/
theorem Ty.accepts_unique {s t : Ty} {kind : LiteralKind}
    (first : s.accepts kind = true) (second : t.accepts kind = true) : s = t := by
  cases s <;> cases kind <;> cases t <;> simp_all [accepts]

end TypedDecl
