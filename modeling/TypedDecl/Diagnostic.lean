/-!
What is told about an error: its message, a code, at times advice, and the places in the source
it points at.
-/

namespace TypedDecl

/-- A remark on the place between two bytes of the source. -/
structure Label where
  text : String
  offset : Nat
  deriving DecidableEq

structure Diagnostic where
  message : String
  code : String
  help : Option String := none
  labels : List Label := []
  /-- Messages of the errors this one gathers. -/
  related : List String := []
  deriving DecidableEq

end TypedDecl
