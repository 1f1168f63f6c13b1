/-!
Fields of a table, padded with blanks.  A field wider than its column is not cut.
-/

namespace TypedDecl.Text

def blanks (n : Nat) : String := String.ofList (List.replicate n ' ')

def alignRight (width : Nat) (field : String) : String :=
  blanks (width - field.length) ++ field

def alignLeft (width : Nat) (field : String) : String :=
  field ++ blanks (width - field.length)

@[simp] theorem toList_blanks (n : Nat) : (blanks n).toList = List.replicate n ' ' := by
  simp [blanks]

theorem alignRight_of_le {width : Nat} {field : String} (wide : width ≤ field.length) :
    alignRight width field = field := by
  simp [alignRight, blanks, Nat.sub_eq_zero_of_le wide]

theorem alignLeft_of_le {width : Nat} {field : String} (wide : width ≤ field.length) :
    alignLeft width field = field := by
  simp [alignLeft, blanks, Nat.sub_eq_zero_of_le wide]

end TypedDecl.Text
