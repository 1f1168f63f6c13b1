import TypedDecl.Text.Alphabetic
import TypedDecl.Text.Numeric

/-!
The classes of characters that decide where a token begins and how far it goes.
-/

namespace TypedDecl.Text

/-- Only these four separate tokens; other white space is no part of any token. -/
def isBlank (c : Char) : Bool :=
  c = ' ' || c = '\t' || c = '\n' || c = '\r'

def isAlphabetic (c : Char) : Bool := alphabetic.covers c.toNat

def isNumeric (c : Char) : Bool := numeric.covers c.toNat

def startsWord (c : Char) : Bool := isAlphabetic c || c = '_'

def continuesWord (c : Char) : Bool := isAlphabetic c || isNumeric c || c = '_'

/-- Numbers are written in ASCII digits, whatever other digits words may hold. -/
def startsNumber (c : Char) : Bool := c.isDigit

def continuesNumber (c : Char) : Bool := c.isDigit || c = '.'

def startsString (c : Char) : Bool := c = '"'

def continuesString (c : Char) : Bool := !startsString c

theorem continuesWord_of_startsWord {c : Char} (starts : startsWord c = true) :
    continuesWord c = true := by
  simp only [startsWord, continuesWord, Bool.or_eq_true] at *
  exact starts.imp_left Or.inl

theorem continuesNumber_of_startsNumber {c : Char} (starts : startsNumber c = true) :
    continuesNumber c = true := by
  simp only [startsNumber, continuesNumber, Bool.or_eq_true] at *
  exact Or.inl starts

/-- Among the ASCII characters the alphabetic ones are the letters. -/
theorem isAlphabetic_of_ascii {c : Char} (ascii : c.toNat < 128) :
    isAlphabetic c = c.isAlpha := by
  have table : ∀ n : Fin 128, alphabetic.covers n = (Char.ofNat n).isAlpha := by decide +kernel
  have := table ⟨c.toNat, ascii⟩
  simpa [isAlphabetic] using this

/-- Among the ASCII characters the numeric ones are the digits. -/
theorem isNumeric_of_ascii {c : Char} (ascii : c.toNat < 128) :
    isNumeric c = c.isDigit := by
  have table : ∀ n : Fin 128, numeric.covers n = (Char.ofNat n).isDigit := by decide +kernel
  have := table ⟨c.toNat, ascii⟩
  simpa [isNumeric] using this

end TypedDecl.Text
